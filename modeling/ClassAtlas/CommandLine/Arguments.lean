import ClassAtlas.Number.Literal
import ClassAtlas.Text.Quoted
import ClassAtlas.Text.Split

/-!
# Command-line arguments

Words that begin with a hyphen are options unless they look like a negative
number or hold a blank; behind `--` every word is an argument. A long option may
be cut short as long as one option fits, and takes its value from behind an
equals sign or from the next word. Short options can be run together.
-/

namespace ClassAtlas.CommandLine

/-- What the options ask for. -/
inductive Flag where
  | help
  | output
  | workers
  | maxDepth
  | timeout
  | verbose
  deriving DecidableEq, Repr

namespace Flag

/-- All spellings of the options. -/
def spellings : List (String × Flag) := [
  ("-h", help), ("--help", help), ("-o", output), ("--output", output), ("--workers", workers),
  ("--max-depth", maxDepth), ("--timeout", timeout), ("-v", verbose), ("--verbose", verbose)]

/-- The option that a word spells out in full. -/
def ofSpelling? (s : String) : Option Flag := spellings.lookup s

/-- Whether the option is followed by a value. -/
def takesValue : Flag → Bool
  | help => false
  | verbose => false
  | _ => true

/-- How an option is called in messages. -/
def title : Flag → String
  | help => "-h/--help"
  | output => "-o/--output"
  | workers => "--workers"
  | maxDepth => "--max-depth"
  | timeout => "--timeout"
  | verbose => "-v/--verbose"

end Flag

/-- Why arguments are not understood. -/
inductive UsageFault where
  | missingPath
  | unrecognized (words : List String)
  | ambiguous (word : String)
  | missingValue (flag : Flag)
  | unexpectedValue (flag : Flag) (value : String)
  | notInteger (flag : Flag) (value : String)
  | notReal (flag : Flag) (value : String)
  deriving DecidableEq, Repr

namespace UsageFault

/-- The wording of a usage fault. -/
def message : UsageFault → String
  | missingPath => "the following arguments are required: path"
  | unrecognized words => "unrecognized arguments: " ++ String.intercalate " " words
  | ambiguous word => "ambiguous option: " ++ word
  | missingValue flag => "argument " ++ flag.title ++ ": expected one argument"
  | unexpectedValue flag value =>
    "argument " ++ flag.title ++ ": ignored explicit argument " ++ Text.quoted value
  | notInteger flag value =>
    "argument " ++ flag.title ++ ": invalid int value: " ++ Text.quoted value
  | notReal flag value =>
    "argument " ++ flag.title ++ ": invalid float value: " ++ Text.quoted value

end UsageFault

/-- Why arguments do not lead to an analysis. -/
inductive Halt where
  | help
  | usage (cause : UsageFault)
  deriving DecidableEq, Repr

/-- What follows the name of an option in the same word. -/
inductive Tail where
  | nothing
  /-- Behind an equals sign. -/
  | assigned (value : List Char)
  /-- Right behind a short option; not empty. -/
  | glued (text : List Char)
  deriving DecidableEq, Repr

/-- A word of the command line. -/
inductive Word where
  | argument (text : String)
  | option (flag : Flag) (tail : Tail)
  | unknown (text : String)
  | separator
  deriving DecidableEq, Repr

/-- A hyphen and an integer, or a hyphen and a number with digits behind its point. -/
def looksNegative (s : String) : Bool :=
  match s.toList with
  | '-' :: rest =>
    let isDigit (c : Char) : Bool := Text.isDecimalDigit c
    match rest.dropWhile isDigit with
    | [] => !rest.isEmpty
    | '.' :: fraction => !fraction.isEmpty && fraction.all isDigit
    | _ => false
  | _ => false

/-- The name of an option and what is behind its equals sign. -/
def splitValue (s : String) : String × Tail :=
  if Text.containsText s "=" then
    let (name, value) := Text.splitFirst '=' s
    (name, .assigned value.toList)
  else (s, .nothing)

/-- The options that a word of two or more characters may be short for. -/
def abbreviated (s : String) : List Word :=
  if Text.startsWith s "--" then
    let (name, tail) := splitValue s
    (Flag.spellings.filter fun e => Text.startsWith e.1 name).map fun e => .option e.2 tail
  else
    (Flag.ofSpelling? (String.ofList (s.toList.take 2))).toList.map fun flag =>
      .option flag (.glued (s.toList.drop 2))

/-- A word with a hyphen in front that is no spelling of an option. -/
def guess (s : String) : Except Halt Word :=
  match abbreviated s with
  | [word] => .ok word
  | _ :: _ :: _ => .error (.usage (.ambiguous s))
  | [] => .ok (if looksNegative s || Text.containsText s " " then .argument s else .unknown s)

/-- Tells options from arguments. -/
def classify (s : String) : Except Halt Word :=
  if !Text.startsWith s "-" then .ok (.argument s)
  else
    match Flag.ofSpelling? s with
    | some flag => .ok (.option flag .nothing)
    | none =>
      if s = "-" then .ok (.argument s)
      else
        match splitValue s with
        | (_, .nothing) => guess s
        | (name, tail) =>
          match Flag.ofSpelling? name with
          | some flag => .ok (.option flag tail)
          | none => guess s

/-- Classifies all words; behind the separator there are only arguments. -/
def classifyAll : List String → Except Halt (List Word)
  | [] => .ok []
  | s :: rest =>
    if s = "--" then .ok (.separator :: rest.map .argument)
    else do
      let word ← classify s
      return word :: (← classifyAll rest)

/-- What the command line asks for. -/
structure Arguments where
  path : String
  output : Option String
  workers : Option Int
  maxDepth : Option Int
  timeout : Option Binary64
  verbose : Bool
  deriving DecidableEq, Repr

/-- Arguments that have been read in part. -/
structure Draft where
  path : Option String := none
  output : Option String := none
  workers : Option Int := none
  maxDepth : Option Int := none
  timeout : Option Binary64 := none
  verbose : Bool := false
  unrecognized : List String := []

namespace Draft

/-- Obeys an option; `value` is empty for options that take none. -/
def apply (d : Draft) (flag : Flag) (value : String) : Except Halt Draft :=
  match flag with
  | .help => .error .help
  | .verbose => .ok { d with verbose := true }
  | .output => .ok { d with output := some value }
  | .workers =>
    match Literal.readInt? value with
    | some n => .ok { d with workers := some n }
    | none => .error (.usage (.notInteger flag value))
  | .maxDepth =>
    match Literal.readInt? value with
    | some n => .ok { d with maxDepth := some n }
    | none => .error (.usage (.notInteger flag value))
  | .timeout =>
    match Literal.readReal? value with
    | some x => .ok { d with timeout := some x }
    | none => .error (.usage (.notReal flag value))

/-- The result once all words are read. -/
def finish (d : Draft) : Except Halt Arguments :=
  match d.path with
  | none => .error (.usage .missingPath)
  | some path =>
    if d.unrecognized.isEmpty then
      .ok ⟨path, d.output, d.workers, d.maxDepth, d.timeout, d.verbose⟩
    else .error (.usage (.unrecognized d.unrecognized))

end Draft

/-- The options of one word, each with its value if that is part of the word, and what is left
over. -/
abbrev Bundle := List (Flag × Option String) × Option String

/-- Takes apart short options that are run together. `tail` is what follows `flag`. -/
def unbundle (flag : Flag) : (tail : List Char) → Except Halt Bundle
  | [] => .ok ([(flag, none)], none)
  | c :: rest =>
    if flag.takesValue then .ok ([(flag, some (String.ofList (c :: rest)))], none)
    else if c = '-' then .error (.usage (.unexpectedValue flag (String.ofList (c :: rest))))
    else
      match Flag.ofSpelling? (String.ofList ['-', c]) with
      | none => .ok ([(flag, none)], some (String.ofList ('-' :: c :: rest)))
      | some next =>
        match rest with
        | '=' :: value =>
          if next.takesValue then
            .ok ([(flag, none), (next, some (String.ofList value))], none)
          else .error (.usage (.unexpectedValue next (String.ofList value)))
        | _ => (unbundle next rest).map fun (flags, left) => ((flag, none) :: flags, left)

/-- The options of a word. Only options that take a value can be assigned one. -/
def optionsOf (flag : Flag) : Tail → Except Halt Bundle
  | .nothing => .ok ([(flag, none)], none)
  | .assigned value =>
    if flag.takesValue then .ok ([(flag, some (String.ofList value))], none)
    else .error (.usage (.unexpectedValue flag (String.ofList value)))
  | .glued text => unbundle flag text

/-- Obeys options in turn. Only the last one can lack a value that it takes; it is then given
`spare`, which is missing if no argument follows. -/
def applyAll (spare : Option String) (d : Draft) : List (Flag × Option String) → Except Halt Draft
  | [] => .ok d
  | (flag, value) :: rest => do
    let d ← match value.or (if flag.takesValue then spare else some "") with
      | some value => d.apply flag value
      | none => throw (.usage (.missingValue flag))
    applyAll spare d rest

/-- Whether the last of the options takes its value from the next word. -/
def needsSpare (flags : List (Flag × Option String)) : Bool :=
  match flags.getLast? with
  | some (flag, none) => flag.takesValue
  | _ => false

/-- Reads words in turn. `besidePath` says whether the word before was the path: the separator has
to stand beside the path. -/
def readWords (d : Draft) (besidePath : Bool) : List Word → Except Halt Draft
  | [] => .ok d
  | .argument s :: rest =>
    match d.path with
    | none => readWords { d with path := some s } true rest
    | some _ => readWords { d with unrecognized := d.unrecognized ++ [s] } false rest
  | .separator :: rest =>
    if besidePath || d.path.isNone then readWords d besidePath rest
    else readWords { d with unrecognized := d.unrecognized ++ ["--"] } false rest
  | .unknown s :: rest => readWords { d with unrecognized := d.unrecognized ++ [s] } false rest
  | .option flag tail :: rest => do
    let (flags, left) ← optionsOf flag tail
    let d := { d with unrecognized := d.unrecognized ++ left.toList }
    if needsSpare flags then
      match rest with
      | .argument s :: rest => readWords (← applyAll (some s) d flags) false rest
      | _ => throw (.usage (.missingValue (flags.getLastD (flag, none)).1))
    else readWords (← applyAll none d flags) false rest

/-- Reads a command line. -/
def parse (words : List String) : Except Halt Arguments := do
  let d ← readWords {} false (← classifyAll words)
  d.finish

end ClassAtlas.CommandLine
