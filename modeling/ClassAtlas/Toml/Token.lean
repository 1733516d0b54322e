import ClassAtlas.Settings.Value
import ClassAtlas.Text.Reader

/-!
# The lexical parts of settings files

Keys, strings, numbers, dates and times, and what may stand between them. The
line break is `\n` throughout.
-/

namespace ClassAtlas.Toml

open ClassAtlas.Text (Reader hexDigitValue? numeral numeralIn?)

/-- White space inside a line. -/
def isGap (c : Char) : Bool := c == ' ' || c == '\t'

/-- White space that may go over several lines. -/
def isGapOrBreak (c : Char) : Bool := isGap c || c == '\n'

/-- Characters of keys that need no quotes. -/
def isBareKeyChar (c : Char) : Bool := c.isAlphanum || c == '-' || c == '_'

/-- Control characters that no line of a file may hold; the tab is allowed. -/
def isForbidden (c : Char) : Bool := (c.toNat < 0x20 && c != '\t') || c.toNat == 0x7f

/-- Drops white space inside a line. -/
def skipGap : Reader Unit := Reader.skipWhile isGap

/-- Skips a comment, up to the line break behind it. -/
def skipComment : Reader Unit := do
  if ← Reader.accept '#' then
    let body ← Reader.takeWhile (· != '\n')
    if body.any isForbidden then Reader.refuse

/-- Skips gaps, line breaks and comments. -/
def skipFiller : (fuel : Nat) → Reader Unit
  | 0 => Reader.refuse
  | fuel + 1 => do
    Reader.skipWhile isGapOrBreak
    if (← Reader.peek) = some '#' then
      skipComment
      skipFiller fuel

/-! ## Strings -/

/-- A character written with exactly `n` hexadecimal digits. -/
def hexChar (n : Nat) (cs : List Char) : Option (List Char × List Char) :=
  match numeralIn? 16 (cs.take n) with
  | some code =>
    if (cs.take n).length = n ∧ code.isValidChar then some ([Char.ofNat code], cs.drop n) else none
  | none => none

/-- What an escape stands for; the backslash has been read. In a string of several lines a
backslash before the end of a line skips all white space that follows. -/
def escape (multiline : Bool) : List Char → Option (List Char × List Char)
  | 'b' :: rest => some ([Char.ofNat 8], rest)
  | 't' :: rest => some (['\t'], rest)
  | 'n' :: rest => some (['\n'], rest)
  | 'f' :: rest => some ([Char.ofNat 12], rest)
  | 'r' :: rest => some (['\r'], rest)
  | '"' :: rest => some (['"'], rest)
  | '\\' :: rest => some (['\\'], rest)
  | 'u' :: rest => hexChar 4 rest
  | 'U' :: rest => hexChar 8 rest
  | c :: rest =>
    if multiline && isGapOrBreak c then
      match (c :: rest).dropWhile isGap with
      | [] => some ([], [])
      | '\n' :: rest => some ([], rest.dropWhile isGapOrBreak)
      | _ => none
    else none
  | [] => none

/-- The rest of a string in double quotes, up to its closing quotes. -/
def basicBody (multiline : Bool) : (fuel : Nat) → List Char → Option (List Char × List Char)
  | 0, _ => none
  | _ + 1, [] => none
  | fuel + 1, c :: rest =>
    if c = '"' then
      if !multiline then some ([], rest)
      else if ['"', '"'].isPrefixOf rest then some ([], rest.drop 2)
      else (basicBody multiline fuel rest).map fun (body, rest) => (c :: body, rest)
    else if c = '\\' then do
      let (chars, rest) ← escape multiline rest
      let (body, rest) ← basicBody multiline fuel rest
      some (chars ++ body, rest)
    else if isForbidden c && !(multiline && c == '\n') then none
    else (basicBody multiline fuel rest).map fun (body, rest) => (c :: body, rest)

/-- The rest of a string in single quotes on one line. -/
def literalBody : List Char → Option (List Char × List Char)
  | [] => none
  | c :: rest =>
    if c = '\'' then some ([], rest)
    else if isForbidden c then none
    else (literalBody rest).map fun (body, rest) => (c :: body, rest)

/-- The rest of a string in triple single quotes. -/
def literalLines : List Char → Option (List Char × List Char)
  | [] => none
  | c :: rest =>
    if c = '\'' && ['\'', '\''].isPrefixOf rest then some ([], rest.drop 2)
    else if isForbidden c && c != '\n' then none
    else (literalLines rest).map fun (body, rest) => (c :: body, rest)

/-- Up to two more quotes may stand before the closing three; they belong to the string. -/
def extraQuotes (quote : Char) (body : List Char) : List Char → List Char × List Char
  | c :: d :: rest =>
    if c = quote then if d = quote then (body ++ [c, d], rest) else (body ++ [c], d :: rest)
    else (body, c :: d :: rest)
  | [c] => if c = quote then (body ++ [c], []) else (body, [c])
  | [] => (body, [])

/-- A line break right behind the opening quotes is not part of the string. -/
def dropFirstBreak : List Char → List Char
  | '\n' :: rest => rest
  | cs => cs

/-- A string in double quotes on one line. -/
def basicText : Reader String := fun cs =>
  match cs with
  | '"' :: rest => (basicBody false (rest.length + 1) rest).map fun (b, rest) => (String.ofList b, rest)
  | _ => none

/-- A string in single quotes on one line. -/
def literalText : Reader String := fun cs =>
  match cs with
  | '\'' :: rest => (literalBody rest).map fun (body, rest) => (String.ofList body, rest)
  | _ => none

/-- A string of any of the four forms. -/
def text : Reader String := fun cs =>
  if ['"', '"', '"'].isPrefixOf cs then do
    let rest := dropFirstBreak (cs.drop 3)
    let (body, rest) ← basicBody true (rest.length + 1) rest
    let (body, rest) := extraQuotes '"' body rest
    some (String.ofList body, rest)
  else if ['\'', '\'', '\''].isPrefixOf cs then do
    let (body, rest) ← literalLines (dropFirstBreak (cs.drop 3))
    let (body, rest) := extraQuotes '\'' body rest
    some (String.ofList body, rest)
  else if cs.head? = some '"' then basicText cs
  else literalText cs

/-! ## Keys -/

/-- One part of a dotted key, quoted or bare. -/
def keyPart : Reader String := do
  match ← Reader.peek with
  | some '"' => basicText
  | some '\'' => literalText
  | some c =>
    if isBareKeyChar c then return String.ofList (← Reader.takeWhile isBareKeyChar)
    else Reader.refuse
  | none => Reader.refuse

/-- The parts of a key behind the first one. -/
def keyRest : (fuel : Nat) → Reader (List String)
  | 0 => Reader.refuse
  | fuel + 1 => do
    skipGap
    if ← Reader.accept '.' then
      skipGap
      let part ← keyPart
      return part :: (← keyRest fuel)
    else return []

/-- A key of one or more parts, and the gap behind it. -/
def key : Reader (List String) := do
  let first ← keyPart
  let rest ← fun cs => keyRest (cs.length + 1) cs
  return first :: rest

/-! ## Numbers -/

/-- Digits behind a digit; a single underscore may stand between two digits. -/
def moreDigits (p : Char → Bool) : List Char → List Char × List Char
  | '_' :: c :: rest =>
    if p c then let (ds, rest) := moreDigits p rest; (c :: ds, rest) else ([], '_' :: c :: rest)
  | c :: rest =>
    if p c then let (ds, rest) := moreDigits p rest; (c :: ds, rest) else ([], c :: rest)
  | [] => ([], [])

/-- A run of digits, which starts with a digit. -/
def digitRun (p : Char → Bool) : List Char → List Char × List Char
  | c :: rest => if p c then moreDigits p (c :: rest) else ([], c :: rest)
  | [] => ([], [])

/-- An integer in base 16, 8 or 2. -/
def basedInteger (cs : List Char) : Option (Setting × List Char) :=
  let inBase (base : Nat) (p : Char → Bool) (rest : List Char) : Option (Setting × List Char) :=
    let (ds, rest) := digitRun p rest
    if ds.isEmpty then none else (numeralIn? base ds).map fun n => (Setting.integer n, rest)
  match cs with
  | '0' :: 'x' :: rest => inBase 16 (fun c => (hexDigitValue? c).isSome) rest
  | '0' :: 'b' :: rest => inBase 2 (fun c => c == '0' || c == '1') rest
  | '0' :: 'o' :: rest => inBase 8 (fun c => '0' ≤ c && c ≤ '7') rest
  | _ => none

/-- The sign in front of a number, if there is one. -/
def sign : List Char → Bool × List Char
  | '-' :: rest => (true, rest)
  | '+' :: rest => (false, rest)
  | cs => (false, cs)

/-- The digits behind a point. -/
def fractionPart : List Char → List Char × List Char
  | '.' :: rest =>
    let (ds, rest') := digitRun Char.isDigit rest
    if ds.isEmpty then ([], '.' :: rest) else (ds, rest')
  | cs => ([], cs)

/-- The exponent of a number, if there is one. -/
def exponentPart (cs : List Char) : Option Int × List Char :=
  match cs with
  | c :: rest =>
    if c = 'e' ∨ c = 'E' then
      let (negative, rest') := sign rest
      let (ds, rest') := digitRun Char.isDigit rest'
      if ds.isEmpty then (none, cs)
      else (some (if negative then -(numeral ds : Int) else numeral ds), rest')
    else (none, cs)
  | [] => (none, cs)

/-- A decimal number: an integer, unless it has a fraction or an exponent. -/
def decimal (cs : List Char) : Option (Setting × List Char) :=
  let (negative, rest) := sign cs
  let (whole, rest) :=
    match rest with
    | '0' :: rest => (['0'], rest)
    | _ => digitRun Char.isDigit rest
  if whole.isEmpty then none
  else
    let (fraction, rest) := fractionPart rest
    let (exponent, rest) := exponentPart rest
    if fraction.isEmpty && exponent.isNone then
      some (.integer (if negative then -(numeral whole : Int) else numeral whole), rest)
    else
      let value := Binary64.ofDecimal negative (numeral (whole ++ fraction))
        (exponent.getD 0 - fraction.length)
      some (.real value, rest)

/-- Infinity and what is no number. -/
def specialReal (cs : List Char) : Option (Setting × List Char) :=
  let (negative, rest) := sign cs
  if ['i', 'n', 'f'].isPrefixOf rest then some (.real (Binary64.infinity negative), rest.drop 3)
  else if ['n', 'a', 'n'].isPrefixOf rest then
    some (.real (Binary64.quietNaN negative), rest.drop 3)
  else none

/-! ## Dates and times -/

/-- A number of exactly `n` digits between two bounds. -/
def fixedNumber (n low high : Nat) (cs : List Char) : Option (Nat × List Char) :=
  let ds := cs.take n
  if ds.length = n ∧ ds.all Char.isDigit ∧ low ≤ numeral ds ∧ numeral ds ≤ high then
    some (numeral ds, cs.drop n)
  else none

/-- What is left behind a character that has to come first. -/
def afterChar (c : Char) : List Char → Option (List Char)
  | d :: rest => if c = d then some rest else none
  | [] => none

/-- Skips a time of day, to the second or more precise. -/
def skipTime (cs : List Char) : Option (List Char) := do
  let (_, rest) ← fixedNumber 2 0 23 cs
  let (_, rest) ← fixedNumber 2 0 59 (← afterChar ':' rest)
  let (_, rest) ← fixedNumber 2 0 59 (← afterChar ':' rest)
  match rest with
  | '.' :: c :: more => some (if c.isDigit then more.dropWhile Char.isDigit else rest)
  | _ => some rest

/-- Skips the distance from universal time, if it is given. -/
def skipOffset (cs : List Char) : List Char :=
  match cs with
  | c :: rest =>
    if c = 'Z' ∨ c = 'z' then rest
    else if c = '+' ∨ c = '-' then
      (do
        let (_, rest) ← fixedNumber 2 0 23 rest
        let (_, rest) ← fixedNumber 2 0 59 (← afterChar ':' rest)
        some rest).getD cs
    else cs
  | [] => cs

/-- Leap years of the Gregorian calendar. -/
def isLeapYear (year : Nat) : Bool := year % 4 == 0 && (year % 100 != 0 || year % 400 == 0)

/-- The number of days of a month. -/
def daysInMonth (year month : Nat) : Nat :=
  if month = 2 then (if isLeapYear year then 29 else 28)
  else if month ∈ [4, 6, 9, 11] then 30 else 31

/-- Skips a date with an optional time behind it. The flag says whether the day exists. -/
def skipDate (cs : List Char) : Option (Bool × List Char) := do
  let (year, rest) ← fixedNumber 4 0 9999 cs
  let (month, rest) ← fixedNumber 2 1 12 (← afterChar '-' rest)
  let (day, rest) ← fixedNumber 2 1 31 (← afterChar '-' rest)
  let dayExists := 0 < year && day ≤ daysInMonth year month
  match rest with
  | c :: more =>
    if c = 'T' ∨ c = 't' ∨ c = ' ' then
      some (dayExists, ((skipTime more).map skipOffset).getD rest)
    else some (dayExists, rest)
  | [] => some (dayExists, rest)

/-- What was taken from the front, as a moment. -/
def momentBetween (cs rest : List Char) : Setting :=
  .moment (String.ofList (cs.take (cs.length - rest.length)))

/-- A date, a time or a number. -/
def scalar : Reader Setting := fun cs =>
  match skipDate cs with
  | some (valid, rest) => if valid then some (momentBetween cs rest, rest) else none
  | none =>
    match skipTime cs with
    | some rest => some (momentBetween cs rest, rest)
    | none => (basedInteger cs).or ((decimal cs).or (specialReal cs))

end ClassAtlas.Toml
