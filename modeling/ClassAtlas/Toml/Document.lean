import ClassAtlas.Toml.Token

/-!
# Settings files

A file is a sequence of statements: pairs of a key and a value, and headers that
choose the table to which the pairs below them belong. A table may be opened by a
header once only, and what an inline value holds cannot be extended later.
`parse?` gives the root table, or nothing for a file that breaks a rule.
-/

namespace ClassAtlas.Toml

open ClassAtlas.Text (Reader)

/-- The pairs of a table, oldest first. -/
abbrev Entries := List (String × Setting)

namespace Entries

/-- Puts another value in the place of a key that is there. -/
def replace (key : String) (value : Setting) (t : Entries) : Entries :=
  t.map fun e => if e.1 = key then (key, value) else e

/-- Changes the table at the end of a path. Tables missing on the way are created. A list of
tables stands for its last table where `throughLists` says so; no other value can be entered. -/
def changeAt (throughLists : Bool) (change : Entries → Option Entries) :
    List String → Entries → Option Entries
  | [], t => change t
  | k :: ks, t =>
    match t.lookup k with
    | none => (changeAt throughLists change ks []).map fun sub => t ++ [(k, .table sub)]
    | some (.table sub) =>
      (changeAt throughLists change ks sub).map fun sub => replace k (.table sub) t
    | some (.list items) =>
      match throughLists, items.getLast? with
      | true, some (.table sub) =>
        (changeAt throughLists change ks sub).map fun sub =>
          replace k (.list (items.dropLast ++ [.table sub])) t
      | _, _ => none
    | some _ => none

/-- Adds a pair; the key must be new. -/
def add (key : String) (value : Setting) (t : Entries) : Option Entries :=
  if (t.lookup key).isSome then none else some (t ++ [(key, value)])

/-- Adds an empty table to the list under a key, which is created if it is missing. -/
def addToList (key : String) (t : Entries) : Option Entries :=
  match t.lookup key with
  | none => some (t ++ [(key, .list [.table []])])
  | some (.list items) => some (replace key (.list (items ++ [.table []])) t)
  | some _ => none

end Entries

/-- A path of keys from the root. -/
abbrev Path := List String

/-- Whether a value has values inside. -/
def isCompound : Setting → Bool
  | .list _ => true
  | .table _ => true
  | _ => false

/-- The path itself or one above it is among those given. -/
def isWithin (paths : List Path) (path : Path) : Bool := paths.any (·.isPrefixOf path)

/-- A file that has been read in part. -/
structure Draft where
  root : Entries
  /-- The table to which pairs now belong. -/
  header : Path
  /-- Tables that no header may open again. -/
  opened : List Path
  /-- Values that were written in one piece. -/
  sealed : List Path
  /-- Tables made by keys of several parts; they count as opened from the next header on. -/
  pending : List Path

namespace Draft

/-- The document before its first line. -/
def empty : Draft := ⟨[], [], [], [], []⟩

/-- A header comes next. -/
def settle (d : Draft) : Draft := { d with opened := d.opened ++ d.pending, pending := [] }

/-- A header in single brackets. -/
def openTable (d : Draft) (path : Path) : Option Draft :=
  if path ∈ d.opened || isWithin d.sealed path then none
  else
    (Entries.changeAt true some path d.root).map fun root =>
      { d with root := root, header := path, opened := d.opened ++ [path] }

/-- A header in double brackets: one more table of a list. What was known of the tables below
belonged to the list's previous table. -/
def openListed (d : Draft) (path : Path) : Option Draft :=
  if isWithin d.sealed path then none
  else
    (Entries.changeAt true (Entries.addToList (path.getLastD "")) path.dropLast d.root).map fun root =>
      { d with
        root := root
        header := path
        opened := (d.opened.filter fun p => !path.isPrefixOf p) ++ [path]
        sealed := d.sealed.filter fun p => !path.isPrefixOf p }

/-- The tables that the parts of a key before the last one lead through, from the outside in. -/
def tablesAbove (header key : Path) : List Path :=
  (List.range (key.length - 1)).map fun i => header ++ key.take (i + 1)

/-- A pair of a key and a value. -/
def put (d : Draft) (key : Path) (value : Setting) : Option Draft :=
  let above := tablesAbove d.header key
  let parent := d.header ++ key.dropLast
  if above.any (· ∈ d.opened) || isWithin d.sealed parent then none
  else
    (Entries.changeAt true (Entries.add (key.getLastD "") value) parent d.root).map fun root =>
      { d with
        root := root
        sealed := if isCompound value then d.sealed ++ [d.header ++ key] else d.sealed
        pending := d.pending ++ above }

end Draft

/-- An inline table that has been read in part, and the values in it that were written in one
piece. -/
abbrev InlineDraft := Entries × List Path

/-- A pair of an inline table. -/
def InlineDraft.put (d : InlineDraft) (key : Path) (value : Setting) : Option InlineDraft :=
  if isWithin d.2 key then none
  else
    (Entries.changeAt false (Entries.add (key.getLastD "") value) key.dropLast d.1).map fun t =>
      (t, if isCompound value then d.2 ++ [key] else d.2)

mutual

/-- A value of any kind. -/
def value : (fuel : Nat) → Reader Setting
  | 0 => Reader.refuse
  | fuel + 1 => do
    match ← Reader.peek with
    | some '"' => return .text (← text)
    | some '\'' => return .text (← text)
    | some '[' =>
      Reader.expect '['
      skipFiller fuel
      if ← Reader.accept ']' then return .list [] else return .list (← listItems fuel)
    | some '\x7b' =>
      Reader.expect '\x7b'
      skipGap
      if ← Reader.accept '\x7d' then return .table [] else return .table (← inlinePairs fuel ([], []))
    | _ =>
      if ← Reader.acceptText "true" then return .boolean true
      else if ← Reader.acceptText "false" then return .boolean false
      else scalar

/-- The items of a list up to its closing bracket. A comma may stand behind the last one. -/
def listItems : (fuel : Nat) → Reader (List Setting)
  | 0 => Reader.refuse
  | fuel + 1 => do
    let item ← value fuel
    skipFiller fuel
    if ← Reader.accept ']' then return [item]
    Reader.expect ','
    skipFiller fuel
    if ← Reader.accept ']' then return [item]
    return item :: (← listItems fuel)

/-- The pairs of an inline table up to its closing brace. -/
def inlinePairs : (fuel : Nat) → InlineDraft → Reader Entries
  | 0, _ => Reader.refuse
  | fuel + 1, draft => do
    let k ← key
    Reader.expect '='
    skipGap
    let v ← value fuel
    match draft.put k v with
    | none => Reader.refuse
    | some draft =>
      skipGap
      if ← Reader.accept '\x7d' then return draft.1
      Reader.expect ','
      skipGap
      inlinePairs fuel draft

end

/-- Room enough for every step of reading what is left. -/
def wholeValue : Reader Setting := fun cs => value (2 * cs.length + 2) cs

/-- A statement that starts with the given character. -/
def statement (d : Draft) (first : Char) : Reader Draft := do
  if first = '[' then
    let d := d.settle
    if ← Reader.acceptText "[[" then
      skipGap
      let path ← key
      match d.openListed path with
      | none => Reader.refuse
      | some d => Reader.expectText "]]"; return d
    else
      Reader.expect '['
      skipGap
      let path ← key
      match d.openTable path with
      | none => Reader.refuse
      | some d => Reader.expect ']'; return d
  else if first = '#' then return d
  else
    let k ← key
    Reader.expect '='
    skipGap
    let v ← wholeValue
    match d.put k v with
    | none => Reader.refuse
    | some d => return d

/-- The statements of a file, one to a line. -/
def statements : (fuel : Nat) → Draft → Reader Draft
  | 0, _ => Reader.refuse
  | fuel + 1, d => do
    skipGap
    match ← Reader.peek with
    | none => return d
    | some '\n' =>
      Reader.expect '\n'
      statements fuel d
    | some c =>
      let d ← statement d c
      skipGap
      skipComment
      if ← Reader.atEnd then return d
      Reader.expect '\n'
      statements fuel d

/-- Every `\r\n` becomes a line feed; any other carriage return stays. -/
def joinLineBreaks : List Char → List Char
  | '\r' :: '\n' :: rest => '\n' :: joinLineBreaks rest
  | c :: rest => c :: joinLineBreaks rest
  | [] => []

/-- The root table of a file. -/
def parse? (source : String) : Option Entries :=
  let cs := joinLineBreaks source.toList
  (Reader.readAll (statements (cs.length + 1) Draft.empty) cs).map Draft.root

end ClassAtlas.Toml
