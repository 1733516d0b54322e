/-!
# Reading from the front of a text

A reader takes characters from the front of what is left, or refuses. Faults are
not analysed: the formats read this way are accepted or refused as a whole.
-/

namespace ClassAtlas.Text

/-- Reads from the front of a list of characters. -/
abbrev Reader (α : Type) := StateT (List Char) Option α

namespace Reader

/-- Refuses whatever is left. -/
def refuse {α : Type} : Reader α := fun _ => none

/-- The next character, which stays. -/
def peek : Reader (Option Char) := fun cs => some (cs.head?, cs)

/-- The next character, which is taken. -/
def next : Reader (Option Char) := fun cs => some (cs.head?, cs.tail)

/-- Whether nothing is left. -/
def atEnd : Reader Bool := fun cs => some (cs.isEmpty, cs)

/-- Takes the character if it is the next one. -/
def accept (c : Char) : Reader Bool := fun cs =>
  match cs with
  | d :: rest => if c = d then some (true, rest) else some (false, cs)
  | [] => some (false, cs)

/-- Takes the text if it comes next. -/
def acceptText (s : String) : Reader Bool := fun cs =>
  let expected := s.toList
  if expected.isPrefixOf cs then some (true, cs.drop expected.length) else some (false, cs)

/-- Takes the character, which has to be the next one. -/
def expect (c : Char) : Reader Unit := do
  unless ← accept c do refuse

/-- Takes the text, which has to come next. -/
def expectText (s : String) : Reader Unit := do
  unless ← acceptText s do refuse

/-- Takes characters as long as they satisfy the condition. -/
def takeWhile (p : Char → Bool) : Reader (List Char) := fun cs =>
  some (cs.takeWhile p, cs.dropWhile p)

/-- Drops characters as long as they satisfy the condition. -/
def skipWhile (p : Char → Bool) : Reader Unit := fun cs => some ((), cs.dropWhile p)

/-- Takes ASCII digits. -/
def digits : Reader (List Char) := takeWhile Char.isDigit

/-- Reads a whole text; nothing may be left. -/
def readAll {α : Type} (r : Reader α) (cs : List Char) : Option α :=
  match r cs with
  | some (a, []) => some a
  | _ => none

end Reader

/-- The number that a run of ASCII digits writes. -/
def numeral (ds : List Char) : Nat := ds.foldl (fun n d => n * 10 + (d.toNat - 48)) 0

/-- The value of a hexadecimal digit. -/
def hexDigitValue? (c : Char) : Option Nat :=
  if '0' ≤ c ∧ c ≤ '9' then some (c.toNat - 48)
  else if 'a' ≤ c ∧ c ≤ 'f' then some (c.toNat - 87)
  else if 'A' ≤ c ∧ c ≤ 'F' then some (c.toNat - 55)
  else none

/-- The number that the digits write in a base up to sixteen. -/
def numeralIn? (base : Nat) (ds : List Char) : Option Nat :=
  (ds.mapM hexDigitValue?).map (·.foldl (fun n d => n * base + d) 0)

/-- Every `\r\n` and every other `\r` becomes one line feed. -/
def unifyLineBreaks : List Char → List Char
  | '\r' :: '\n' :: rest => '\n' :: unifyLineBreaks rest
  | '\r' :: rest => '\n' :: unifyLineBreaks rest
  | c :: rest => c :: unifyLineBreaks rest
  | [] => []

/-- The text that bytes encode in UTF-8, if they do. -/
def ofUtf8? (data : List UInt8) : Option String := String.fromUTF8? ⟨data.toArray⟩

/-- Cuts blanks off both ends. -/
def trimmedBy (p : Char → Bool) (cs : List Char) : List Char :=
  ((cs.dropWhile p).reverse.dropWhile p).reverse

end ClassAtlas.Text
