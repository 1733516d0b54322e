import ClassAtlas.Number.Binary64
import ClassAtlas.Text.CharClass

/-!
# Numbers as users write them

Integers and reals in decimal notation, as they are accepted from a command line:
digits of any script, single underscores between digits, white space around the
number.
-/

namespace ClassAtlas.Literal

open ClassAtlas.Text (digitBounds inBounds isBlank)

/-- The value of a decimal digit of any script. The digits of a script follow each other. -/
def digitValue? (c : Char) : Option Nat :=
  let below := digitBounds.takeWhile (· ≤ c.toNat)
  if below.length % 2 = 1 then some ((c.toNat - below.getLastD 0) % 10) else none

/-- White space around a number. Of the ASCII characters the separators of records do not count. -/
def isMargin (c : Char) : Bool := isBlank c && !(0x1c ≤ c.toNat && c.toNat ≤ 0x1f)

/-- A character with digits of any script replaced by the ASCII ones. -/
def plainDigit (c : Char) : Char :=
  match digitValue? c with
  | some d => Char.ofNat (48 + d)
  | none => c

/-- A number in plain digits without the white space around it. -/
def normalize (s : String) : List Char :=
  let cs := ((s.toList.dropWhile isMargin).reverse.dropWhile isMargin).reverse
  cs.map plainDigit

/-- The characters without underscores, each of which must stand between two digits. `previous`
says whether a digit stands before the first character. -/
def dropUnderscores? (previous : Bool) : List Char → Option (List Char)
  | [] => some []
  | '_' :: rest =>
    if previous && (rest.head?.map Char.isDigit).getD false then dropUnderscores? false rest
    else none
  | c :: rest => (dropUnderscores? c.isDigit rest).map (c :: ·)

/-- The sign of a number and the rest. -/
def splitSign : List Char → Bool × List Char
  | '-' :: rest => (true, rest)
  | '+' :: rest => (false, rest)
  | cs => (false, cs)

/-- The number that decimal digits stand for. -/
def natOfDigits (ds : List Char) : Nat := ds.foldl (fun n d => n * 10 + (d.toNat - 48)) 0

/-- The greatest number of digits of an integer. -/
def maxDigits : Nat := 4300

/-- The integer that a text spells, with an optional sign and single underscores between digits. -/
def readInt? (s : String) : Option Int := do
  let (negative, digits) := splitSign (← dropUnderscores? false (normalize s))
  if digits.isEmpty || !digits.all Char.isDigit || maxDigits < digits.length then none
  else some (if negative then -(natOfDigits digits : Int) else natOfDigits digits)

/-- The exponent at the end of a real; a real may have none. -/
def readExponent? : List Char → Option Int
  | [] => some 0
  | c :: rest =>
    if c = 'e' ∨ c = 'E' then
      let (negative, digits) := splitSign rest
      if digits.isEmpty || !digits.all Char.isDigit then none
      else some (if negative then -(natOfDigits digits : Int) else natOfDigits digits)
    else none

/-- A real without its sign. -/
def readMagnitude? (negative : Bool) (cs : List Char) : Option Binary64 :=
  let word := String.ofList (cs.map Char.toLower)
  if word = "inf" ∨ word = "infinity" then some (Binary64.infinity negative)
  else if word = "nan" then some (Binary64.quietNaN negative)
  else
    let whole := cs.takeWhile Char.isDigit
    let rest := cs.dropWhile Char.isDigit
    let (fraction, rest) :=
      match rest with
      | '.' :: rest => (rest.takeWhile Char.isDigit, rest.dropWhile Char.isDigit)
      | _ => ([], rest)
    if whole.isEmpty && fraction.isEmpty then none
    else
      (readExponent? rest).map fun exponent =>
        Binary64.ofDecimal negative (natOfDigits (whole ++ fraction)) (exponent - fraction.length)

/-- The nearest number to the one that a text spells. -/
def readReal? (s : String) : Option Binary64 := do
  let (negative, rest) := splitSign (← dropUnderscores? false (normalize s))
  readMagnitude? negative rest

end ClassAtlas.Literal
