import ClassAtlas.Text.CaseTable
import ClassAtlas.Text.CharClass

/-!
# Upper and lower case

Case mapping by the Unicode standard, for whole texts: one letter may become
several, and a capital sigma becomes the final form at the end of a word.
-/

namespace ClassAtlas.Text

/-- Whether the shift applies to a code point. -/
def CaseShift.covers (s : CaseShift) (n : Nat) : Bool :=
  s.first ≤ n && n ≤ s.last && (n - s.first) % s.step == 0

/-- The code point in the other case, itself if no shift applies. -/
def shiftCase (shifts : List CaseShift) (c : Char) : Char :=
  match shifts.find? (·.covers c.toNat) with
  | some s => Char.ofNat ((c.toNat : Int) + s.delta).toNat
  | none => c

/-- Whether a letter is upper case. -/
def isUpperCase (c : Char) : Bool :=
  upperCaseRuns.any fun (first, last, step) =>
    first ≤ c.toNat && c.toNat ≤ last && (c.toNat - first) % step == 0

/-- Whether the nearest character that is not passed over is a cased letter. -/
def nextIsCased (cs : List Char) : Bool :=
  match cs.dropWhile fun c => inBounds caseIgnorableBounds c.toNat with
  | c :: _ => inBounds casedBounds c.toNat
  | [] => false

/-- Lower case of one letter between the letters `before` it, nearest first, and `after` it. -/
def lowerChar (before : List Char) (c : Char) (after : List Char) : List Char :=
  if c.toNat = 0x3a3 then
    [Char.ofNat (if nextIsCased before && !nextIsCased after then 0x3c2 else 0x3c3)]
  else if c.toNat = 0x130 then [Char.ofNat 0x69, Char.ofNat 0x307]
  else [shiftCase lowerShifts c]

/-- Lower case of the rest of a text; `before` is what stands in front, the nearest first. -/
def lowerFrom (before : List Char) : List Char → List Char
  | [] => []
  | c :: after => lowerChar before c after ++ lowerFrom (c :: before) after

/-- Lower case, where a character may depend on its neighbours. -/
def lowerChars (cs : List Char) : List Char := lowerFrom [] cs

/-- Upper case of one character, which may take several. -/
def upperChar (c : Char) : List Char :=
  match upperExpansions.find? fun e => e.1 = c.toNat with
  | some (_, ns) => ns.map Char.ofNat
  | none => [shiftCase upperShifts c]

/-- Upper case, character by character. -/
def upperChars (cs : List Char) : List Char := cs.flatMap upperChar

/-- A text in lower case. -/
def lower (s : String) : String := String.ofList (lowerChars s.toList)

/-- A text in upper case. -/
def upper (s : String) : String := String.ofList (upperChars s.toList)

end ClassAtlas.Text
