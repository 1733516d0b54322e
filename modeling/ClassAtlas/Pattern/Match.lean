import ClassAtlas.Order.Ascending
import ClassAtlas.Pattern.Basic
import ClassAtlas.Text.Points

/-!
# Matching

`ends` computes all places at which a match that starts at a given place can
end, as an ascending list without repetitions. A repetition is followed until it
reaches no new places, so matching takes polynomial time and always ends.
-/

namespace ClassAtlas.Pattern

/-- The code points of a text, with random access. -/
abbrev Subject := Array Nat

/-- Whether a word character stands behind the place. -/
def isWordAt (s : Subject) (i : Nat) : Bool := (s[i]?).elim false CharKind.word.holds

/-- Whether a word character stands on one side of the place only. -/
def atBoundary (s : Subject) (i : Nat) : Bool :=
  (i != 0 && isWordAt s (i - 1)) != isWordAt s i

/-- Whether an anchor holds at a place. -/
def Anchor.holds (s : Subject) (i : Nat) : Anchor → Bool
  | start => i == 0
  | lineEnd => i == s.size || (i + 1 == s.size && s[i]? == some '\n'.toNat)
  | textEnd => i == s.size
  | boundary => atBoundary s i
  | noBoundary => s.size != 0 && !atBoundary s i

/-- Applies a step to each of the places. -/
def image (step : Nat → List Nat) (places : List Nat) : List Nat := ascending (places.flatMap step)

/-- The places after exactly `n` steps. Places that a step does not change stay. -/
def iterate (step : Nat → List Nat) : (n : Nat) → List Nat → List Nat
  | 0, places => places
  | n + 1, places =>
    let next := image step places
    if next = places then places else iterate step n next

/-- The places after at most `n` steps. -/
def closure (step : Nat → List Nat) : (n : Nat) → List Nat → List Nat
  | 0, places => places
  | n + 1, places =>
    let next := ascending (places ++ image step places)
    if next = places then places else closure step n next

/-- The place behind one character that satisfies a test. -/
def oneChar (s : Subject) (i : Nat) (test : Nat → Bool) : List Nat :=
  match s[i]? with
  | some c => if test c then [i + 1] else []
  | none => []

/-- The places at which a match from place `i` can end. -/
def ends (s : Subject) : Pattern → Nat → List Nat
  | .empty, i => [i]
  | .char c, i => oneChar s i (· == c.toNat)
  | .any, i => oneChar s i (· != '\n'.toNat)
  | .oneOf items negated, i => oneChar s i fun c => items.any (·.holds c) != negated
  | .anchor a, i => if a.holds s i then [i] else []
  | .seq p q, i => image (ends s q) (ends s p i)
  | .alt p q, i => ascending (ends s p i ++ ends s q i)
  | .rep p least most, i =>
    let reached := iterate (ends s p) least [i]
    -- a longer run than the text has places reaches nothing new
    closure (ends s p) (min ((most.map (· - least)).getD (s.size + 1)) (s.size + 1)) reached

/-- Whether the pattern can be matched against the whole text. -/
def matchesWhole (p : Pattern) (text : Text.Points) : Bool :=
  let s : Subject := text.toArray
  (ends s p 0).contains s.size

end ClassAtlas.Pattern
