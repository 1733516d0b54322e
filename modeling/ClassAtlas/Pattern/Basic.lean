import ClassAtlas.Text.CharClass

/-!
# Patterns for names

A pattern describes a set of texts: characters and classes of characters,
sequences, alternatives, repetitions, and assertions about the place in the
text. A text belongs to the set if the pattern can be matched against all of it.
-/

namespace ClassAtlas

namespace Pattern

/-- A class of characters that has a letter of its own. -/
inductive CharKind where
  | digit
  | word
  | blank
  deriving DecidableEq, Repr

/-- Whether the character with a code point is of the kind. A surrogate is of none. -/
def CharKind.holds : CharKind → Nat → Bool
  | digit, n => Text.inBounds Text.digitBounds n
  | word, n => Text.inBounds Text.wordBounds n
  | blank, n => Text.inBounds Text.blankBounds n

/-- One item of a bracketed class. -/
inductive ClassItem where
  | char (c : Char)
  | range (first last : Char)
  | kind (k : CharKind) (negated : Bool)
  deriving DecidableEq, Repr

/-- Whether an item of a class takes a code point. -/
def ClassItem.holds : ClassItem → Nat → Bool
  | char c, n => c.toNat == n
  | range first last, n => first.toNat ≤ n && n ≤ last.toNat
  | kind k negated, n => k.holds n != negated

/-- A place in the text. -/
inductive Anchor where
  /-- The start of the text. -/
  | start
  /-- The end of the text, or before a line break that ends it. -/
  | lineEnd
  /-- The very end of the text. -/
  | textEnd
  /-- Between a word character and something else. -/
  | boundary
  /-- Between two word characters or two others. The empty text has no such place. -/
  | noBoundary
  deriving DecidableEq, Repr

end Pattern

/-- What a text may look like. -/
inductive Pattern where
  | empty
  | char (c : Char)
  /-- Any character but a line break. -/
  | any
  | oneOf (items : List Pattern.ClassItem) (negated : Bool)
  | anchor (a : Pattern.Anchor)
  | seq (first second : Pattern)
  | alt (first second : Pattern)
  /-- At least `least` and at most `most` times in a row. -/
  | rep (body : Pattern) (least : Nat) (most : Option Nat)
  deriving Repr

end ClassAtlas
