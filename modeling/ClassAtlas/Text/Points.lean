/-!
# Texts by code points

A text that is put together from numbers may hold surrogates: the code points
from `D800` to `DFFF`, two of which stand for one character in UTF-16, and none
of which is a character itself. Such a text is given by its code points.
-/

namespace ClassAtlas.Text

/-- A text by its code points, which may be surrogates. -/
abbrev Points := List Nat

/-- The code points of a text. -/
def points (s : String) : Points := s.toList.map Char.toNat

/-- The text of code points that are characters. -/
def ofPoints (points : Points) : String := String.ofList (points.map Char.ofNat)

/-- The first of the two surrogates of a character. -/
def isHighSurrogate (n : Nat) : Bool := 0xD800 ≤ n && n < 0xDC00

/-- The second of the two surrogates of a character. -/
def isLowSurrogate (n : Nat) : Bool := 0xDC00 ≤ n && n < 0xE000

/-- A code point that is no character. -/
def isSurrogate (n : Nat) : Bool := isHighSurrogate n || isLowSurrogate n

end ClassAtlas.Text
