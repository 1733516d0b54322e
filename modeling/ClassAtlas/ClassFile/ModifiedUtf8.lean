import ClassAtlas.ClassFile.Cursor

/-!
# Text constants

Text constants are written in an extension of UTF-8. A character takes its
shortest UTF-8 form; NUL may also be written `C0 80`; a character outside the
basic plane may also be written as its two surrogates, each in the three-byte
form. The forms may be mixed from character to character, everything else is
refused.

Constants are decoded by the codecs of plain Unicode. What is not UTF-8 as it
stands gets NUL in its plain form and is decoded once more, surrogates passing.
The code points then go through UTF-16, which joins each high surrogate with the
low one behind it and refuses a surrogate that stands alone.
-/

namespace ClassAtlas.ClassFile.ModifiedUtf8

open ClassAtlas.Text (CodecFault Utf8.decode Utf16.encode Utf16.decode ofPoints)

/-- Puts NUL for each `C0 80`, from left to right. -/
def plainNul : Bytes → Bytes
  | 0xC0 :: 0x80 :: rest => 0 :: plainNul rest
  | b :: rest => b :: plainNul rest
  | [] => []

/-- The text of bytes that are not plain UTF-8. -/
def decodeExtended (raw : Bytes) : Except CodecFault String := do
  let points ← Utf8.decode .surrogatePass (plainNul raw)
  let points ← Utf16.decode (Utf16.encode points)
  return ofPoints points

/-- The text of a constant. -/
def decode (raw : Bytes) : Except Fault String :=
  match Utf8.decode .strict raw with
  | .ok points => .ok (ofPoints points)
  | .error _ => (decodeExtended raw).mapError .invalidText

end ClassAtlas.ClassFile.ModifiedUtf8
