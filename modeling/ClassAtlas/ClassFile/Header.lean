import ClassAtlas.ClassFile.Cursor

/-!
# The header of a class record

A class record opens with a magic number, a minor and a major format version.
Only a record that is too short has no header at all; a wrong magic number is a
header that is not valid.
-/

namespace ClassAtlas.ClassFile

/-- The first eight bytes of a record. -/
structure Header where
  magic : Nat
  minor : Nat
  major : Nat
  deriving DecidableEq, Repr

namespace Header

/-- The number every class record begins with. -/
def classMagic : Nat := 0xCAFEBABE

/-- The header of `data`, which may be missing. -/
def read (data : Option Bytes) : Except HeaderFault Header :=
  let bytes := data.getD []
  if bytes.length < headerLength then .error (.tooShort bytes.length)
  else .ok {
    magic := bigEndian (bytes.take 4)
    minor := bigEndian ((bytes.drop 4).take 2)
    major := bigEndian ((bytes.drop 6).take 2) }

/-- Whether the header is that of a class record. -/
def isValid (h : Header) : Bool := h.magic == classMagic

end Header

/-- Whether `data` begins with a valid header. -/
def validate (data : Option Bytes) : Bool :=
  match Header.read data with
  | .ok h => h.isValid
  | .error _ => false

/-- The platform release that introduced a major format version. Versions 45 to 48 carry a
leading `1.`; all later ones count on from 5. -/
def platform (major : Int) : String :=
  if 45 ≤ major ∧ major ≤ 48 then s!"Platform 1.{major - 44}" else s!"Platform {major - 44}"

end ClassAtlas.ClassFile
