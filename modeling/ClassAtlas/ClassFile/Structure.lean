import ClassAtlas.ClassFile.ConstantPool
import ClassAtlas.Order.Table

/-!
# The structure of a class record

Behind the header stand the constant pool, the class's own names, and the
tables of its fields, methods and attributes. The body of an attribute is kept
as bytes under its name; of several attributes with one name the first counts.
-/

namespace ClassAtlas.ClassFile

/-- Attributes by name, not yet decoded. -/
abbrev Attributes := Table String Bytes

/-- A field or method as it stands in the record. -/
structure Member where
  access : Nat
  name : String
  descriptor : String
  attributes : Attributes

/-- A class record behind its magic number. -/
structure ClassStructure where
  minor : Nat
  major : Nat
  pool : ConstantPool
  access : Nat
  name : String
  superclass : Option String
  interfaces : List String
  fields : List Member
  methods : List Member
  attributes : Attributes

namespace Attributes

/-- The first of several attributes with one name counts. -/
def ofList (entries : List (String × Bytes)) : Attributes :=
  entries.foldl (fun t e => t.insertIfNew e.1 e.2) ∅

/-- One attribute: the slot of its name, its size, its body. -/
def entryDecoder (pool : ConstantPool) : Decoder (String × Bytes) := do
  let name ← Decoder.lift (pool.utf8 (← Decoder.u2))
  let size ← Decoder.u4
  return (name, ← Decoder.take size)

/-- A counted table of attributes. -/
def decoder (pool : ConstantPool) : Decoder Attributes := do
  return ofList (← Decoder.counted (entryDecoder pool))

end Attributes

/-- A field or method: flags, slots of name and descriptor, attributes. -/
def Member.decoder (pool : ConstantPool) : Decoder Member := do
  let access ← Decoder.u2
  let name ← Decoder.lift (pool.utf8 (← Decoder.u2))
  let descriptor ← Decoder.lift (pool.utf8 (← Decoder.u2))
  return { access, name, descriptor, attributes := ← Attributes.decoder pool }

namespace ClassStructure

/-- A class name given by its slot. -/
def classNameDecoder (pool : ConstantPool) : Decoder String := do
  Decoder.lift (pool.className (← Decoder.u2))

/-- The name of the superclass; slot zero stands for none. -/
def superclassDecoder (pool : ConstantPool) : Decoder (Option String) := do
  match ← Decoder.u2 with
  | 0 => return none
  | slot => return some (← Decoder.lift (pool.className slot))

/-- Everything behind the magic number. -/
def decoder : Decoder ClassStructure := do
  let minor ← Decoder.u2
  let major ← Decoder.u2
  let pool ← ConstantPool.decoder
  let access ← Decoder.u2
  let name ← classNameDecoder pool
  let superclass ← superclassDecoder pool
  let interfaces ← Decoder.counted (classNameDecoder pool)
  let fields ← Decoder.counted (Member.decoder pool)
  let methods ← Decoder.counted (Member.decoder pool)
  let attributes ← Attributes.decoder pool
  return { minor, major, pool, access, name, superclass, interfaces, fields, methods, attributes }

/-- The cursor behind the magic number, which is not looked at. -/
def start (data : Bytes) : Cursor := Cursor.at "class record" data 4

/-- Decodes a record whose header has been checked. -/
def parse (data : Bytes) : Except Fault ClassStructure :=
  (decoder.run (start data)).map Prod.fst

end ClassStructure

end ClassAtlas.ClassFile
