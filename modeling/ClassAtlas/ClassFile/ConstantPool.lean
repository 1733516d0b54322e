import ClassAtlas.ClassFile.Descriptor
import ClassAtlas.ClassFile.ModifiedUtf8
import ClassAtlas.Number.Binary64

/-!
# The constant pool

The pool is an array of slots, counted from one. Long and double constants take
two slots, of which the second stays empty, as does slot zero. Constants refer
to each other by slot number; `entry` is the only way in, so every reference is
checked for range and kind.
-/

namespace ClassAtlas.ClassFile

/-- One constant. References to other constants are slot numbers. -/
inductive Constant where
  | utf8 (text : String)
  | integer (value : Int)
  | float (bits : UInt32)
  | long (value : Int)
  | double (bits : UInt64)
  | classRef (name : Nat)
  | stringRef (text : Nat)
  | fieldRef (owner nameAndType : Nat)
  | methodRef (owner nameAndType : Nat)
  | interfaceMethodRef (owner nameAndType : Nat)
  | nameAndType (name descriptor : Nat)
  | methodHandle (kind reference : Nat)
  | methodType (descriptor : Nat)
  | dynamic (bootstrap nameAndType : Nat)
  | invokeDynamic (bootstrap nameAndType : Nat)
  | moduleRef (name : Nat)
  | packageRef (name : Nat)
  deriving DecidableEq, Repr

namespace Constant

/-- The byte that announces a constant of this kind. -/
def tag : Constant → Nat
  | utf8 _ => 1
  | integer _ => 3
  | float _ => 4
  | long _ => 5
  | double _ => 6
  | classRef _ => 7
  | stringRef _ => 8
  | fieldRef _ _ => 9
  | methodRef _ _ => 10
  | interfaceMethodRef _ _ => 11
  | nameAndType _ _ => 12
  | methodHandle _ _ => 15
  | methodType _ => 16
  | dynamic _ _ => 17
  | invokeDynamic _ _ => 18
  | moduleRef _ => 19
  | packageRef _ => 20

/-- Constants that take two slots. -/
def isWide : Constant → Bool
  | long _ => true
  | double _ => true
  | _ => false

/-- Reads what stands behind a tag. The slot number is what a fault shows. -/
def payloadDecoder (slot : Nat) : (tag : Nat) → Decoder Constant
  | 1 => do
    let size ← Decoder.u2
    let raw ← Decoder.take size
    return utf8 (← Decoder.lift (ModifiedUtf8.decode raw))
  | 3 => return integer (← Decoder.s4)
  | 4 => return float (UInt32.ofNat (← Decoder.u4))
  | 5 => return long (← Decoder.s8)
  | 6 => return double (UInt64.ofNat (← Decoder.unsigned 8))
  | 7 => return classRef (← Decoder.u2)
  | 8 => return stringRef (← Decoder.u2)
  | 9 => return fieldRef (← Decoder.u2) (← Decoder.u2)
  | 10 => return methodRef (← Decoder.u2) (← Decoder.u2)
  | 11 => return interfaceMethodRef (← Decoder.u2) (← Decoder.u2)
  | 12 => return nameAndType (← Decoder.u2) (← Decoder.u2)
  | 15 => return methodHandle (← Decoder.u1) (← Decoder.u2)
  | 16 => return methodType (← Decoder.u2)
  | 17 => return dynamic (← Decoder.u2) (← Decoder.u2)
  | 18 => return invokeDynamic (← Decoder.u2) (← Decoder.u2)
  | 19 => return moduleRef (← Decoder.u2)
  | 20 => return packageRef (← Decoder.u2)
  | tag => Decoder.fail (.unknownPoolTag tag slot)

/-- Reads one constant: its tag, and what the tag announces. -/
def decoder (slot : Nat) : Decoder Constant := do payloadDecoder slot (← Decoder.u1)

end Constant

/-- A constant as a plain value, for annotations. -/
inductive ConstantValue where
  | integer (value : Int)
  | real (value : Binary64)
  | text (value : String)
  deriving DecidableEq, Repr

/-- The slots of a pool, slot zero included. -/
structure ConstantPool where
  slots : Array (Option Constant)
  deriving DecidableEq, Repr

namespace ConstantPool

/-- Reads constants until `left` slots are filled, the first of them being slot `slot`. A
two-slot constant leaves its second slot empty, if the pool still has it. -/
def slotsDecoder : (slot left : Nat) → Decoder (List (Option Constant))
  | _, 0 => return []
  | slot, 1 => return [some (← Constant.decoder slot)]
  | slot, left + 2 => do
    let c ← Constant.decoder slot
    if c.isWide then
      return some c :: none :: (← slotsDecoder (slot + 2) left)
    else
      return some c :: (← slotsDecoder (slot + 1) (left + 1))

/-- Reads a pool: the number of slots, then the constants. -/
def decoder : Decoder ConstantPool := do
  match ← Decoder.u2 with
  | 0 => Decoder.fail .emptyPool
  | left + 1 => return ⟨(none :: (← slotsDecoder 1 left)).toArray⟩

/-- The number of slots, the empty ones included. -/
def size (pool : ConstantPool) : Nat := pool.slots.size

/-- The constant in a slot, if there is one. -/
def get? (pool : ConstantPool) (index : Int) : Option Constant :=
  if 0 < index then (pool.slots[index.toNat]?).join else none

/-- The constant in a slot, which must be of one of the kinds given by `tags`, if any are. -/
def entry (pool : ConstantPool) (index : Int) (tags : List Nat := []) : Except Fault Constant :=
  match pool.get? index with
  | none => .error (.poolIndex index)
  | some c =>
    if !tags.isEmpty && !tags.contains c.tag then .error (.poolTag index c.tag tags) else .ok c

/-- The text of a text constant. -/
def utf8 (pool : ConstantPool) (index : Int) : Except Fault String :=
  match pool.get? index with
  | some (.utf8 text) => .ok text
  | some c => .error (.poolTag index c.tag [1])
  | none => .error (.poolIndex index)

/-- The source name of a class constant. -/
def className (pool : ConstantPool) (index : Int) : Except Fault String :=
  match pool.get? index with
  | some (.classRef name) => do
    let internal ← pool.utf8 name
    (Descriptor.className internal).mapError .descriptor
  | some c => .error (.poolTag index c.tag [7])
  | none => .error (.poolIndex index)

/-- The name and the descriptor that a name-and-type constant pairs up. -/
def nameAndType (pool : ConstantPool) (index : Int) : Except Fault (String × String) :=
  match pool.get? index with
  | some (.nameAndType name descriptor) => return (← pool.utf8 name, ← pool.utf8 descriptor)
  | some c => .error (.poolTag index c.tag [12])
  | none => .error (.poolIndex index)

/-- A field or method named by an instruction: its owner's source name, its name, its descriptor. -/
structure MemberRef where
  owner : String
  name : String
  descriptor : String
  deriving DecidableEq, Repr

/-- Resolves a member reference, the name and descriptor before the owner. -/
def resolveMember (pool : ConstantPool) (owner nat : Nat) : Except Fault MemberRef := do
  let (name, descriptor) ← pool.nameAndType nat
  return ⟨← pool.className owner, name, descriptor⟩

/-- The member behind a field, method or interface method reference. -/
def memberRef (pool : ConstantPool) (index : Int) : Except Fault MemberRef :=
  match pool.get? index with
  | some (.fieldRef owner nat) => pool.resolveMember owner nat
  | some (.methodRef owner nat) => pool.resolveMember owner nat
  | some (.interfaceMethodRef owner nat) => pool.resolveMember owner nat
  | some c => .error (.poolTag index c.tag [9, 10, 11])
  | none => .error (.poolIndex index)

/-- The name and descriptor of a dynamic call site. -/
def invokeDynamic (pool : ConstantPool) (index : Int) : Except Fault (String × String) :=
  match pool.get? index with
  | some (.invokeDynamic _ nat) => pool.nameAndType nat
  | some c => .error (.poolTag index c.tag [18])
  | none => .error (.poolIndex index)

/-- A number or text, for annotation values. -/
def constantValue (pool : ConstantPool) (index : Int) : Except Fault ConstantValue :=
  match pool.get? index with
  | some (.integer v) => .ok (.integer v)
  | some (.long v) => .ok (.integer v)
  | some (.float bits) => .ok (.real (Binary64.ofBinary32 bits))
  | some (.double bits) => .ok (.real ⟨bits⟩)
  | some (.utf8 text) => .ok (.text text)
  | some (.stringRef text) => return .text (← pool.utf8 text)
  | some _ => .error (.notAConstant index)
  | none => .error (.poolIndex index)

end ConstantPool

end ClassAtlas.ClassFile
