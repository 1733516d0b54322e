import ClassAtlas.Text.Codec

/-!
# What can be wrong with a class record

A `Fault` is one cause for which the body of a class record cannot be decoded,
a `HeaderFault` one for which its header is not accepted. Each has one wording,
given by `message`.
-/

namespace ClassAtlas.ClassFile

open ClassAtlas.Text (CodecFault quoted hexDigits)

/-- Why a type or method descriptor is refused; each cause carries the descriptor. -/
inductive DescriptorFault where
  | truncated (text : String)
  | unterminatedClass (text : String)
  | badCharacter (char : Char) (text : String)
  | trailing (text : String)
  | noOpening (text : String)
  | noClosing (text : String)
  | malformedParameters (text : String)
  deriving DecidableEq, Repr

/-- The wording of a descriptor fault. -/
def DescriptorFault.message : DescriptorFault → String
  | .truncated d => s!"truncated descriptor: {quoted d}"
  | .unterminatedClass d => s!"unterminated class type in descriptor: {quoted d}"
  | .badCharacter c d => s!"bad descriptor character {quoted (String.singleton c)} in {quoted d}"
  | .trailing d => s!"trailing data in field descriptor: {quoted d}"
  | .noOpening d => s!"method descriptor must start with '(': {quoted d}"
  | .noClosing d => s!"method descriptor has no ')': {quoted d}"
  | .malformedParameters d => s!"malformed parameter list in descriptor: {quoted d}"

/-- Why the part of a class record after the header is refused. -/
inductive Fault where
  /-- A read of `need` bytes at `offset` of the `subject`, of which `available` are left. -/
  | truncated (subject : String) (need : Int) (offset : Nat) (available : Int)
  | invalidText (cause : CodecFault)
  | poolIndex (index : Int)
  | poolTag (index : Int) (tag : Nat) (expected : List Nat)
  | notAConstant (index : Int)
  | emptyPool
  | unknownPoolTag (tag : Nat) (index : Nat)
  | descriptor (cause : DescriptorFault)
  | nestedTooDeep (limit : Nat)
  | charOutOfRange (value : Int)
  | unknownElementTag (tag : Char)
  | invalidOpcode (opcode : Nat) (pc : Nat)
  | tableSwitchBounds (pc : Nat)
  | lookupSwitchCount (pc : Nat)
  | moduleDescriptor (name : String)
  deriving DecidableEq, Repr

/-- Tags between parentheses; a single tag is followed by a comma. -/
def tagList : List Nat → String
  | [tag] => s!"({tag},)"
  | tags => "(" ++ String.intercalate ", " (tags.map toString) ++ ")"

/-- The wording of a fault. -/
def Fault.message : Fault → String
  | .truncated subject need offset available =>
    s!"truncated {subject}: need {need} bytes at offset {offset}, have {available}"
  | .invalidText cause => s!"invalid modified UTF-8 constant: {cause.message}"
  | .poolIndex i => s!"invalid constant pool index {i}"
  | .poolTag i tag expected =>
    s!"constant pool entry {i} has tag {tag}, expected one of {tagList expected}"
  | .notAConstant i => s!"constant pool entry {i} is not a constant value"
  | .emptyPool => "constant pool count is zero"
  | .unknownPoolTag tag i => s!"unknown constant pool tag {tag} at index {i}"
  | .descriptor cause => cause.message
  | .nestedTooDeep limit => s!"annotation element values nested deeper than {limit}"
  | .charOutOfRange v => s!"char element value {v} out of range"
  | .unknownElementTag tag => s!"unknown annotation element tag {quoted (String.singleton tag)}"
  | .invalidOpcode opcode pc =>
    s!"invalid opcode 0x{String.ofList (hexDigits 2 opcode)} at pc {pc}"
  | .tableSwitchBounds pc => s!"tableswitch with high < low at pc {pc}"
  | .lookupSwitchCount pc => s!"lookupswitch with negative pair count at pc {pc}"
  | .moduleDescriptor name => s!"{name} is a module descriptor, not a type"

/-- Why a record is not a class record at all. -/
inductive HeaderFault where
  | tooShort (size : Nat)
  | badMagic (magic : Nat)
  deriving DecidableEq, Repr

/-- The number of bytes before the constant pool. -/
def headerLength : Nat := 8

/-- The wording of a header fault. -/
def HeaderFault.message : HeaderFault → String
  | .tooShort size =>
    s!"class record is {size} bytes, shorter than the {headerLength}-byte header"
  | .badMagic magic =>
    s!"bad magic number 0x{(String.ofList (hexDigits 8 magic)).toUpper}"

/-- Why a record yields no metadata: its header, or what follows it. -/
inductive RecordFault where
  | header (cause : HeaderFault)
  | body (cause : Fault)
  deriving DecidableEq, Repr

/-- The wording of a record fault is that of its cause. -/
def RecordFault.message : RecordFault → String
  | .header cause => cause.message
  | .body cause => cause.message

end ClassAtlas.ClassFile
