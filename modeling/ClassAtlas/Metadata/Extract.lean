import ClassAtlas.ClassFile.Code
import ClassAtlas.ClassFile.Header
import ClassAtlas.Metadata.Basic
import ClassAtlas.Text.Split

/-!
# From a class record to metadata

`extractClass` checks the header, decodes the structure and interprets flags,
descriptors and attributes. It either returns complete metadata or says why
not; there is no partial result.
-/

namespace ClassAtlas

open ClassAtlas.ClassFile

/-- Bits of an access mask. The same bit means different things on classes, fields and methods. -/
structure AccessFlag where
  mask : Nat
  word : String
  deriving DecidableEq, Repr

namespace AccessFlag

def isPublic : AccessFlag := ⟨0x0001, "public"⟩
def isPrivate : AccessFlag := ⟨0x0002, "private"⟩
def isProtected : AccessFlag := ⟨0x0004, "protected"⟩
def isStatic : AccessFlag := ⟨0x0008, "static"⟩
def isFinal : AccessFlag := ⟨0x0010, "final"⟩
def isSynchronized : AccessFlag := ⟨0x0020, "synchronized"⟩
def isVolatile : AccessFlag := ⟨0x0040, "volatile"⟩
def isTransient : AccessFlag := ⟨0x0080, "transient"⟩
def isNative : AccessFlag := ⟨0x0100, "native"⟩
def isInterface : AccessFlag := ⟨0x0200, "interface"⟩
def isAbstract : AccessFlag := ⟨0x0400, "abstract"⟩
def isStrict : AccessFlag := ⟨0x0800, "strictfp"⟩
def isAnnotation : AccessFlag := ⟨0x2000, "annotation"⟩
def isEnum : AccessFlag := ⟨0x4000, "enum"⟩
def isModule : AccessFlag := ⟨0x8000, "module"⟩

/-- Whether an access mask has the bit. -/
def holds (flag : AccessFlag) (access : Nat) : Bool := access &&& flag.mask != 0

/-- The flags that give modifiers of a class. -/
def ofClass : List AccessFlag := [isPublic, isFinal, isAbstract]

/-- The flags that give modifiers of a field. -/
def ofField : List AccessFlag :=
  [isPublic, isPrivate, isProtected, isStatic, isFinal, isVolatile, isTransient]

/-- The flags that give modifiers of a method. -/
def ofMethod : List AccessFlag :=
  [isPublic, isPrivate, isProtected, isStatic, isFinal, isSynchronized, isNative, isAbstract,
    isStrict]

/-- The words for the bits that are set, in the order of the table. -/
def words (flags : List AccessFlag) (access : Nat) : List String :=
  (flags.filter (·.holds access)).map (·.word)

end AccessFlag

/-- The kind of a class. An annotation is also an interface; the more special kind wins. -/
def ClassKind.ofStructure (raw : ClassStructure) : ClassKind :=
  if AccessFlag.isAnnotation.holds raw.access then .annotationType
  else if AccessFlag.isInterface.holds raw.access then .interface
  else if AccessFlag.isEnum.holds raw.access then .enum
  else if raw.attributes.contains "Record" || raw.superclass == some "java.lang.Record" then .record
  else .ordinary

/-- Package and simple name; a name without a dot has the empty package. -/
def splitName (name : String) : String × String := (Text.splitLast? '.' name).getD ("", name)

/-- The names in the table of method parameters, `none` for an unnamed one. -/
def declaredNames (attributes : Attributes) (pool : ConstantPool) :
    Except Fault (List (Option String)) :=
  match attributes.get? "MethodParameters" with
  | none => .ok []
  | some raw =>
    let nameDecoder : Decoder (Option String) := do
      let slot ← Decoder.u2
      let _ ← Decoder.u2
      match slot with
      | 0 => return none
      | slot => return some (← Decoder.lift (pool.utf8 slot))
    let namesDecoder : Decoder (List (Option String)) := do
      Decoder.times (← Decoder.u1) nameDecoder
    namesDecoder.runOn "MethodParameters" raw

/-- The exceptions a method declares. -/
def declaredExceptions (attributes : Attributes) (pool : ConstantPool) :
    Except Fault (List String) :=
  match attributes.get? "Exceptions" with
  | none => .ok []
  | some raw => (Decoder.counted (ClassStructure.classNameDecoder pool)).runOn "Exceptions" raw

/-- The name of the source file, if it is recorded. -/
def sourceFileOf (attributes : Attributes) (pool : ConstantPool) : Except Fault (Option String) :=
  match attributes.get? "SourceFile" with
  | none => .ok none
  | some raw =>
    let nameDecoder : Decoder String := do
      Decoder.lift (pool.utf8 (← Decoder.u2))
    return some (← nameDecoder.runOn "SourceFile" raw)

/-- The name of the parameter at `index`: the candidate, unless it is missing or empty. -/
def parameterName (index : Nat) (candidate : Option String) : String :=
  match candidate with
  | none => s!"arg{index}"
  | some name => if name = "" then s!"arg{index}" else name

/-- The slots in which parameters of the given types arrive, from `first` on. -/
def parameterSlots (first : Nat) : List String → List Nat
  | [] => []
  | type :: types => first :: parameterSlots (first + Descriptor.slotSize type) types

/-- Parameter names. A table of method parameters counts if it has as many rows as there are
parameters, otherwise the names of the local variables in the parameters' slots do. Slot zero of
an instance method holds the receiver. -/
def parameterNames (types : List String) (declared : List (Option String)) (isStatic : Bool)
    (locals : Table Nat String) : List String :=
  let candidates :=
    if declared.length = types.length then declared
    else (parameterSlots (if isStatic then 0 else 1) types).map locals.get?
  (candidates.zipIdx).map fun (candidate, index) => parameterName index candidate

/-- The field that a member stands for. -/
def FieldInfo.ofMember (member : Member) (pool : ConstantPool) : Except Fault FieldInfo := do
  let type ← (Descriptor.fieldType member.descriptor).mapError .descriptor
  let annotations ← Annotations.decode member.attributes pool
  return {
    name := member.name
    type := type
    modifiers := AccessFlag.words AccessFlag.ofField member.access
    annotations := annotations.keys
    isStatic := AccessFlag.isStatic.holds member.access
    isFinal := AccessFlag.isFinal.holds member.access
    isVolatile := AccessFlag.isVolatile.holds member.access
    isTransient := AccessFlag.isTransient.holds member.access }

/-- The calls of a method body with their lines. -/
def callsOf (code : Option Code) : List MethodCall :=
  match code with
  | none => []
  | some code => code.invocations.map fun call =>
    { owner := call.owner, name := call.name, descriptor := call.descriptor,
      line := (code.lineAt call.pc).map Int.ofNat }

/-- The method that a member stands for. -/
def MethodInfo.ofMember (member : Member) (pool : ConstantPool) : Except Fault MethodInfo := do
  let (types, returnType) ← (Descriptor.methodTypes member.descriptor).mapError .descriptor
  let code ← Code.decode member.attributes pool
  let declared ← declaredNames member.attributes pool
  let isStatic := AccessFlag.isStatic.holds member.access
  let locals := (code.map (·.locals)).getD ∅
  let names := parameterNames types declared isStatic locals
  let annotations ← Annotations.decode member.attributes pool
  let exceptions ← declaredExceptions member.attributes pool
  return {
    name := member.name
    returnType := returnType
    parameters := ((names.zip types).zipIdx).map fun ((name, type), index) => { name, type, index }
    modifiers := AccessFlag.words AccessFlag.ofMethod member.access
    annotations := annotations.keys
    calls := callsOf code
    isStatic := isStatic
    isAbstract := AccessFlag.isAbstract.holds member.access
    descriptor := member.descriptor
    exceptions := exceptions
    annotationValues := annotations }

/-- Interprets a decoded structure. Private methods are left out unless asked for. -/
def ClassInfo.ofStructure (raw : ClassStructure) (includePrivate : Bool) :
    Except Fault ClassInfo := do
  let kept := raw.methods.filter fun m => includePrivate || !AccessFlag.isPrivate.holds m.access
  let methods ← kept.mapM (MethodInfo.ofMember · raw.pool)
  let fields ← raw.fields.mapM (FieldInfo.ofMember · raw.pool)
  let annotations ← Annotations.decode raw.attributes raw.pool
  let sourceFile ← sourceFileOf raw.attributes raw.pool
  let (packageName, simpleName) := splitName raw.name
  return {
    name := raw.name
    simpleName := simpleName
    packageName := packageName
    kind := ClassKind.ofStructure raw
    superclass := raw.superclass
    interfaces := distinct raw.interfaces
    annotations := annotations.keys
    modifiers := AccessFlag.words AccessFlag.ofClass raw.access
    fields := fields
    methods := methods
    isAbstract := AccessFlag.isAbstract.holds raw.access
    sourceFile := sourceFile
    major := raw.major
    minor := raw.minor
    annotationValues := annotations }

/-- Decodes what follows the header. A module descriptor is not a class. -/
def extractBody (data : Bytes) (includePrivate : Bool) : Except Fault ClassInfo := do
  let raw ← ClassStructure.parse data
  if AccessFlag.isModule.holds raw.access then
    throw (.moduleDescriptor raw.name)
  ClassInfo.ofStructure raw includePrivate

/-- Metadata of a class record, or the reason why there is none. -/
def extractClass (data : Bytes) (includePrivate : Bool := true) : Except RecordFault ClassInfo := do
  let header ← (Header.read (some data)).mapError .header
  if !header.isValid then
    throw (.header (.badMagic header.magic))
  (extractBody data includePrivate).mapError .body

end ClassAtlas
