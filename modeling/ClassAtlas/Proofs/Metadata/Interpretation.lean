import Mathlib.Data.List.Forall2
import ClassAtlas.Proofs.Metadata.Extract
import ClassAtlas.Proofs.Notices

/-!
# The parts of interpreted classes

A field, a method or a class is put together from parts that are decoded one by
one, and it exists exactly if each of them does. The statements here name the
parts and say what is made of them; nothing else is known of an interpretation
and nothing else is needed.
-/

namespace ClassAtlas

open ClassAtlas.ClassFile
open ClassAtlas.Noted (exists_of_bind_eq_ok mapError_eq_ok_iff)

section Except

variable {ε α β : Type}

theorem exists_eq_ok_of_isSome {x : Except ε α} (h : x.toOption.isSome = true) :
    ∃ a, x = .ok a := by
  cases x with
  | error e => cases h
  | ok a => exact ⟨a, rfl⟩

theorem mapM_eq_ok_iff {f : α → Except ε β} {xs : List α} {ys : List β} :
    xs.mapM f = .ok ys ↔ List.Forall₂ (fun x y => f x = .ok y) xs ys := by
  induction xs generalizing ys with
  | nil =>
      rw [List.forall₂_nil_left_iff]
      constructor
      · intro h
        cases h
        rfl
      · rintro rfl
        rfl
  | cons x rest ih =>
      rw [List.mapM_cons, List.forall₂_cons_left_iff]
      constructor
      · intro h
        obtain ⟨y, hy, h⟩ := exists_of_bind_eq_ok h
        obtain ⟨ys, hys, h⟩ := exists_of_bind_eq_ok h
        cases h
        exact ⟨y, ys, hy, ih.mp hys, rfl⟩
      · rintro ⟨y, ys, hy, hys, rfl⟩
        rw [hy, ih.mpr hys]
        rfl

end Except

/-! ## Members -/

/-- A field with the given type and annotations. -/
def FieldInfo.ofParts (member : Member) (type : String) (annotations : Annotations) : FieldInfo where
  name := member.name
  type := type
  modifiers := AccessFlag.words AccessFlag.ofField member.access
  annotations := annotations.keys
  isStatic := AccessFlag.isStatic.holds member.access
  isFinal := AccessFlag.isFinal.holds member.access
  isVolatile := AccessFlag.isVolatile.holds member.access
  isTransient := AccessFlag.isTransient.holds member.access

theorem FieldInfo.ofMember_eq_ok_iff {member : Member} {pool : ConstantPool} {field : FieldInfo} :
    FieldInfo.ofMember member pool = .ok field ↔
      ∃ type annotations, Descriptor.fieldType member.descriptor = .ok type ∧
        Annotations.decode member.attributes pool = .ok annotations ∧
        field = .ofParts member type annotations := by
  constructor
  · intro h
    obtain ⟨type, htype, h⟩ := exists_of_bind_eq_ok h
    obtain ⟨annotations, hdecode, h⟩ := exists_of_bind_eq_ok h
    cases h
    exact ⟨type, annotations, mapError_eq_ok_iff.mp htype, hdecode, rfl⟩
  · rintro ⟨type, annotations, htype, hdecode, rfl⟩
    rw [FieldInfo.ofMember, htype, hdecode]
    rfl

/-- Where a method has a body, it is decoded if the body is. -/
theorem ClassFile.Code.decode_eq_ok_iff {attributes : Attributes} {pool : ConstantPool}
    {raw : Bytes} {code : Option Code} (hbody : attributes.get? "Code" = some raw) :
    Code.decode attributes pool = .ok code ↔
      ∃ decoded, Code.ofBody raw pool = .ok decoded ∧ code = some decoded := by
  constructor
  · intro h
    rw [Code.decode, hbody] at h
    obtain ⟨decoded, hdecoded, hok⟩ := exists_of_bind_eq_ok h
    cases hok
    exact ⟨decoded, hdecoded, rfl⟩
  · rintro ⟨decoded, hdecoded, rfl⟩
    rw [Code.decode, hbody]
    show (Code.ofBody raw pool >>= _) = _
    rw [hdecoded]
    rfl

/-- The names of a method's parameters, by its declared names and its body. -/
def MethodInfo.namesOf (member : Member) (types : List String) (declared : List (Option String))
    (code : Option Code) : List String :=
  parameterNames types declared (AccessFlag.isStatic.holds member.access)
    ((code.map (·.locals)).getD ∅)

/-- A method with the given types, body, declared names, annotations and exceptions. -/
def MethodInfo.ofParts (member : Member) (types : List String) (returnType : String)
    (code : Option Code) (declared : List (Option String)) (annotations : Annotations)
    (exceptions : List String) : MethodInfo where
  name := member.name
  returnType := returnType
  parameters := (((MethodInfo.namesOf member types declared code).zip types).zipIdx).map
    fun ((name, type), index) => { name, type, index }
  modifiers := AccessFlag.words AccessFlag.ofMethod member.access
  annotations := annotations.keys
  calls := callsOf code
  isStatic := AccessFlag.isStatic.holds member.access
  isAbstract := AccessFlag.isAbstract.holds member.access
  descriptor := member.descriptor
  exceptions := exceptions
  annotationValues := annotations

theorem MethodInfo.ofMember_eq_ok_iff {member : Member} {pool : ConstantPool} {m : MethodInfo} :
    MethodInfo.ofMember member pool = .ok m ↔
      ∃ types returnType code declared annotations exceptions,
        Descriptor.methodTypes member.descriptor = .ok (types, returnType) ∧
        Code.decode member.attributes pool = .ok code ∧
        declaredNames member.attributes pool = .ok declared ∧
        Annotations.decode member.attributes pool = .ok annotations ∧
        declaredExceptions member.attributes pool = .ok exceptions ∧
        m = .ofParts member types returnType code declared annotations exceptions := by
  constructor
  · intro h
    obtain ⟨⟨types, returnType⟩, htypes, h⟩ := exists_of_bind_eq_ok h
    obtain ⟨code, hcode, h⟩ := exists_of_bind_eq_ok h
    obtain ⟨declared, hdeclared, h⟩ := exists_of_bind_eq_ok h
    obtain ⟨annotations, hdecode, h⟩ := exists_of_bind_eq_ok h
    obtain ⟨exceptions, hexceptions, h⟩ := exists_of_bind_eq_ok h
    cases h
    exact ⟨types, returnType, code, declared, annotations, exceptions,
      mapError_eq_ok_iff.mp htypes, hcode, hdeclared, hdecode, hexceptions, rfl⟩
  · rintro ⟨types, returnType, code, declared, annotations, exceptions, htypes, hcode, hdeclared,
      hdecode, hexceptions, rfl⟩
    rw [MethodInfo.ofMember, htypes, hcode, hdeclared, hdecode, hexceptions]
    rfl

/-! ## Classes -/

/-- The methods that are interpreted. -/
def keptMethods (raw : ClassStructure) (includePrivate : Bool) : List Member :=
  raw.methods.filter fun m => includePrivate || !AccessFlag.isPrivate.holds m.access

/-- A class with the given methods, fields, annotations and source file. -/
def ClassInfo.ofParts (raw : ClassStructure) (methods : List MethodInfo) (fields : List FieldInfo)
    (annotations : Annotations) (sourceFile : Option String) : ClassInfo where
  name := raw.name
  simpleName := (splitName raw.name).2
  packageName := (splitName raw.name).1
  kind := ClassKind.ofStructure raw
  superclass := raw.superclass
  interfaces := distinct raw.interfaces
  annotations := annotations.keys
  modifiers := AccessFlag.words AccessFlag.ofClass raw.access
  fields := fields
  methods := methods
  isAbstract := AccessFlag.isAbstract.holds raw.access
  sourceFile := sourceFile
  major := raw.major
  minor := raw.minor
  annotationValues := annotations

theorem ClassInfo.ofStructure_eq_ok_iff {raw : ClassStructure} {includePrivate : Bool}
    {info : ClassInfo} :
    ClassInfo.ofStructure raw includePrivate = .ok info ↔
      ∃ methods fields annotations sourceFile,
        List.Forall₂ (fun member m => MethodInfo.ofMember member raw.pool = .ok m)
          (keptMethods raw includePrivate) methods ∧
        List.Forall₂ (fun member f => FieldInfo.ofMember member raw.pool = .ok f)
          raw.fields fields ∧
        Annotations.decode raw.attributes raw.pool = .ok annotations ∧
        sourceFileOf raw.attributes raw.pool = .ok sourceFile ∧
        info = .ofParts raw methods fields annotations sourceFile := by
  constructor
  · intro h
    obtain ⟨methods, hmethods, h⟩ := exists_of_bind_eq_ok h
    obtain ⟨fields, hfields, h⟩ := exists_of_bind_eq_ok h
    obtain ⟨annotations, hdecode, h⟩ := exists_of_bind_eq_ok h
    obtain ⟨sourceFile, hsource, h⟩ := exists_of_bind_eq_ok h
    cases h
    exact ⟨methods, fields, annotations, sourceFile, mapM_eq_ok_iff.mp hmethods,
      mapM_eq_ok_iff.mp hfields, hdecode, hsource, rfl⟩
  · rintro ⟨methods, fields, annotations, sourceFile, hmethods, hfields, hdecode, hsource, rfl⟩
    have hmapM := mapM_eq_ok_iff.mpr hmethods
    rw [keptMethods] at hmapM
    rw [ClassInfo.ofStructure, hmapM, mapM_eq_ok_iff.mpr hfields, hdecode, hsource]
    rfl

/-- A record yields metadata if its header is valid, its structure is decoded, it is no module
descriptor, and its structure can be interpreted. -/
theorem extractClass_eq_ok_iff_structure {data : Bytes} {includePrivate : Bool} {info : ClassInfo} :
    extractClass data includePrivate = .ok info ↔
      validate (some data) = true ∧ ∃ raw, ClassStructure.parse data = .ok raw ∧
        AccessFlag.isModule.holds raw.access = false ∧
        ClassInfo.ofStructure raw includePrivate = .ok info := by
  rw [extractClass_eq_ok_iff]
  refine and_congr_right fun _ => ?_
  constructor
  · intro h
    obtain ⟨raw, hparse⟩ := exists_parse_of_extractBody h
    rw [extractBody_of_parse hparse] at h
    cases hmodule : AccessFlag.isModule.holds raw.access with
    | true =>
        rw [hmodule] at h
        cases h
    | false =>
        rw [hmodule] at h
        exact ⟨raw, hparse, hmodule, h⟩
  · rintro ⟨raw, hparse, hmodule, h⟩
    rw [extractBody_of_parse hparse, hmodule]
    exact h

/-- An abstract class with a static final field and a static method that calls itself. -/
def callingRecord : Bytes :=
  [0xCA, 0xFE, 0xBA, 0xBE, 0, 0, 0, 61,
    -- constants: the class, the names of the members, their descriptors, the call
    0, 9, 1, 0, 3, 0x70, 0x2F, 0x41, 7, 0, 1, 1, 0, 1, 0x6D, 1, 0, 4, 0x28, 0x49, 0x29, 0x56,
    1, 0, 4, 0x43, 0x6F, 0x64, 0x65, 1, 0, 1, 0x49, 12, 0, 3, 0, 4, 10, 0, 2, 0, 7,
    4, 0x21, 0, 2, 0, 0, 0, 0,
    -- the field and the method with its body
    0, 1, 0, 0x18, 0, 3, 0, 6, 0, 0,
    0, 1, 0, 9, 0, 3, 0, 4, 0, 1, 0, 5, 0, 0, 0, 16,
    0, 0, 0, 1, 0, 0, 0, 4, 0xB8, 0, 8, 0xB1, 0, 0, 0, 0,
    0, 0]

end ClassAtlas
