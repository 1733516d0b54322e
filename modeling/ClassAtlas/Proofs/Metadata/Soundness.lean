import Mathlib.Data.List.Nodup
import ClassAtlas.Proofs.Metadata.Interpretation
import ClassAtlas.Proofs.Order.Ascending
import ClassAtlas.Proofs.Text.Split

/-!
# Extracted metadata are well formed

Whatever bytes a record consists of, what is extracted from it makes sense as a
class: names fit together, flags say the same as modifiers, parameters are those
of the descriptor and have names, nothing is listed twice. Analyses rely on this
without checking it.
-/

namespace ClassAtlas

open ClassAtlas.ClassFile

/-! ## Names -/

/-- The simple name is what stands behind the last dot. -/
theorem splitName_spec (name : String) :
    '.' ∉ (splitName name).2.toList ∧
      ((splitName name).1 = "" ∧ name = (splitName name).2 ∨
        name = (splitName name).1 ++ "." ++ (splitName name).2) := by
  unfold splitName
  cases hsplit : Text.splitLast? '.' name with
  | none => exact ⟨Text.splitLast?_eq_none_iff.mp hsplit, .inl ⟨rfl, rfl⟩⟩
  | some parts =>
      obtain ⟨front, last⟩ := parts
      obtain ⟨hname, hlast⟩ := Text.eq_of_splitLast?_eq_some hsplit
      exact ⟨hlast, .inr hname⟩

/-! ## Flags -/

/-- In a table of flags with different words, a word is listed exactly if its bit is set. -/
theorem AccessFlag.holds_iff_mem_words {flags : List AccessFlag} {flag : AccessFlag}
    (hmem : flag ∈ flags) (hnodup : (flags.map AccessFlag.word).Nodup) (access : Nat) :
    flag.holds access = true ↔ flag.word ∈ words flags access := by
  rw [words, List.mem_map]
  constructor
  · intro h
    exact ⟨flag, List.mem_filter.mpr ⟨hmem, h⟩, rfl⟩
  · rintro ⟨other, hother, hword⟩
    obtain ⟨hother, hholds⟩ := List.mem_filter.mp hother
    rwa [← List.inj_on_of_nodup_map hnodup hother hmem hword]

/-! ## Parameters -/

theorem parameterName_ne_empty (index : Nat) (candidate : Option String) :
    parameterName index candidate ≠ "" := by
  unfold parameterName
  split
  · simp
  · split
    · simp
    · assumption

theorem length_parameterSlots (first : Nat) (types : List String) :
    (parameterSlots first types).length = types.length := by
  induction types generalizing first with
  | nil => rfl
  | cons type rest ih => rw [parameterSlots, List.length_cons, List.length_cons, ih]

theorem length_parameterNames (types : List String) (declared : List (Option String))
    (isStatic : Bool) (locals : Table Nat String) :
    (parameterNames types declared isStatic locals).length = types.length := by
  unfold parameterNames
  dsimp only
  rw [List.length_map, List.length_zipIdx]
  split
  · assumption
  · rw [List.length_map, length_parameterSlots]

theorem ne_empty_of_mem_parameterNames {types : List String} {declared : List (Option String)}
    {isStatic : Bool} {locals : Table Nat String} {name : String}
    (h : name ∈ parameterNames types declared isStatic locals) : name ≠ "" := by
  obtain ⟨⟨candidate, index⟩, -, rfl⟩ := List.mem_map.mp h
  exact parameterName_ne_empty index candidate

/-! ## Well-formed metadata -/

structure FieldInfo.WellFormed (f : FieldInfo) : Prop where
  annotations : f.annotations.Nodup
  isStatic : f.isStatic = true ↔ "static" ∈ f.modifiers
  isFinal : f.isFinal = true ↔ "final" ∈ f.modifiers
  isVolatile : f.isVolatile = true ↔ "volatile" ∈ f.modifiers
  isTransient : f.isTransient = true ↔ "transient" ∈ f.modifiers

structure MethodInfo.WellFormed (m : MethodInfo) : Prop where
  annotations : m.annotations.Nodup
  annotationValues : m.annotations = m.annotationValues.keys
  types : Descriptor.methodTypes m.descriptor = .ok (m.parameters.map (·.type), m.returnType)
  parameters : ∀ (k : Nat) (p : Parameter), m.parameters[k]? = some p → p.index = k ∧ p.name ≠ ""
  isStatic : m.isStatic = true ↔ "static" ∈ m.modifiers
  isAbstract : m.isAbstract = true ↔ "abstract" ∈ m.modifiers

structure ClassInfo.WellFormed (c : ClassInfo) : Prop where
  interfaces : c.interfaces.Nodup
  annotations : c.annotations.Nodup
  annotationValues : c.annotations = c.annotationValues.keys
  simpleName : '.' ∉ c.simpleName.toList
  name : c.packageName = "" ∧ c.name = c.simpleName ∨
    c.name = c.packageName ++ "." ++ c.simpleName
  isAbstract : c.isAbstract = true ↔ "abstract" ∈ c.modifiers
  fields : ∀ f ∈ c.fields, f.WellFormed
  methods : ∀ m ∈ c.methods, m.WellFormed

theorem FieldInfo.wellFormed_ofParts (member : Member) (type : String) (annotations : Annotations) :
    (FieldInfo.ofParts member type annotations).WellFormed := by
  have hflag : ∀ flag ∈ AccessFlag.ofField, flag.holds member.access = true ↔
      flag.word ∈ AccessFlag.words AccessFlag.ofField member.access :=
    fun flag hflag => AccessFlag.holds_iff_mem_words hflag (by decide) member.access
  exact {
    annotations := annotations.nodup
    isStatic := hflag .isStatic (by decide)
    isFinal := hflag .isFinal (by decide)
    isVolatile := hflag .isVolatile (by decide)
    isTransient := hflag .isTransient (by decide) }

section Method

variable {member : Member} {types : List String} {returnType : String} {code : Option Code}
  {declared : List (Option String)} {annotations : Annotations} {exceptions : List String}

theorem MethodInfo.map_type_parameters_ofParts :
    (MethodInfo.ofParts member types returnType code declared annotations
      exceptions).parameters.map (·.type) = types := by
  have hlength : types.length ≤ (MethodInfo.namesOf member types declared code).length :=
    Nat.le_of_eq (length_parameterNames _ _ _ _).symm
  calc (MethodInfo.ofParts member types returnType code declared annotations
        exceptions).parameters.map (·.type)
      = ((((MethodInfo.namesOf member types declared code).zip types).zipIdx).map Prod.fst).map
          Prod.snd := by
        rw [MethodInfo.ofParts, List.map_map, List.map_map]
        rfl
    _ = types := by rw [List.zipIdx_map_fst, List.map_snd_zip hlength]

theorem MethodInfo.parameter_ofParts {k : Nat} {p : Parameter}
    (h : (MethodInfo.ofParts member types returnType code declared annotations
      exceptions).parameters[k]? = some p) : p.index = k ∧ p.name ≠ "" := by
  rw [MethodInfo.ofParts, List.getElem?_map, Option.map_eq_some_iff] at h
  obtain ⟨⟨⟨name, type⟩, index⟩, hrow, rfl⟩ := h
  rw [List.getElem?_zipIdx, Option.map_eq_some_iff] at hrow
  obtain ⟨_, hpair, heq⟩ := hrow
  cases heq
  have hname := (List.getElem?_zip_eq_some.mp hpair).1
  exact ⟨Nat.zero_add k, ne_empty_of_mem_parameterNames (List.mem_of_getElem? hname)⟩

theorem MethodInfo.wellFormed_ofParts
    (htypes : Descriptor.methodTypes member.descriptor = .ok (types, returnType)) :
    (MethodInfo.ofParts member types returnType code declared annotations
      exceptions).WellFormed := by
  have hflag : ∀ flag ∈ AccessFlag.ofMethod, flag.holds member.access = true ↔
      flag.word ∈ AccessFlag.words AccessFlag.ofMethod member.access :=
    fun flag hflag => AccessFlag.holds_iff_mem_words hflag (by decide) member.access
  exact {
    annotations := annotations.nodup
    annotationValues := rfl
    types := by rw [MethodInfo.map_type_parameters_ofParts]; exact htypes
    parameters := fun _ _ hp => MethodInfo.parameter_ofParts hp
    isStatic := hflag .isStatic (by decide)
    isAbstract := hflag .isAbstract (by decide) }

end Method

/-- The method is that of the member, and it calls nothing unless the member has a body. -/
structure MethodInfo.Interprets (member : Member) (m : MethodInfo) : Prop where
  name : m.name = member.name
  descriptor : m.descriptor = member.descriptor
  calls : m.calls ≠ [] → member.attributes.contains "Code" = true

theorem MethodInfo.interprets_ofMember {member : Member} {pool : ConstantPool} {m : MethodInfo}
    (h : MethodInfo.ofMember member pool = .ok m) : MethodInfo.Interprets member m := by
  obtain ⟨types, returnType, code, declared, annotations, exceptions, -, hcode, -, -, -, rfl⟩ :=
    MethodInfo.ofMember_eq_ok_iff.mp h
  refine ⟨rfl, rfl, fun hcalls => ?_⟩
  rw [Table.contains]
  cases hbody : member.attributes.get? "Code" with
  | some raw => rfl
  | none =>
      rw [Code.decode, hbody] at hcode
      cases hcode
      exact absurd rfl hcalls

theorem MethodInfo.wellFormed_ofMember {member : Member} {pool : ConstantPool} {m : MethodInfo}
    (h : MethodInfo.ofMember member pool = .ok m) : m.WellFormed := by
  obtain ⟨types, returnType, code, declared, annotations, exceptions, htypes, -, -, -, -, rfl⟩ :=
    MethodInfo.ofMember_eq_ok_iff.mp h
  exact MethodInfo.wellFormed_ofParts htypes

theorem FieldInfo.wellFormed_ofMember {member : Member} {pool : ConstantPool} {f : FieldInfo}
    (h : FieldInfo.ofMember member pool = .ok f) : f.WellFormed := by
  obtain ⟨type, annotations, -, -, rfl⟩ := FieldInfo.ofMember_eq_ok_iff.mp h
  exact FieldInfo.wellFormed_ofParts member type annotations

theorem forall_mem_of_forall₂ {α β : Type} {R : α → β → Prop} {p : β → Prop} {xs : List α}
    {ys : List β} (h : List.Forall₂ R xs ys) (hp : ∀ x y, R x y → p y) : ∀ y ∈ ys, p y := by
  induction h with
  | nil => simp
  | cons hxy _ ih => exact List.forall_mem_cons.mpr ⟨hp _ _ hxy, ih⟩

theorem ClassInfo.wellFormed_ofStructure {raw : ClassStructure} {includePrivate : Bool}
    {info : ClassInfo} (h : ClassInfo.ofStructure raw includePrivate = .ok info) :
    info.WellFormed := by
  obtain ⟨methods, fields, annotations, sourceFile, hmethods, hfields, -, -, rfl⟩ :=
    ClassInfo.ofStructure_eq_ok_iff.mp h
  obtain ⟨hsimple, hname⟩ := splitName_spec raw.name
  have habstract : AccessFlag.isAbstract ∈ AccessFlag.ofClass := by decide
  exact {
    interfaces := nodup_distinct raw.interfaces
    annotations := annotations.nodup
    annotationValues := rfl
    simpleName := hsimple
    name := hname
    isAbstract := AccessFlag.holds_iff_mem_words habstract (by decide) raw.access
    fields := forall_mem_of_forall₂ hfields fun _ _ => FieldInfo.wellFormed_ofMember
    methods := forall_mem_of_forall₂ hmethods fun _ _ => MethodInfo.wellFormed_ofMember }

/-- **Extracted metadata are well formed.** A record that yields metadata is no module descriptor.
The class, its fields and its methods are well formed, and the methods are those of the record, in
order, without calls where the record has no body. -/
theorem extractClass_wellFormed {data : Bytes} {includePrivate : Bool} {info : ClassInfo}
    (h : extractClass data includePrivate = .ok info) :
    info.WellFormed ∧ ∃ raw, ClassStructure.parse data = .ok raw ∧ raw.access &&& 0x8000 = 0 ∧
      List.Forall₂ MethodInfo.Interprets (keptMethods raw includePrivate) info.methods := by
  obtain ⟨-, raw, hparse, hmodule, hinfo⟩ := extractClass_eq_ok_iff_structure.mp h
  refine ⟨ClassInfo.wellFormed_ofStructure hinfo, raw, hparse, ?_, ?_⟩
  · simpa [AccessFlag.holds, AccessFlag.isModule] using hmodule
  · obtain ⟨methods, fields, annotations, sourceFile, hmethods, -, -, -, rfl⟩ :=
      ClassInfo.ofStructure_eq_ok_iff.mp hinfo
    exact hmethods.imp fun _ _ => MethodInfo.interprets_ofMember

theorem extractClass_wellFormed_sample :
    ∃ info, extractClass callingRecord = .ok info ∧ info.fields.length = 1 ∧
      info.methods.map (·.calls.length) = [1] ∧ info.WellFormed ∧
      ∃ raw, ClassStructure.parse callingRecord = .ok raw ∧ raw.access &&& 0x8000 = 0 ∧
        List.Forall₂ MethodInfo.Interprets (keptMethods raw true) info.methods := by
  have hparts : (extractClass callingRecord).toOption.map
      (fun info => (info.fields.length, info.methods.map (·.calls.length))) = some (1, [1]) := by
    decide +kernel
  cases h : extractClass callingRecord with
  | error fault =>
      rw [h] at hparts
      cases hparts
  | ok info =>
      rw [h] at hparts
      obtain ⟨hfields, hcalls⟩ := Prod.mk.inj (Option.some.inj hparts)
      obtain ⟨hwell, hraw⟩ := extractClass_wellFormed h
      exact ⟨info, rfl, hfields, hcalls, hwell, hraw⟩

end ClassAtlas
