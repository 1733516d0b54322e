import ClassAtlas.Proofs.ClassFile.Rows
import ClassAtlas.Proofs.Metadata.Soundness
import ClassAtlas.Proofs.Order.Table

/-!
# Where parameter names come from

A parameter is named by its row in the table of method parameters, if that table
has as many rows as the method has parameters, and otherwise by the local
variable in the slot that it arrives in. The slots are counted up from type to
type; in closed form the slot of a parameter is its position, one more for each
wide type in front of it, and one more for the receiver. Of the variables with
one slot the first that is live from the start counts, so rows of other slots and
rows that start later make no difference.
-/

namespace ClassAtlas

namespace ClassFile

open Decoder

/-! ## Declared names -/

/-- A row of the table of method parameters: the slot of a name in the pool, or zero, and flags. -/
structure ParameterRow where
  name : BitVec 16
  access : BitVec 16
  deriving DecidableEq

namespace ParameterRow

def layout (r : ParameterRow) : Bytes :=
  bigEndianBytes 2 r.name.toNat ++ bigEndianBytes 2 r.access.toNat

/-- The name at a slot of the pool; there is none at slot zero. -/
inductive NameAt (pool : ConstantPool) : Nat → Option String → Prop
  | unnamed : NameAt pool 0 none
  | named {slot : Nat} {text : String} (hslot : slot ≠ 0) (htext : pool.utf8 slot = .ok text) :
      NameAt pool slot (some text)

def nameDecoder (pool : ConstantPool) : Nat → Decoder (Option String)
  | 0 => return none
  | slot => return some (← Decoder.lift (pool.utf8 slot))

def decoder (pool : ConstantPool) : Decoder (Option String) := do
  let slot ← Decoder.u2
  let _ ← Decoder.u2
  nameDecoder pool slot

theorem local_nameDecoder (pool : ConstantPool) (slot : Nat) : (nameDecoder pool slot).Local := by
  cases slot with
  | zero => exact Local.pure none
  | succ n => exact (Local.lift _).map some

theorem consumes_nameDecoder_iff {pool : ConstantPool} {slot : Nat} {used : Bytes}
    {v : Option String} :
    (nameDecoder pool slot).Consumes used v ↔ used = [] ∧ NameAt pool slot v := by
  constructor
  · intro h
    cases slot with
    | zero =>
        obtain ⟨rfl, rfl⟩ := Consumes.of_pure h
        exact ⟨rfl, .unnamed⟩
    | succ n =>
        obtain ⟨text, htext, hpure⟩ := Consumes.of_lift_bind h
        obtain ⟨rfl, rfl⟩ := Consumes.of_pure hpure
        exact ⟨rfl, .named (Nat.succ_ne_zero n) htext⟩
  · rintro ⟨rfl, hname⟩
    cases hname with
    | unnamed => exact Consumes.pure none
    | named hslot htext =>
        obtain ⟨n, rfl⟩ := Nat.exists_eq_succ_of_ne_zero hslot
        exact (Consumes.lift htext).map some

theorem readsRow (pool : ConstantPool) :
    ReadsRow (decoder pool) ParameterRow.layout fun r => NameAt pool r.name.toNat where
  isLocal := Local.u2.bind fun slot => Local.u2.bind fun _ => local_nameDecoder pool slot
  consumes := by
    intro r v hname
    refine (Consumes.u2 r.name.isLt).bind ((Consumes.u2 r.access.isLt).check ?_)
    exact consumes_nameDecoder_iff.mpr ⟨rfl, hname⟩
  exists_row := by
    intro used v h
    obtain ⟨slot, _, _, hslot, hrest, rfl⟩ := h.exists_of_bind Local.u2 fun slot =>
      Local.u2.bind fun _ => local_nameDecoder pool slot
    obtain ⟨access, _, _, haccess, hname, rfl⟩ := hrest.exists_of_bind Local.u2 fun _ =>
      local_nameDecoder pool slot
    obtain ⟨hslotLt, rfl⟩ := hslot.of_u2
    obtain ⟨haccessLt, rfl⟩ := haccess.of_u2
    obtain ⟨rfl, hat⟩ := consumes_nameDecoder_iff.mp hname
    refine ⟨⟨BitVec.ofNatLT slot hslotLt, BitVec.ofNatLT access haccessLt⟩, hat, ?_⟩
    rw [List.append_nil]
    rfl

end ParameterRow

/-- The names that a method declares for its parameters, in table order. -/
def DeclaredIn (pool : ConstantPool) (table : Attributes) (declared : List (Option String)) :
    Prop :=
  RowsOf 1 ParameterRow.layout (fun r => ParameterRow.NameAt pool r.name.toNat)
    (table.get? "MethodParameters") declared

theorem declaredNames_eq (table : Attributes) (pool : ConstantPool) :
    declaredNames table pool = readRows 1 (ParameterRow.decoder pool) "MethodParameters"
      (table.get? "MethodParameters") := by
  unfold declaredNames
  cases table.get? "MethodParameters" <;> rfl

theorem declaredNames_eq_ok_iff {table : Attributes} {pool : ConstantPool}
    {declared : List (Option String)} :
    declaredNames table pool = .ok declared ↔ DeclaredIn pool table declared := by
  rw [declaredNames_eq, readRows_eq_ok_iff (ParameterRow.readsRow pool), DeclaredIn]

/-! ## Variables -/

namespace Code

/-- The variable is live from the start, in the slot. -/
def Fills (slot : Nat) (v : LocalVariable) : Bool := v.start = 0 ∧ v.slot = slot

/-- The first variable that is live from the start names its slot. -/
theorem get?_namesBySlot (vars : List LocalVariable) (slot : Nat) :
    (namesBySlot vars).get? slot = (vars.find? (Fills slot)).map (·.name) := by
  have hfold : namesBySlot vars =
      ((vars.filter fun v => v.start == 0).map fun v => (v.slot, v.name)).foldl
        (fun t e => t.insertIfNew e.1 e.2) ∅ := by
    rw [List.foldl_map, namesBySlot]
  have hfills : Fills slot = fun v => decide (v.start = 0) && decide (v.slot = slot) := by
    funext v
    simp [Fills]
  rw [hfold, Table.get?_foldl_insertIfNew_empty, List.find?_map, List.find?_filter, Option.map_map]
  simp [Function.comp_def, hfills]

end Code

/-- The rows of the table of local variables in a method's body; a method without a body has no
variables. -/
inductive VariablesOf (pool : ConstantPool) (table : Attributes) : List Code.LocalVariable → Prop
  | bodiless (hbody : table.get? "Code" = none) : VariablesOf pool table []
  | body {raw instructions : Bytes} {entries : List (Nat × Nat)} {vars : List Code.LocalVariable}
      (hbody : table.get? "Code" = some raw)
      (hholds : Code.Holds pool raw instructions entries vars) : VariablesOf pool table vars

section Body

variable {pool : ConstantPool} {table : Attributes} {code : Option Code}

theorem exists_variablesOf (h : Code.decode table pool = .ok code) :
    ∃ vars, VariablesOf pool table vars := by
  cases hbody : table.get? "Code" with
  | none => exact ⟨[], .bodiless hbody⟩
  | some raw =>
      obtain ⟨decoded, hdecoded, -⟩ := (Code.decode_eq_ok_iff hbody).mp h
      obtain ⟨_, _, vars, hholds⟩ := Code.exists_holds hdecoded
      exact ⟨vars, .body hbody hholds⟩

theorem VariablesOf.locals_eq {vars : List Code.LocalVariable} (h : VariablesOf pool table vars)
    (hcode : Code.decode table pool = .ok code) :
    (code.map (·.locals)).getD ∅ = Code.namesBySlot vars := by
  cases h with
  | bodiless hbody =>
      rw [Code.decode, hbody] at hcode
      cases hcode
      rfl
  | body hbody hholds =>
      obtain ⟨decoded, hdecoded, rfl⟩ := (Code.decode_eq_ok_iff hbody).mp hcode
      obtain ⟨invocations, -, rfl⟩ := hholds.ofBody_eq_ok_iff.mp hdecoded
      rfl

end Body

end ClassFile

open ClassAtlas.ClassFile

/-! ## Slots -/

/-- Values of the type take two slots. -/
def isWide (type : String) : Bool := type = "long" ∨ type = "double"

/-- The slot of the parameter at `i`, where parameters begin at slot `first`. -/
def slotAt (first : Nat) (types : List String) (i : Nat) : Nat :=
  first + i + (types.take i).countP isWide

theorem slotSize_eq (type : String) :
    Descriptor.slotSize type = if isWide type then 2 else 1 := by
  simp [Descriptor.slotSize, isWide]

/-- Counting slots from type to type arrives at the closed form. -/
theorem getElem?_parameterSlots {types : List String} {i : Nat} (first : Nat)
    (hi : i < types.length) : (parameterSlots first types)[i]? = some (slotAt first types i) := by
  induction types generalizing first i with
  | nil => cases hi
  | cons type rest ih =>
      cases i with
      | zero => simp [parameterSlots, slotAt]
      | succ i =>
          -- the first type moves the beginning of the others
          rw [parameterSlots, List.getElem?_cons_succ,
            ih (first + Descriptor.slotSize type) (Nat.lt_of_succ_lt_succ hi), slotSize_eq]
          simp only [slotAt, List.take_succ_cons, List.countP_cons, Option.some.injEq]
          split <;> omega

/-! ## Names -/

/-- The parameter at `i` has the candidate's name, or a name by position if the candidate is missing
or empty. -/
inductive NamedBy (i : Nat) : Option String → String → Prop
  | given {name : String} (h : name ≠ "") : NamedBy i (some name) name
  | missing : NamedBy i none s!"arg{i}"
  | empty : NamedBy i (some "") s!"arg{i}"

theorem namedBy_iff {i : Nat} {candidate : Option String} {name : String} :
    NamedBy i candidate name ↔ name = parameterName i candidate := by
  have hgiven : ∀ {text : String}, text ≠ "" → parameterName i (some text) = text :=
    fun h => if_neg h
  constructor
  · intro h
    cases h with
    | given h => exact (hgiven h).symm
    | missing => rfl
    | empty => rfl
  · rintro rfl
    cases candidate with
    | none => exact .missing
    | some text =>
        by_cases h : text = ""
        · subst h
          exact .empty
        · rw [hgiven h]
          exact .given h

section Names

variable {types : List String} {declared : List (Option String)} {isStatic : Bool}
  {locals : Table Nat String} {i : Nat}

theorem getElem?_parameterNames_of_declared (h : declared.length = types.length) :
    (parameterNames types declared isStatic locals)[i]? = declared[i]?.map (parameterName i) := by
  unfold parameterNames
  rw [if_pos h, List.getElem?_map, List.getElem?_zipIdx]
  simp [Function.comp_def]

theorem getElem?_parameterNames_of_slots (h : declared.length ≠ types.length)
    (hi : i < types.length) :
    (parameterNames types declared isStatic locals)[i]? =
      some (parameterName i (locals.get? (slotAt (if isStatic then 0 else 1) types i))) := by
  unfold parameterNames
  rw [if_neg h, List.getElem?_map, List.getElem?_zipIdx, List.getElem?_map,
    getElem?_parameterSlots _ hi]
  simp

end Names

/-! ## Parameters -/

theorem MethodInfo.getElem?_parameters_ofParts {member : Member} {types : List String}
    {returnType : String} {code : Option Code} {declared : List (Option String)}
    {annotations : Annotations} {exceptions : List String} {i : Nat} {name type : String}
    (hname : (MethodInfo.namesOf member types declared code)[i]? = some name)
    (htype : types[i]? = some type) :
    (MethodInfo.ofParts member types returnType code declared annotations
      exceptions).parameters[i]? = some ⟨name, type, i⟩ := by
  have hpair : ((MethodInfo.namesOf member types declared code).zip types)[i]? =
      some (name, type) := List.getElem?_zip_eq_some.mpr ⟨hname, htype⟩
  simp [MethodInfo.ofParts, List.getElem?_map, List.getElem?_zipIdx, hpair]

/-- Slot zero of an instance method holds the receiver. -/
def firstSlot (member : Member) : Nat := if AccessFlag.isStatic.holds member.access then 0 else 1

/-- What the names of a method's parameters rest on: the types in its descriptor, the names in its
table of parameters and the rows of its table of variables. -/
structure NameSources (pool : ConstantPool) (member : Member) (types : List String)
    (declared : List (Option String)) (vars : List Code.LocalVariable) : Prop where
  types : ∃ returnType, Descriptor.methodTypes member.descriptor = .ok (types, returnType)
  declared : DeclaredIn pool member.attributes declared
  vars : VariablesOf pool member.attributes vars

/-- The name that the row or the variable of the parameter at `i` gives to it. -/
def candidateAt (member : Member) (types : List String) (declared : List (Option String))
    (vars : List Code.LocalVariable) (i : Nat) : Option String :=
  if declared.length = types.length then declared[i]?.join
  else (vars.find? (Code.Fills (slotAt (firstSlot member) types i))).map (·.name)

section Sources

variable {pool : ConstantPool} {member : Member} {m : MethodInfo} {types : List String}
  {declared : List (Option String)} {vars : List Code.LocalVariable}

theorem exists_nameSources (hm : MethodInfo.ofMember member pool = .ok m) :
    ∃ types declared vars, NameSources pool member types declared vars := by
  obtain ⟨types, returnType, code, declared, annotations, exceptions, htypes, hcode, hdeclared,
    -⟩ := MethodInfo.ofMember_eq_ok_iff.mp hm
  obtain ⟨vars, hvars⟩ := exists_variablesOf hcode
  exact ⟨types, declared, vars, ⟨returnType, htypes⟩, declaredNames_eq_ok_iff.mp hdeclared, hvars⟩

theorem getElem?_namesOf {code : Option Code} {i : Nat}
    (hvars : VariablesOf pool member.attributes vars)
    (hcode : Code.decode member.attributes pool = .ok code) (hi : i < types.length) :
    (MethodInfo.namesOf member types declared code)[i]? =
      some (parameterName i (candidateAt member types declared vars i)) := by
  rw [MethodInfo.namesOf, hvars.locals_eq hcode, candidateAt]
  by_cases h : declared.length = types.length
  · rw [getElem?_parameterNames_of_declared h, if_pos h, List.getElem?_eq_getElem (h ▸ hi)]
    rfl
  · rw [getElem?_parameterNames_of_slots h hi, if_neg h, Code.get?_namesBySlot]
    rfl

theorem NameSources.parameters_eq (h : NameSources pool member types declared vars)
    (hm : MethodInfo.ofMember member pool = .ok m) (i : Nat) :
    m.parameters[i]? = types[i]?.map fun type =>
      ⟨parameterName i (candidateAt member types declared vars i), type, i⟩ := by
  obtain ⟨types', returnType, code, declared', annotations, exceptions, htypes, hcode, hdeclared, -,
    -, rfl⟩ := MethodInfo.ofMember_eq_ok_iff.mp hm
  obtain ⟨returnType', htypes'⟩ := h.types
  cases htypes.symm.trans htypes'
  cases hdeclared.symm.trans (declaredNames_eq_ok_iff.mpr h.declared)
  cases htype : types[i]? with
  | none =>
      have hnone : ((MethodInfo.ofParts member types returnType code declared annotations
          exceptions).parameters.map (·.type))[i]? = none := by
        rw [MethodInfo.map_type_parameters_ofParts, htype]
      rwa [List.getElem?_map, Option.map_eq_none_iff] at hnone
  | some type =>
      obtain ⟨hi, -⟩ := List.getElem?_eq_some_iff.mp htype
      exact MethodInfo.getElem?_parameters_ofParts (getElem?_namesOf h.vars hcode hi) htype

/-- **A parameter is named by its own row or its own slot.** A method that is interpreted has one
parameter for each type. If its table of parameters has as many rows, the parameter at `i` is named
by the row at `i`, whatever its variables are. Otherwise it is named by the first variable that is live
from the start in its slot; other variables, in any order and number, make no difference. -/
theorem parameters_named_by_source (hm : MethodInfo.ofMember member pool = .ok m) :
    (∃ types declared vars, NameSources pool member types declared vars) ∧
    ∀ types declared vars, NameSources pool member types declared vars →
      m.parameters.map (·.type) = types ∧
      (declared.length ≠ types.length → ∀ i p, m.parameters[i]? = some p →
        NamedBy i ((vars.find? (Code.Fills (slotAt (firstSlot member) types i))).map (·.name))
          p.name) ∧
      (declared.length = types.length → ∀ i p candidate, m.parameters[i]? = some p →
        declared[i]? = some candidate → NamedBy i candidate p.name) ∧
      (declared.length ≠ types.length → ∀ pool' member' m' declared' vars',
        MethodInfo.ofMember member' pool' = .ok m' →
        NameSources pool' member' types declared' vars' → declared'.length ≠ types.length →
        firstSlot member' = firstSlot member → ∀ i,
        vars'.filter (Code.Fills (slotAt (firstSlot member) types i)) =
          vars.filter (Code.Fills (slotAt (firstSlot member) types i)) →
        m'.parameters[i]? = m.parameters[i]?) := by
  refine ⟨exists_nameSources hm, fun types declared vars h => ?_⟩
  have hparameters := h.parameters_eq hm
  refine ⟨?_, ?_, ?_, ?_⟩
  · apply List.ext_getElem?
    intro i
    rw [List.getElem?_map, hparameters, Option.map_map]
    exact Option.map_id'
  · intro hlength i p hp
    rw [hparameters, Option.map_eq_some_iff] at hp
    obtain ⟨type, -, rfl⟩ := hp
    rw [candidateAt, if_neg hlength]
    exact namedBy_iff.mpr rfl
  · intro hlength i p candidate hp hcandidate
    rw [hparameters, Option.map_eq_some_iff] at hp
    obtain ⟨type, -, rfl⟩ := hp
    rw [candidateAt, if_pos hlength, hcandidate]
    exact namedBy_iff.mpr rfl
  · intro hlength pool' member' m' declared' vars' hm' h' hlength' hfirst i hfilter
    rw [hparameters, h'.parameters_eq hm', candidateAt, candidateAt, if_neg hlength,
      if_neg hlength', hfirst, ← List.head?_filter, hfilter, List.head?_filter]

end Sources

/-! ## A sample -/

def spreadPool : ConstantPool :=
  ⟨#[none, some (.utf8 "LocalVariableTable"), some (.utf8 "total"), some (.utf8 "n"),
    some (.utf8 "later"), some (.utf8 "")]⟩

/-- Two variables in the slot of the second parameter, and one that comes into the slot of the first
parameter later. -/
def spreadRows : List VariableRow :=
  [⟨0, 9, 3, 0, 3⟩, ⟨5, 4, 4, 0, 1⟩, ⟨0, 9, 4, 0, 3⟩, ⟨0, 9, 2, 0, 1⟩, ⟨0, 9, 4, 0, 2⟩,
    ⟨0, 9, 5, 0, 4⟩]

def spreadVars : List Code.LocalVariable :=
  [⟨0, 3, "n"⟩, ⟨5, 1, "later"⟩, ⟨0, 3, "later"⟩, ⟨0, 1, "total"⟩, ⟨0, 2, "later"⟩, ⟨0, 4, ""⟩]

def spreadBody : CodeImage where
  stack := 0
  locals := 5
  code := [0xB1]
  handlerCount := 0
  handlers := []
  nested := [⟨1, sizedLayout 2 VariableRow.layout spreadRows⟩]
  behind := []

/-- An instance method with a wide parameter in front of two others. -/
def spreadMethod : Member where
  access := 1
  name := "m"
  descriptor := "(JII)V"
  attributes := Attributes.ofList [("Code", spreadBody.layout)]

theorem nameSources_spreadMethod :
    NameSources spreadPool spreadMethod ["long", "int", "int"] [] spreadVars := by
  have hread : readRows 2 (Code.localDecoder spreadPool) "LocalVariableTable"
      (some (sizedLayout 2 VariableRow.layout spreadRows)) = .ok spreadVars := rfl
  have hvars := (readRows_eq_ok_iff (VariableRow.readsRow spreadPool)).mp hread
  have hholds : Code.Holds spreadPool spreadBody.layout spreadBody.code [] spreadVars :=
    ⟨spreadBody,
      Attributes.ofList [("LocalVariableTable", sizedLayout 2 VariableRow.layout spreadRows)],
      by decide, rfl, rfl, ⟨_, .cons ⟨rfl, rfl⟩ .nil, rfl⟩, .missing, hvars⟩
  exact ⟨⟨"void", by decide +kernel⟩, .missing, .body rfl hholds⟩

/-- The wide parameter pushes the others up by a slot; an empty name does not count. -/
theorem parameters_named_by_source_sample :
    ∃ m, MethodInfo.ofMember spreadMethod spreadPool = .ok m ∧
      NameSources spreadPool spreadMethod ["long", "int", "int"] [] spreadVars ∧
      m.parameters.map (·.name) = ["total", "n", "arg2"] := by
  obtain ⟨m, hm⟩ : ∃ m, MethodInfo.ofMember spreadMethod spreadPool = .ok m :=
    exists_eq_ok_of_isSome (by decide +kernel)
  obtain ⟨-, hnamed⟩ := parameters_named_by_source hm
  obtain ⟨htypes, hslots, -⟩ := hnamed _ _ _ nameSources_spreadMethod
  have hlength : m.parameters.length = 3 := by
    rw [← List.length_map (·.type), htypes]
    rfl
  obtain ⟨p, q, r, hparameters⟩ := List.length_eq_three.mp hlength
  rw [hparameters] at hslots
  have hp : NamedBy 0 (some "total") p.name := hslots (by decide) 0 p rfl
  have hq : NamedBy 1 (some "n") q.name := hslots (by decide) 1 q rfl
  have hr : NamedBy 2 (some "") r.name := hslots (by decide) 2 r rfl
  refine ⟨m, hm, nameSources_spreadMethod, ?_⟩
  rw [hparameters, List.map_cons, List.map_cons, List.map_singleton, namedBy_iff.mp hp,
    namedBy_iff.mp hq, namedBy_iff.mp hr]
  decide +kernel

end ClassAtlas
