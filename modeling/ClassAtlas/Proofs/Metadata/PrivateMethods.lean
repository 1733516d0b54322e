import ClassAtlas.Proofs.ClassFile.Consumption
import ClassAtlas.Proofs.Metadata.Soundness

/-!
# Metadata without private methods

Private methods are left out before methods are decoded, so that a run without
them decodes fewer methods than a run with them, and may get further. Where the
full run stops is decided by the first method that cannot be decoded. Unless
that one is private, the run without private methods goes the same way, and its
outcome is the other's outcome with the private methods taken away.
-/

namespace ClassAtlas

open ClassAtlas.ClassFile

/-! ## Where a traversal stops -/

section Traversal

variable {ε α β : Type} {f : α → Except ε β}

/-- `x` is the first of the elements for which there is no result. -/
def StopsAt (f : α → Except ε β) (xs : List α) (x : α) : Prop :=
  ∃ front back fault, xs = front ++ x :: back ∧ (∀ y ∈ front, ∃ v, f y = .ok v) ∧
    f x = .error fault

theorem StopsAt.mem {xs : List α} {x : α} (h : StopsAt f xs x) : x ∈ xs := by
  obtain ⟨front, back, fault, rfl, -⟩ := h
  simp

theorem StopsAt.cons {xs : List α} {x y : α} {v : β} (h : StopsAt f xs x) (hy : f y = .ok v) :
    StopsAt f (y :: xs) x := by
  obtain ⟨front, back, fault, rfl, hfront, hx⟩ := h
  refine ⟨y :: front, back, fault, rfl, ?_, hx⟩
  intro z hz
  rcases List.mem_cons.mp hz with rfl | hz
  · exact ⟨v, hy⟩
  · exact hfront z hz

theorem stopsAt_head {xs : List α} {x : α} {fault : ε} (h : f x = .error fault) :
    StopsAt f (x :: xs) x :=
  ⟨[], xs, fault, rfl, by simp, h⟩

theorem not_stopsAt_of_ok {xs : List α} {ys : List β} (h : xs.mapM f = .ok ys) (x : α) :
    ¬ StopsAt f xs x := by
  intro hstop
  obtain ⟨y, -, hy⟩ := exists_mem_of_forall₂ (mapM_eq_ok_iff.mp h) hstop.mem
  obtain ⟨front, back, fault, -, -, hx⟩ := hstop
  rw [hy] at hx
  cases hx

/-- A traversal of the elements to keep, where results tell whether they are to be kept. It fails as
the full traversal does, unless that one stops at an element that is not to be kept. -/
theorem mapM_filter_eq_map {keep : α → Bool} {kept : β → Bool} {xs : List α}
    (hkept : ∀ x ∈ xs, ∀ y, f x = .ok y → kept y = keep x)
    (hstop : ∀ x, StopsAt f xs x → keep x = true) :
    (xs.filter keep).mapM f = (xs.mapM f).map (List.filter kept) := by
  induction xs with
  | nil => rfl
  | cons x rest ih =>
      cases hx : f x with
      | error fault =>
          have hkeep : keep x = true := hstop x (stopsAt_head hx)
          rw [List.filter_cons_of_pos hkeep, List.mapM_cons, List.mapM_cons, hx]
          rfl
      | ok y =>
          have hy := hkept x List.mem_cons_self y hx
          have hrest := ih (fun z hz => hkept z (List.mem_cons_of_mem x hz))
            (fun z hz => hstop z (hz.cons hx))
          cases hkeep : keep x with
          | true =>
              rw [List.filter_cons_of_pos hkeep, List.mapM_cons, List.mapM_cons, hx, hrest]
              cases rest.mapM f with
              | error fault => rfl
              | ok ys => simp [bind, Except.bind, pure, Except.pure, Except.map, hy, hkeep]
          | false =>
              rw [List.filter_cons_of_neg (by simp [hkeep]), List.mapM_cons, hx, hrest]
              cases rest.mapM f with
              | error fault => rfl
              | ok ys => simp [bind, Except.bind, pure, Except.pure, Except.map, hy, hkeep]

end Traversal

/-! ## Interpretation -/

/-- What is left to do for a class once its methods are there. -/
def ClassInfo.ofMethods (raw : ClassStructure) (methods : List MethodInfo) :
    Except Fault ClassInfo := do
  let fields ← raw.fields.mapM (FieldInfo.ofMember · raw.pool)
  let annotations ← Annotations.decode raw.attributes raw.pool
  let sourceFile ← sourceFileOf raw.attributes raw.pool
  return .ofParts raw methods fields annotations sourceFile

theorem ClassInfo.ofStructure_eq (raw : ClassStructure) (includePrivate : Bool) :
    ClassInfo.ofStructure raw includePrivate =
      (keptMethods raw includePrivate).mapM (MethodInfo.ofMember · raw.pool) >>=
        ClassInfo.ofMethods raw := rfl

/-- The methods whose modifiers do not say that they are private. -/
def ClassInfo.withoutPrivate (info : ClassInfo) : ClassInfo :=
  { info with methods := info.methods.filter fun m => "private" ∉ m.modifiers }

theorem ClassInfo.ofMethods_filter (raw : ClassStructure) (methods : List MethodInfo) :
    ClassInfo.ofMethods raw (methods.filter fun m => "private" ∉ m.modifiers) =
      (ClassInfo.ofMethods raw methods).map ClassInfo.withoutPrivate := by
  unfold ClassInfo.ofMethods
  cases raw.fields.mapM (FieldInfo.ofMember · raw.pool) with
  | error fault => rfl
  | ok fields =>
      cases Annotations.decode raw.attributes raw.pool with
      | error fault => rfl
      | ok annotations =>
          cases sourceFileOf raw.attributes raw.pool with
          | error fault => rfl
          | ok sourceFile => rfl

/-- A decoded method is called private exactly if its bit is set. -/
theorem MethodInfo.private_mem_modifiers_iff {member : Member} {pool : ConstantPool}
    {m : MethodInfo} (h : MethodInfo.ofMember member pool = .ok m) :
    "private" ∈ m.modifiers ↔ AccessFlag.isPrivate.holds member.access = true := by
  obtain ⟨types, returnType, code, declared, annotations, exceptions, -, -, -, -, -, rfl⟩ :=
    MethodInfo.ofMember_eq_ok_iff.mp h
  have hmem : AccessFlag.isPrivate ∈ AccessFlag.ofMethod := by decide
  exact (AccessFlag.holds_iff_mem_words hmem (by decide) member.access).symm

/-- All methods can be decoded, or the first that cannot is not private. -/
def ClassStructure.PassesPrivate (raw : ClassStructure) : Prop :=
  ∀ m, StopsAt (MethodInfo.ofMember · raw.pool) raw.methods m →
    AccessFlag.isPrivate.holds m.access = false

theorem keptMethods_true (raw : ClassStructure) : keptMethods raw true = raw.methods := by
  simp [keptMethods]

theorem ClassInfo.ofStructure_false_eq_map {raw : ClassStructure}
    (h : ClassStructure.PassesPrivate raw) :
    ClassInfo.ofStructure raw false =
      (ClassInfo.ofStructure raw true).map ClassInfo.withoutPrivate := by
  have hmethods : (keptMethods raw false).mapM (MethodInfo.ofMember · raw.pool) =
      (raw.methods.mapM (MethodInfo.ofMember · raw.pool)).map
        (List.filter fun m => "private" ∉ m.modifiers) := by
    refine mapM_filter_eq_map ?_ ?_
    · intro member _ m hm
      have hprivate := MethodInfo.private_mem_modifiers_iff hm
      cases hbit : AccessFlag.isPrivate.holds member.access <;> simp [hprivate, hbit]
    · intro member hstop
      simp [h member hstop]
  rw [ClassInfo.ofStructure_eq, ClassInfo.ofStructure_eq, hmethods, keptMethods_true]
  cases raw.methods.mapM (MethodInfo.ofMember · raw.pool) with
  | error fault => rfl
  | ok methods => exact ClassInfo.ofMethods_filter raw methods

/-! ## Records -/

/-- Where the extraction of a record fails, it is not for a private method. -/
inductive StopsOutsidePrivate (data : Bytes) : Prop
  /-- The header is refused. -/
  | header (h : validate (some data) = false)
  /-- There is no structure. -/
  | undecoded {fault : Fault} (h : ClassStructure.parse data = .error fault)
  | moduleDescriptor {raw : ClassStructure} (hparse : ClassStructure.parse data = .ok raw)
      (h : AccessFlag.isModule.holds raw.access = true)
  | noPrivate {raw : ClassStructure} (hparse : ClassStructure.parse data = .ok raw)
      (h : ∀ m ∈ raw.methods, AccessFlag.isPrivate.holds m.access = false)
  | elsewhere {raw : ClassStructure} (hparse : ClassStructure.parse data = .ok raw)
      (h : ClassStructure.PassesPrivate raw)

section Record

variable {data : Bytes}

theorem extractClass_false_of_body
    (h : extractBody data false = (extractBody data true).map ClassInfo.withoutPrivate) :
    extractClass data false = (extractClass data true).map ClassInfo.withoutPrivate := by
  cases hvalid : validate (some data) with
  | false =>
      obtain ⟨cause, hcause⟩ := exists_headerFault hvalid
      rw [hcause, hcause]
      rfl
  | true =>
      rw [extractClass_of_valid hvalid, extractClass_of_valid hvalid, h]
      cases extractBody data true <;> rfl

theorem extractBody_false_of_passesPrivate {raw : ClassStructure}
    (hparse : ClassStructure.parse data = .ok raw) (h : ClassStructure.PassesPrivate raw) :
    extractBody data false = (extractBody data true).map ClassInfo.withoutPrivate := by
  rw [extractBody_of_parse hparse, extractBody_of_parse hparse]
  cases AccessFlag.isModule.holds raw.access with
  | true => rfl
  | false => exact ClassInfo.ofStructure_false_eq_map h

theorem StopsOutsidePrivate.extractClass_false (h : StopsOutsidePrivate data) :
    extractClass data false = (extractClass data true).map ClassInfo.withoutPrivate := by
  cases h with
  | header hinvalid =>
      obtain ⟨cause, hcause⟩ := exists_headerFault hinvalid
      rw [hcause, hcause]
      rfl
  | undecoded hparse =>
      apply extractClass_false_of_body
      rw [extractBody_of_parse_error hparse, extractBody_of_parse_error hparse]
      rfl
  | moduleDescriptor hparse hmodule =>
      apply extractClass_false_of_body
      rw [extractBody_of_parse hparse, extractBody_of_parse hparse, hmodule]
      rfl
  | noPrivate hparse hpublic =>
      apply extractClass_false_of_body
      exact extractBody_false_of_passesPrivate hparse fun m hstop => hpublic m hstop.mem
  | elsewhere hparse hstop =>
      apply extractClass_false_of_body
      exact extractBody_false_of_passesPrivate hparse hstop

/-- A record from which all methods are extracted stops nowhere. -/
theorem stopsOutsidePrivate_of_ok {info : ClassInfo} (h : extractClass data true = .ok info) :
    StopsOutsidePrivate data := by
  obtain ⟨-, raw, hparse, -, hinfo⟩ := extractClass_eq_ok_iff_structure.mp h
  obtain ⟨methods, fields, annotations, sourceFile, hmethods, -⟩ :=
    ClassInfo.ofStructure_eq_ok_iff.mp hinfo
  rw [keptMethods_true] at hmethods
  refine .elsewhere hparse fun m hstop => ?_
  exact absurd hstop (not_stopsAt_of_ok (mapM_eq_ok_iff.mpr hmethods) m)

end Record

/-- **Leaving out private methods is a filter.** A record that yields metadata with private methods
yields them without, and the difference is that the methods with the modifier `private` are not
there. A record that yields none is refused for the same reason both times, unless that reason is a
private method. -/
theorem extractClass_withoutPrivate (data : Bytes) :
    (∀ info, extractClass data true = .ok info →
      extractClass data false =
        .ok { info with methods := info.methods.filter fun m => "private" ∉ m.modifiers }) ∧
    (StopsOutsidePrivate data →
      ∀ fault, extractClass data true = .error fault ↔ extractClass data false = .error fault) := by
  constructor
  · intro info h
    rw [(stopsOutsidePrivate_of_ok h).extractClass_false, h]
    rfl
  · intro h fault
    rw [h.extractClass_false]
    cases extractClass data true <;> simp [Except.map]

/-- `callingRecord` with a private method in front of the one that it has. -/
def mixedRecord : Bytes :=
  callingRecord.take 69 ++ [0, 2, 0, 2, 0, 3, 0, 4, 0, 0] ++ callingRecord.drop 71

theorem extractClass_withoutPrivate_sample :
    ∃ info, extractClass mixedRecord true = .ok info ∧
      info.methods.map (·.modifiers) = [["private"], ["public", "static"]] ∧
      extractClass mixedRecord false =
        .ok { info with methods := info.methods.filter fun m => "private" ∉ m.modifiers } := by
  have hparts : (extractClass mixedRecord true).toOption.map
      (fun info => info.methods.map (·.modifiers)) = some [["private"], ["public", "static"]] := by
    decide +kernel
  cases h : extractClass mixedRecord true with
  | error fault =>
      rw [h] at hparts
      cases hparts
  | ok info =>
      rw [h] at hparts
      exact ⟨info, rfl, Option.some.inj hparts, (extractClass_withoutPrivate mixedRecord).1 info h⟩

end ClassAtlas
