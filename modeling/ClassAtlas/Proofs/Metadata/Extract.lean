import ClassAtlas.Metadata.Extract

/-!
# When a record yields metadata

The header decides first, and it decides by the first eight bytes alone. Behind
a valid header everything rests on the body, and the body on the structure that
is decoded from it.
-/

namespace ClassAtlas

open ClassAtlas.ClassFile

namespace ClassFile

theorem validate_of_short {data : Bytes} (h : data.length < headerLength) :
    validate (some data) = false := by
  simp [validate, Header.read, h]

theorem validate_of_long {data : Bytes} (h : headerLength ≤ data.length) :
    validate (some data) = (bigEndian (data.take 4) == Header.classMagic) := by
  have hlong : ¬ data.length < headerLength := by omega
  simp [validate, Header.read, hlong, Header.isValid]

/-- The header is what the first eight bytes say. -/
theorem validate_congr {data data' : Bytes}
    (h : data.take headerLength = data'.take headerLength) :
    validate (some data) = validate (some data') := by
  have hlen := congrArg List.length h
  simp only [List.length_take] at hlen
  by_cases hshort : data.length < headerLength
  · rw [validate_of_short hshort, validate_of_short (by omega)]
  · have hmagic : data.take 4 = data'.take 4 := by
      have htake := congrArg (List.take 4) h
      rwa [List.take_take, List.take_take] at htake
    rw [validate_of_long (by omega), validate_of_long (by omega), hmagic]

end ClassFile

theorem extractClass_of_short {data : Bytes} (h : data.length < headerLength)
    (includePrivate : Bool) :
    extractClass data includePrivate = .error (.header (.tooShort data.length)) := by
  have hread : Header.read (some data) = .error (.tooShort data.length) := by
    simp [Header.read, h]
  rw [extractClass, hread]
  rfl

/-- A header that is refused is refused whatever methods are asked for. -/
theorem exists_headerFault {data : Bytes} (h : validate (some data) = false) :
    ∃ cause, ∀ includePrivate, extractClass data includePrivate = .error (.header cause) := by
  unfold validate at h
  unfold extractClass
  cases hread : Header.read (some data) with
  | error cause => exact ⟨cause, fun _ => rfl⟩
  | ok header =>
      rw [hread] at h
      have hinvalid : (!header.isValid) = true := by
        rw [show header.isValid = false from h, Bool.not_false]
      exact ⟨.badMagic header.magic, fun _ => if_pos hinvalid⟩

theorem extractClass_of_invalid {data : Bytes} (h : validate (some data) = false)
    (includePrivate : Bool) :
    ∃ cause, extractClass data includePrivate = .error (.header cause) :=
  (exists_headerFault h).imp fun _ hcause => hcause includePrivate

theorem extractClass_of_valid {data : Bytes} (h : validate (some data) = true)
    (includePrivate : Bool) :
    extractClass data includePrivate = (extractBody data includePrivate).mapError .body := by
  unfold validate at h
  unfold extractClass
  cases hread : Header.read (some data) with
  | error cause =>
      rw [hread] at h
      cases h
  | ok header =>
      rw [hread] at h
      have hvalid : ¬ (!header.isValid) = true := by
        rw [show header.isValid = true from h, Bool.not_true]
        exact Bool.false_ne_true
      exact if_neg hvalid

theorem extractClass_eq_ok_iff {data : Bytes} {includePrivate : Bool} {info : ClassInfo} :
    extractClass data includePrivate = .ok info ↔
      validate (some data) = true ∧ extractBody data includePrivate = .ok info := by
  cases hvalid : validate (some data) with
  | false =>
      obtain ⟨cause, hcause⟩ := extractClass_of_invalid hvalid includePrivate
      simp [hcause]
  | true =>
      rw [extractClass_of_valid hvalid]
      cases extractBody data includePrivate with
      | error fault =>
          show Except.error _ = Except.ok info ↔ _
          simp
      | ok found =>
          show Except.ok found = Except.ok info ↔ _
          simp

theorem extractBody_of_parse_error {data : Bytes} {fault : Fault}
    (h : ClassStructure.parse data = .error fault) (includePrivate : Bool) :
    extractBody data includePrivate = .error fault := by
  rw [extractBody, h]
  rfl

theorem extractBody_of_parse {data : Bytes} {raw : ClassStructure}
    (h : ClassStructure.parse data = .ok raw) (includePrivate : Bool) :
    extractBody data includePrivate =
      if AccessFlag.isModule.holds raw.access then .error (.moduleDescriptor raw.name)
      else ClassInfo.ofStructure raw includePrivate := by
  rw [extractBody, h]
  show (if AccessFlag.isModule.holds raw.access = true then _ else _) = _
  cases AccessFlag.isModule.holds raw.access <;> rfl

theorem extractBody_congr {data data' : Bytes}
    (h : ClassStructure.parse data = ClassStructure.parse data') (includePrivate : Bool) :
    extractBody data includePrivate = extractBody data' includePrivate := by
  rw [extractBody, extractBody, h]

theorem exists_parse_of_extractBody {data : Bytes} {includePrivate : Bool} {info : ClassInfo}
    (h : extractBody data includePrivate = .ok info) :
    ∃ raw, ClassStructure.parse data = .ok raw := by
  cases hparse : ClassStructure.parse data with
  | error fault =>
      rw [extractBody_of_parse_error hparse] at h
      cases h
  | ok raw => exact ⟨raw, rfl⟩

end ClassAtlas
