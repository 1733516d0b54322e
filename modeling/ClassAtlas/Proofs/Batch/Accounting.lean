import Mathlib.Data.List.Forall2
import ClassAtlas.Batch.Extraction
import ClassAtlas.Proofs.Metadata.Extract

/-!
# Every record is accounted for once

A record of a batch gives its class or a diagnostic, and which of the two rests
on the record and on those before it alone. `accepted?` and `diagnosis?` say so
without the table of names that `mergeFrom` carries along; `Remembers` is the
invariant that ties the table to the records read so far.
-/

namespace ClassAtlas.Batch

open ClassAtlas.ClassFile (validate)

variable (includePrivate : Bool)

/-! ## A record among those before it -/

/-- Whether a record decodes to a class of the given name. -/
def decodesTo (name : String) (r : LabelledRecord) : Bool :=
  match extractClass r.data includePrivate with
  | .ok info => info.name = name
  | .error _ => false

/-- A record of a batch and the records before it. -/
structure Place where
  earlier : List LabelledRecord
  record : LabelledRecord

/-- The records of a batch in order, when those of `earlier` come before all of them. -/
def placesFrom (earlier : List LabelledRecord) : List LabelledRecord → List Place
  | [] => []
  | r :: rest => ⟨earlier, r⟩ :: placesFrom (earlier ++ [r]) rest

def places (records : List LabelledRecord) : List Place := placesFrom [] records

/-- The class that a record gives: what it decodes to, unless an earlier record decodes to that
name. -/
def accepted? (p : Place) : Option ClassInfo :=
  match extractClass p.record.data includePrivate with
  | .error _ => none
  | .ok info => if p.earlier.any (decodesTo includePrivate info.name) then none else some info

/-- The diagnostic that a record gives: its own if it does not decode, else one that names the first
record with its class. -/
def diagnosis? (p : Place) : Option Diagnostic :=
  match process includePrivate p.record with
  | .rejected d => some d
  | .extracted info =>
    (p.earlier.find? (decodesTo includePrivate info.name)).map fun first =>
      ⟨p.record.label, .duplicate, duplicateMessage info.name first.label⟩

/-- What the diagnostic of a record says. -/
structure Explains (p : Place) (d : Diagnostic) : Prop where
  record : d.record = p.record.label
  parsing : d.kind = .parsing ↔ validate (some p.record.data) = false
  analysis : d.kind = .analysis ↔ validate (some p.record.data) = true ∧
    ∃ fault, extractClass p.record.data includePrivate = .error fault
  duplicate : d.kind = .duplicate ↔ ∃ info, extractClass p.record.data includePrivate = .ok info ∧
    ∃ e ∈ p.earlier, decodesTo includePrivate info.name e = true
  message : ∀ info, extractClass p.record.data includePrivate = .ok info →
    ∃ before first after, p.earlier = before ++ first :: after ∧
      decodesTo includePrivate info.name first = true ∧
      (∀ e ∈ before, decodesTo includePrivate info.name e = false) ∧
      d.message = info.name ++ " already read from " ++ first.label

/-! ## Reading one record -/

section Process

variable {includePrivate} {r : LabelledRecord}

theorem validate_of_extractClass {info : ClassInfo}
    (h : extractClass r.data includePrivate = .ok info) : validate (some r.data) = true :=
  (extractClass_eq_ok_iff.mp h).1

theorem process_of_ok {info : ClassInfo} (h : extractClass r.data includePrivate = .ok info) :
    process includePrivate r = .extracted info := by
  rw [process, if_pos (validate_of_extractClass h), h]

theorem process_of_invalid (h : validate (some r.data) = false) :
    process includePrivate r = .rejected ⟨r.label, .parsing, noClassRecord⟩ := by
  rw [process, if_neg (by simp [h])]

/-- Behind a valid header a record fails for its body: the two checks of the header agree. -/
theorem process_of_error {fault : ClassFile.RecordFault} (hvalid : validate (some r.data) = true)
    (h : extractClass r.data includePrivate = .error fault) :
    process includePrivate r = .rejected ⟨r.label, .analysis, fault.message⟩ := by
  have hbody := extractClass_of_valid hvalid includePrivate
  rw [h] at hbody
  cases hcase : extractBody r.data includePrivate with
  | ok info =>
      rw [hcase] at hbody
      cases hbody
  | error cause =>
      rw [hcase] at hbody
      cases hbody
      rw [process, if_pos hvalid, h]
      rfl

theorem decodesTo_of_ok {info : ClassInfo} (h : extractClass r.data includePrivate = .ok info)
    (name : String) : decodesTo includePrivate name r = decide (info.name = name) := by
  rw [decodesTo, h]

theorem decodesTo_self {info : ClassInfo} (h : extractClass r.data includePrivate = .ok info) :
    decodesTo includePrivate info.name r = true := by
  rw [decodesTo_of_ok h, decide_eq_true_eq]

theorem decodesTo_of_error {fault : ClassFile.RecordFault}
    (h : extractClass r.data includePrivate = .error fault) (name : String) :
    decodesTo includePrivate name r = false := by
  rw [decodesTo, h]

end Process

/-! ## A record that says nothing new -/

/-- A record is idle behind others if it decodes to no name that they do not decode to. -/
def Idle (earlier : List LabelledRecord) (r : LabelledRecord) : Prop :=
  ∀ name, decodesTo includePrivate name r = true →
    ∃ e ∈ earlier, decodesTo includePrivate name e = true

section Idle

variable {includePrivate} {earlier : List LabelledRecord} {r : LabelledRecord}

theorem Idle.of_error {fault : ClassFile.RecordFault}
    (h : extractClass r.data includePrivate = .error fault) : Idle includePrivate earlier r := by
  intro name hname
  rw [decodesTo_of_error h] at hname
  cases hname

theorem Idle.of_ok {info : ClassInfo} (h : extractClass r.data includePrivate = .ok info)
    (hearlier : ∃ e ∈ earlier, decodesTo includePrivate info.name e = true) :
    Idle includePrivate earlier r := by
  intro name hname
  rw [decodesTo_of_ok h, decide_eq_true_eq] at hname
  exact hname ▸ hearlier

/-- An idle record is the first to decode to no name, whatever follows it. -/
theorem Idle.find?_append_cons (h : Idle includePrivate earlier r) (rest : List LabelledRecord)
    (name : String) :
    (earlier ++ r :: rest).find? (decodesTo includePrivate name) =
      (earlier ++ rest).find? (decodesTo includePrivate name) := by
  rw [List.find?_append, List.find?_append]
  cases hfound : earlier.find? (decodesTo includePrivate name) with
  | some first => rfl
  | none =>
      have hr : ¬ decodesTo includePrivate name r = true := by
        intro hname
        obtain ⟨e, he, hdecodes⟩ := h name hname
        exact List.find?_eq_none.mp hfound e he hdecodes
      rw [List.find?_cons_of_neg hr]

end Idle

/-! ## The table of names -/

/-- The table holds, for each name read so far, the label of the first record that decodes to it. -/
def Remembers (earlier : List LabelledRecord) (seen : List (String × String)) : Prop :=
  ∀ name, seen.lookup name =
    (earlier.find? (decodesTo includePrivate name)).map LabelledRecord.label

section Remembers

variable {includePrivate} {earlier : List LabelledRecord} {r : LabelledRecord}
  {seen : List (String × String)}

theorem remembers_nil : Remembers includePrivate [] [] := by
  intro name
  rfl

/-- Past an idle record the table stays as it is. -/
theorem Remembers.skip (h : Remembers includePrivate earlier seen)
    (hidle : Idle includePrivate earlier r) : Remembers includePrivate (earlier ++ [r]) seen := by
  intro name
  rw [hidle.find?_append_cons, List.append_nil]
  exact h name

/-- A record with a new name enters the table under it. -/
theorem Remembers.insert {info : ClassInfo} (h : Remembers includePrivate earlier seen)
    (hinfo : extractClass r.data includePrivate = .ok info)
    (hnew : earlier.find? (decodesTo includePrivate info.name) = none) :
    Remembers includePrivate (earlier ++ [r]) ((info.name, r.label) :: seen) := by
  intro name
  rw [List.find?_append, List.lookup_cons]
  by_cases hname : name = info.name
  · subst hname
    simp [hnew, decodesTo_self hinfo]
  · have hr : decodesTo includePrivate name r = false := by
      rw [decodesTo_of_ok hinfo, decide_eq_false_iff_not]
      exact fun h => hname h.symm
    have hbeq : (name == info.name) = false := by simpa using hname
    simp [hbeq, hr, h name]

end Remembers

/-! ## What each place gives -/

section Verdict

variable {includePrivate} {earlier : List LabelledRecord} {r : LabelledRecord}

theorem accepted?_of_error {fault : ClassFile.RecordFault}
    (h : extractClass r.data includePrivate = .error fault) :
    accepted? includePrivate ⟨earlier, r⟩ = none := by
  rw [accepted?, h]

theorem accepted?_of_first {info : ClassInfo}
    (h : extractClass r.data includePrivate = .ok info)
    (hnew : earlier.find? (decodesTo includePrivate info.name) = none) :
    accepted? includePrivate ⟨earlier, r⟩ = some info := by
  have hany : earlier.any (decodesTo includePrivate info.name) = false := by
    simpa using hnew
  rw [accepted?, h]
  simp [hany]

theorem accepted?_of_duplicate {info : ClassInfo} {first : LabelledRecord}
    (h : extractClass r.data includePrivate = .ok info)
    (hfirst : earlier.find? (decodesTo includePrivate info.name) = some first) :
    accepted? includePrivate ⟨earlier, r⟩ = none := by
  have hany : earlier.any (decodesTo includePrivate info.name) = true :=
    List.any_eq_true.mpr ⟨first, List.mem_of_find?_eq_some hfirst, List.find?_some hfirst⟩
  rw [accepted?, h]
  simp [hany]

theorem diagnosis?_of_rejected {d : Diagnostic} (h : process includePrivate r = .rejected d) :
    diagnosis? includePrivate ⟨earlier, r⟩ = some d := by
  rw [diagnosis?, h]

theorem diagnosis?_of_ok {info : ClassInfo}
    (h : extractClass r.data includePrivate = .ok info) :
    diagnosis? includePrivate ⟨earlier, r⟩ =
      (earlier.find? (decodesTo includePrivate info.name)).map fun first =>
        ⟨r.label, .duplicate, duplicateMessage info.name first.label⟩ := by
  rw [diagnosis?, process_of_ok h]

/-- A record that does not decode is rejected, for its header or for what follows it. -/
theorem exists_rejected (earlier : List LabelledRecord) {fault : ClassFile.RecordFault}
    (h : extractClass r.data includePrivate = .error fault) :
    ∃ d, process includePrivate r = .rejected d ∧ Explains includePrivate ⟨earlier, r⟩ d := by
  cases hvalid : validate (some r.data) with
  | false =>
      refine ⟨_, process_of_invalid hvalid, ?_⟩
      constructor <;> simp [hvalid, h]
  | true =>
      refine ⟨_, process_of_error hvalid h, ?_⟩
      constructor <;> simp [hvalid, h]

/-- The diagnostic of a duplicate names the first record of its class. -/
theorem explains_duplicate {info : ClassInfo} {first : LabelledRecord}
    (h : extractClass r.data includePrivate = .ok info)
    (hfirst : earlier.find? (decodesTo includePrivate info.name) = some first) :
    Explains includePrivate ⟨earlier, r⟩
      ⟨r.label, .duplicate, duplicateMessage info.name first.label⟩ := by
  obtain ⟨hdecodes, before, after, hsplit, hbefore⟩ := List.find?_eq_some_iff_append.mp hfirst
  have hmem : first ∈ earlier := List.mem_of_find?_eq_some hfirst
  constructor
  case record => rfl
  case parsing => simp [validate_of_extractClass h]
  case analysis => simp [h]
  case duplicate => simpa [h] using ⟨first, hmem, hdecodes⟩
  case message =>
      intro info' hinfo'
      cases h.symm.trans hinfo'
      exact ⟨before, first, after, hsplit, hdecodes, by simpa using hbefore, rfl⟩

end Verdict

/-- **One class or one diagnostic.** A record gives its class, or a diagnostic that says why not. -/
theorem accepted_or_explained (p : Place) :
    (∃ info, extractClass p.record.data includePrivate = .ok info ∧
      (∀ e ∈ p.earlier, decodesTo includePrivate info.name e = false) ∧
      accepted? includePrivate p = some info ∧ diagnosis? includePrivate p = none) ∨
    (∃ d, Explains includePrivate p d ∧
      accepted? includePrivate p = none ∧ diagnosis? includePrivate p = some d) := by
  obtain ⟨earlier, r⟩ := p
  cases hdecoded : extractClass r.data includePrivate with
  | error fault =>
      obtain ⟨d, hprocess, hexplains⟩ := exists_rejected earlier hdecoded
      exact .inr ⟨d, hexplains, accepted?_of_error hdecoded, diagnosis?_of_rejected hprocess⟩
  | ok info =>
      cases hfirst : earlier.find? (decodesTo includePrivate info.name) with
      | none =>
          have hnew : ∀ e ∈ earlier, decodesTo includePrivate info.name e = false := by
            simpa using hfirst
          refine .inl ⟨info, rfl, hnew, accepted?_of_first hdecoded hfirst, ?_⟩
          rw [diagnosis?_of_ok hdecoded, hfirst, Option.map_none]
      | some first =>
          refine .inr ⟨_, explains_duplicate hdecoded hfirst,
            accepted?_of_duplicate hdecoded hfirst, ?_⟩
          rw [diagnosis?_of_ok hdecoded, hfirst, Option.map_some]

/-! ## What a whole batch gives -/

theorem map_record_placesFrom (earlier records : List LabelledRecord) :
    (placesFrom earlier records).map Place.record = records := by
  induction records generalizing earlier with
  | nil => rfl
  | cons r rest ih => rw [placesFrom, List.map_cons, ih]

theorem length_placesFrom (earlier records : List LabelledRecord) :
    (placesFrom earlier records).length = records.length := by
  have hmap := congrArg List.length (map_record_placesFrom earlier records)
  rwa [List.length_map] at hmap

section Run

variable {includePrivate}

/-- Merging goes through the places of a batch in order, and keeps what each of them gives. -/
theorem mergeFrom_process {earlier : List LabelledRecord} {seen : List (String × String)}
    (h : Remembers includePrivate earlier seen) (records : List LabelledRecord) :
    mergeFrom seen (records.map fun r => (r, process includePrivate r)) =
      ⟨(placesFrom earlier records).filterMap (accepted? includePrivate),
        (placesFrom earlier records).filterMap (diagnosis? includePrivate)⟩ := by
  -- with each record `earlier` grows by it, and `seen` by its name where that is new
  induction records generalizing earlier seen with
  | nil => rfl
  | cons r rest ih =>
      rw [List.map_cons, placesFrom, List.filterMap_cons, List.filterMap_cons]
      cases hdecoded : extractClass r.data includePrivate with
      | error fault =>
          obtain ⟨d, hprocess, -⟩ := exists_rejected earlier hdecoded
          rw [accepted?_of_error hdecoded, diagnosis?_of_rejected hprocess, hprocess, mergeFrom,
            ih (h.skip (.of_error hdecoded))]
      | ok info =>
          have hlookup := h info.name
          rw [process_of_ok hdecoded, mergeFrom, diagnosis?_of_ok hdecoded]
          cases hfirst : earlier.find? (decodesTo includePrivate info.name) with
          | none =>
              rw [hfirst, Option.map_none] at hlookup
              rw [hlookup, accepted?_of_first hdecoded hfirst]
              simp only [ih (h.insert hdecoded hfirst), Option.map_none]
          | some first =>
              rw [hfirst, Option.map_some] at hlookup
              have hidle : Idle includePrivate earlier r := .of_ok hdecoded
                ⟨first, List.mem_of_find?_eq_some hfirst, List.find?_some hfirst⟩
              rw [hlookup, accepted?_of_duplicate hdecoded hfirst]
              simp only [ih (h.skip hidle), Option.map_some]

theorem merge_process (records : List LabelledRecord) :
    merge records (records.map (process includePrivate)) =
      ⟨(places records).filterMap (accepted? includePrivate),
        (places records).filterMap (diagnosis? includePrivate)⟩ := by
  rw [merge, ← List.map_prod_left_eq_zip]
  exact mergeFrom_process remembers_nil records

/-- An accepted class has a name to which no earlier record decodes. -/
theorem decodesTo_of_accepted {p : Place} {info : ClassInfo}
    (h : accepted? includePrivate p = some info) :
    decodesTo includePrivate info.name p.record = true ∧
      ∀ e ∈ p.earlier, decodesTo includePrivate info.name e = false := by
  rcases accepted_or_explained includePrivate p with
    ⟨info', hdecoded, hnew, haccepted, -⟩ | ⟨d, -, hnone, -⟩
  · rw [haccepted, Option.some.injEq] at h
    subst h
    exact ⟨decodesTo_self hdecoded, hnew⟩
  · rw [hnone] at h
    cases h

theorem mem_earlier_placesFrom {earlier records : List LabelledRecord} {p : Place}
    (h : p ∈ placesFrom earlier records) {e : LabelledRecord} (he : e ∈ earlier) :
    e ∈ p.earlier := by
  induction records generalizing earlier with
  | nil => cases h
  | cons r rest ih =>
      rcases List.mem_cons.mp h with rfl | hrest
      · exact he
      · exact ih hrest (List.mem_append_left _ he)

theorem nodup_names_accepted (earlier records : List LabelledRecord) :
    (((placesFrom earlier records).filterMap (accepted? includePrivate)).map
      ClassInfo.name).Nodup := by
  induction records generalizing earlier with
  | nil => exact List.nodup_nil
  | cons r rest ih =>
      rw [placesFrom, List.filterMap_cons]
      cases haccepted : accepted? includePrivate ⟨earlier, r⟩ with
      | none => exact ih _
      | some info =>
          refine List.nodup_cons.mpr ⟨?_, ih _⟩
          -- every later place has `r` among its earlier records, so that its name is another
          intro hmem
          obtain ⟨info', hinfo', hname⟩ := List.mem_map.mp hmem
          obtain ⟨p, hp, hlater⟩ := List.mem_filterMap.mp hinfo'
          have hr : r ∈ p.earlier := mem_earlier_placesFrom hp (by simp)
          have hnot := (decodesTo_of_accepted hlater).2 r hr
          rw [hname, (decodesTo_of_accepted haccepted).1] at hnot
          cases hnot

/-- Where no class is accepted there is one diagnostic, in order. -/
theorem forall₂_diagnosis (ps : List Place) :
    List.Forall₂ (Explains includePrivate)
      (ps.filter fun p => (accepted? includePrivate p).isNone)
      (ps.filterMap (diagnosis? includePrivate)) := by
  induction ps with
  | nil => exact .nil
  | cons p rest ih =>
      rcases accepted_or_explained includePrivate p with
        ⟨info, -, -, haccepted, hnone⟩ | ⟨d, hexplains, hnone, hdiagnosis⟩
      · rw [List.filter_cons_of_neg (by simp [haccepted]), List.filterMap_cons_none hnone]
        exact ih
      · rw [List.filter_cons_of_pos (by simp [hnone]), List.filterMap_cons_some hdiagnosis]
        exact .cons hexplains ih

theorem length_accepted_add_diagnosis (ps : List Place) :
    (ps.filterMap (accepted? includePrivate)).length +
      (ps.filterMap (diagnosis? includePrivate)).length = ps.length := by
  induction ps with
  | nil => rfl
  | cons p rest ih =>
      rcases accepted_or_explained includePrivate p with
        ⟨info, -, -, haccepted, hnone⟩ | ⟨d, -, hnone, hdiagnosis⟩
      · rw [List.filterMap_cons_some haccepted, List.filterMap_cons_none hnone]
        simp only [List.length_cons]
        omega
      · rw [List.filterMap_cons_none hnone, List.filterMap_cons_some hdiagnosis]
        simp only [List.length_cons]
        omega

end Run

/-- **Every record is accounted for once.** The classes of a batch are what its records decode to,
less the names that an earlier record decodes to, and every other record has its diagnostic; both
keep the order of the records. -/
theorem merge_accounts (records : List LabelledRecord) :
    let merged := merge records (records.map (process includePrivate))
    merged.classes.length + merged.diagnostics.length = records.length ∧
    (merged.classes.map ClassInfo.name).Nodup ∧
    merged.classes = (places records).filterMap (accepted? includePrivate) ∧
    List.Forall₂ (Explains includePrivate)
      ((places records).filter fun p => (accepted? includePrivate p).isNone)
      merged.diagnostics := by
  intro merged
  have hmerged : merged = _ := merge_process records
  rw [hmerged]
  refine ⟨?_, nodup_names_accepted [] records, rfl, forall₂_diagnosis _⟩
  rw [length_accepted_add_diagnosis, places, length_placesFrom]

end ClassAtlas.Batch
