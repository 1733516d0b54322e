import ClassAtlas.Proofs.Batch.Accounting
import ClassAtlas.Proofs.Batch.Run
import ClassAtlas.Proofs.ClassFile.Truncation

/-!
# A record that gives no class changes nothing else

What a record gives rests on those before it only through the first of them for
each name. A record that decodes to no new name is never that first one, so the
places behind it give what they give without it.
-/

namespace ClassAtlas.Batch

variable {includePrivate : Bool}

/-! ## Lists of records that agree -/

/-- Two lists of records agree if each name has the same first record in both. -/
def Agree (includePrivate : Bool) (earlier earlier' : List LabelledRecord) : Prop :=
  ∀ name, earlier.find? (decodesTo includePrivate name) =
    earlier'.find? (decodesTo includePrivate name)

theorem Idle.agree {earlier : List LabelledRecord} {r : LabelledRecord}
    (h : Idle includePrivate earlier r) : Agree includePrivate (earlier ++ [r]) earlier := by
  intro name
  rw [h.find?_append_cons, List.append_nil]

section Agree

variable {earlier earlier' : List LabelledRecord}

theorem Agree.append (h : Agree includePrivate earlier earlier') (rest : List LabelledRecord) :
    Agree includePrivate (earlier ++ rest) (earlier' ++ rest) := by
  intro name
  rw [List.find?_append, List.find?_append, h name]

theorem Agree.accepted?_eq (h : Agree includePrivate earlier earlier') (r : LabelledRecord) :
    accepted? includePrivate ⟨earlier, r⟩ = accepted? includePrivate ⟨earlier', r⟩ := by
  cases hdecoded : extractClass r.data includePrivate with
  | error fault => rw [accepted?_of_error hdecoded, accepted?_of_error hdecoded]
  | ok info =>
      have hfind := h info.name
      cases hfirst : earlier'.find? (decodesTo includePrivate info.name) with
      | none =>
          rw [hfirst] at hfind
          rw [accepted?_of_first hdecoded hfind, accepted?_of_first hdecoded hfirst]
      | some first =>
          rw [hfirst] at hfind
          rw [accepted?_of_duplicate hdecoded hfind, accepted?_of_duplicate hdecoded hfirst]

theorem Agree.diagnosis?_eq (h : Agree includePrivate earlier earlier') (r : LabelledRecord) :
    diagnosis? includePrivate ⟨earlier, r⟩ = diagnosis? includePrivate ⟨earlier', r⟩ := by
  cases hprocess : process includePrivate r with
  | rejected d => rw [diagnosis?_of_rejected hprocess, diagnosis?_of_rejected hprocess]
  | extracted info => simp only [diagnosis?, hprocess, h info.name]

/-- Records give the same behind lists that agree, where a place alone gives the same. -/
theorem Agree.filterMap_placesFrom {β : Type} {f : Place → Option β}
    (hf : ∀ {earlier earlier'}, Agree includePrivate earlier earlier' →
      ∀ r, f ⟨earlier, r⟩ = f ⟨earlier', r⟩)
    (h : Agree includePrivate earlier earlier') (records : List LabelledRecord) :
    (placesFrom earlier records).filterMap f = (placesFrom earlier' records).filterMap f := by
  induction records generalizing earlier earlier' with
  | nil => rfl
  | cons r rest ih =>
      rw [placesFrom, placesFrom, List.filterMap_cons, List.filterMap_cons, hf h r,
        ih (h.append [r])]

end Agree

/-! ## Inserting a record -/

theorem placesFrom_append (earlier before after : List LabelledRecord) :
    placesFrom earlier (before ++ after) =
      placesFrom earlier before ++ placesFrom (earlier ++ before) after := by
  induction before generalizing earlier with
  | nil => rw [List.nil_append, List.append_nil, placesFrom, List.nil_append]
  | cons r rest ih =>
      rw [List.cons_append, placesFrom, ih, placesFrom, List.cons_append, List.append_assoc,
        List.singleton_append]

section Insert

variable {before : List LabelledRecord} {r : LabelledRecord}

/-- An idle record is not accepted, so it has a diagnostic. -/
theorem Idle.exists_diagnosis (h : Idle includePrivate before r) :
    ∃ d, Explains includePrivate ⟨before, r⟩ d ∧ accepted? includePrivate ⟨before, r⟩ = none ∧
      diagnosis? includePrivate ⟨before, r⟩ = some d := by
  rcases accepted_or_explained includePrivate ⟨before, r⟩ with
    ⟨info, -, -, haccepted, -⟩ | hexplained
  · obtain ⟨hdecodes, hnew⟩ := decodesTo_of_accepted haccepted
    obtain ⟨e, he, hdecodes'⟩ := h info.name hdecodes
    rw [hnew e he] at hdecodes'
    cases hdecodes'
  · exact hexplained

/-- An idle record adds its diagnostic to what a batch comes to, between those of the records
before it and those of the records behind it. -/
theorem merge_insert_idle (h : Idle includePrivate before r) (after : List LabelledRecord) :
    ∃ d classes earlier later, Explains includePrivate ⟨before, r⟩ d ∧
      merge (before ++ after) ((before ++ after).map (process includePrivate)) =
        ⟨classes, earlier ++ later⟩ ∧
      merge (before ++ r :: after) ((before ++ r :: after).map (process includePrivate)) =
        ⟨classes, earlier ++ d :: later⟩ := by
  obtain ⟨d, hexplains, hnone, hdiagnosis⟩ := h.exists_diagnosis
  have hclasses := h.agree.filterMap_placesFrom Agree.accepted?_eq after
  have hdiagnostics := h.agree.filterMap_placesFrom Agree.diagnosis?_eq after
  refine ⟨d, (places before).filterMap (accepted? includePrivate) ++
      (placesFrom before after).filterMap (accepted? includePrivate),
    (places before).filterMap (diagnosis? includePrivate),
    (placesFrom before after).filterMap (diagnosis? includePrivate), hexplains, ?_, ?_⟩
  · rw [merge_process, places, places, placesFrom_append, List.filterMap_append,
      List.filterMap_append, List.nil_append]
  · rw [merge_process, places, places, placesFrom_append, List.filterMap_append,
      List.filterMap_append, List.nil_append, placesFrom, List.filterMap_cons_none hnone,
      List.filterMap_cons_some hdiagnosis, hclasses, hdiagnostics]

end Insert

/-! ## Runs -/

/-- **A record that gives no class changes nothing else.** Put anywhere into a batch, a record that
does not decode, or that decodes to the name of a class before it, adds one diagnostic of its own.
The other diagnostics keep their order, and all else that a run finds out, the data flow too, stays
as it was. -/
theorem run_insert_idle {s : Settings} (htimeout : s.timeout = .absent)
    (hworkers : ∀ x, s.workers ≠ .real x) (before after : List LabelledRecord) {r : LabelledRecord}
    (hr : (∃ fault, extractClass r.data s.includePrivate.isYes = .error fault) ∨
      ∃ info, extractClass r.data s.includePrivate.isYes = .ok info ∧
        ∃ e ∈ before, decodesTo s.includePrivate.isYes info.name e = true) :
    ∃ d earlier later, Explains s.includePrivate.isYes ⟨before, r⟩ d ∧
      (s.Typed → ∃ a, (run s (before ++ after)).results.1 = .ok a) ∧
      (∀ a, (run s (before ++ after)).results.1 = .ok a → a.diagnostics = earlier ++ later) ∧
      (run s (before ++ r :: after)).results.1 =
        (run s (before ++ after)).results.1.map (fun a =>
          { a with diagnostics := earlier ++ d :: later }) ∧
      ∀ a a', (run s (before ++ after)).results.1 = .ok a →
        (run s (before ++ r :: after)).results.1 = .ok a' →
        ∀ depth, runFlow s depth a' = runFlow s depth a := by
  have hidle : Idle s.includePrivate.isYes before r := by
    rcases hr with ⟨fault, herror⟩ | ⟨info, hok, hbefore⟩
    · exact .of_error herror
    · exact .of_ok hok hbefore
  obtain ⟨d, classes, earlier, later, hexplains, hmerge, hmerge'⟩ := merge_insert_idle hidle after
  have hrun := run_results htimeout hworkers (before ++ after)
  have hrun' := run_results htimeout hworkers (before ++ r :: after)
  rw [hmerge] at hrun
  rw [hmerge'] at hrun'
  refine ⟨d, earlier, later, hexplains, ?_, ?_⟩
  · intro hs
    obtain ⟨options, hoptions⟩ := exists_optionsFor hs classes
    exact ⟨_, hrun.trans (by rw [hoptions]; rfl)⟩
  -- both runs judge their settings for the same classes
  rw [hrun, hrun']
  cases optionsFor s classes with
  | error fault => exact ⟨nofun, rfl, nofun⟩
  | ok options =>
      refine ⟨?_, rfl, ?_⟩
      · rintro a ⟨⟩
        rfl
      · rintro a a' ⟨⟩ ⟨⟩ depth
        rfl

theorem run_insert_idle_sample :
    ∃ a d earlier later, a.diagnostics = earlier ++ later ∧ d.record = "b" ∧ d.kind = .duplicate ∧
      (run (.default none) [⟨"a", sampleRecord⟩, ⟨"c", []⟩]).results.1 = .ok a ∧
      (run (.default none) [⟨"a", sampleRecord⟩, ⟨"b", sampleRecord⟩, ⟨"c", []⟩]).results.1 =
        .ok { a with diagnostics := earlier ++ d :: later } := by
  have hsome : (extractClass sampleRecord).toOption.isSome = true := by decide
  cases h : extractClass sampleRecord with
  | error fault =>
      rw [h] at hsome
      cases hsome
  | ok info =>
      have hfirst : decodesTo true info.name ⟨"a", sampleRecord⟩ = true :=
        decodesTo_self (r := ⟨"a", sampleRecord⟩) h
      have htyped : (Settings.default none).Typed :=
        ⟨⟨_, rfl⟩, by simp [Settings.default], by rintro e ⟨⟩⟩
      obtain ⟨d, earlier, later, hexplains, hreturns, hdiagnostics, hresults, -⟩ :=
        run_insert_idle (s := .default none) rfl nofun [⟨"a", sampleRecord⟩] [⟨"c", []⟩]
          (r := ⟨"b", sampleRecord⟩) (.inr ⟨info, h, _, by simp, hfirst⟩)
      obtain ⟨a, ha⟩ := hreturns htyped
      refine ⟨a, d, earlier, later, hdiagnostics a ha, hexplains.record, ?_, ha, ?_⟩
      · exact hexplains.duplicate.mpr ⟨info, h, _, by simp, hfirst⟩
      · rw [ha] at hresults
        exact hresults

end ClassAtlas.Batch
