import ClassAtlas.Batch.Run
import ClassAtlas.Proofs.Batch.Extraction
import ClassAtlas.Proofs.ClassFile.Truncation
import ClassAtlas.Proofs.Notices

/-!
# Runs without a limit of time

Without a limit every record is done, so that a run comes down to judging its
settings and analysing what its records give. How many workers there are and in
which order records are done does not show. Settings of the declared kinds never
stop a run, nor the search for data flow behind it.
-/

namespace ClassAtlas

/-- Settings of the kinds that are declared: workers a whole number, beginnings and annotation
names texts. -/
structure Settings.Typed (s : Settings) : Prop where
  workers : ∃ n, s.workers = .integer n
  beginnings : ∀ v ∈ s.excludedBeginnings, ∃ t, v = .text t
  annotations : ∀ e ∈ s.extraAnnotations.entries, ∀ v ∈ e.2, ∃ t, v = .text t

/-- Limits on call chains of the kinds that are declared: whole numbers, and perhaps no cap. -/
structure Settings.TypedLimits (s : Settings) : Prop where
  depth : ∃ n, s.maxCallDepth = .integer n
  cap : s.maxChains = .absent ∨ ∃ n, s.maxChains = .integer n

namespace Batch

open ClassAtlas.Flow (DataFlow)

/-! ## Extraction under settings -/

/-- A whole number of workers is judged alike for batches of any size. -/
theorem readsAtOnce_eq {workers : Setting} (hworkers : ∀ x, workers ≠ .real x) (count : Nat) :
    readsAtOnce workers count =
      (workers.exceeds 1).map fun several => several && decide (1 < count) := by
  unfold readsAtOnce
  cases hexceeds : workers.exceeds 1 with
  | error fault => rfl
  | ok several =>
      have hfew : (!several || decide (count ≤ 1)) = !(several && decide (1 < count)) := by
        by_cases hcount : count ≤ 1
        · simp [hcount, Nat.not_lt.mpr hcount]
        · simp [hcount, Nat.lt_of_not_le hcount]
      show (if (!several || decide (count ≤ 1)) = true then _ else _) =
        Except.ok (several && decide (1 < count))
      rw [hfew]
      cases several && decide (1 < count) with
      | false => rfl
      | true =>
          -- only a fractional number of workers is refused here
          cases workers with
          | real x => exact absurd rfl (hworkers x)
          | _ => rfl

theorem exists_exceeds_of_read {workers : Setting} {count : Nat} {atOnce : Bool}
    (h : readsAtOnce workers count = .ok atOnce) : ∃ several, workers.exceeds 1 = .ok several := by
  unfold readsAtOnce at h
  cases hexceeds : workers.exceeds 1 with
  | error fault =>
      rw [hexceeds] at h
      cases h
  | ok several => exact ⟨several, rfl⟩

/-- Without a limit of time each record is read, whatever the order in which they are done. -/
theorem extractAll_of_read {s : Settings} (htimeout : s.timeout = .absent)
    {records : List LabelledRecord} {atOnce : Bool} {order : List Nat}
    (hread : readsAtOnce s.workers records.length = .ok atOnce)
    (hall : ∀ i < records.length, i ∈ order) :
    extractAll s records order = pure (records.map (process s.includePrivate.isYes)) := by
  rw [extractAll, hread, htimeout]
  cases atOnce with
  | false =>
      show Noted.ofExcept ((extractInTurn _ (fun _ => true) records).mapError _) = _
      rw [extractInTurn_of_all fun _ _ => rfl]
      rfl
  | true =>
      show Noted.ofExcept ((extractAtOnce _ order records).mapError _) = _
      rw [extractAtOnce_of_all hall]
      rfl

/-! ## What a run comes to -/

/-- The catalog that the settings ask for. -/
def catalogFor (s : Settings) : Except RunFault RoleCatalog :=
  (s.extraAnnotations.entries.foldlM extendCatalog RoleCatalog.default).results.1

/-- What the settings come to for given classes, judged in the order in which a run judges them. -/
def optionsFor (s : Settings) (classes : List ClassInfo) : Except RunFault Options := do
  let _ ← (s.workers.exceeds 1).mapError .setting
  let catalog ← catalogFor s
  let beginnings ← (beginningsFor s classes).mapError .setting
  return ⟨beginnings, catalog⟩

theorem appends_extendCatalog (catalog : RoleCatalog) (entry : String × List Setting) :
    Noted.Appends (extendCatalog catalog entry) :=
  (Noted.appends_ofExcept _).bind fun _ => (Noted.appends_noteAll _).bind fun _ =>
    Noted.appends_pure _

theorem run_results_of_refused {s : Settings} {records : List LabelledRecord} {fault : SettingFault}
    (hread : readsAtOnce s.workers records.length = .error fault) :
    (run s records).results.1 = .error (.setting fault) := by
  rw [run, extractAll, hread]
  rfl

/-- Notices aside, a run judges its settings and analyses what its records give. -/
theorem run_results_of_read {s : Settings} (htimeout : s.timeout = .absent)
    {records : List LabelledRecord} {atOnce : Bool}
    (hread : readsAtOnce s.workers records.length = .ok atOnce) :
    let merged := merge records (records.map (process s.includePrivate.isYes))
    (run s records).results.1 = (optionsFor s merged.classes).map (Analysis.ofMerged · merged) := by
  intro merged
  obtain ⟨several, hexceeds⟩ := exists_exceeds_of_read hread
  -- `results_bind` takes one step off the front once all that follows only adds notices
  have hcatalog : Noted.Appends
      (s.extraAnnotations.entries.foldlM extendCatalog RoleCatalog.default) :=
    .foldlM appends_extendCatalog _ _
  have hbeginnings : ∀ (merged : Merged) (catalog : RoleCatalog), Noted.Appends (do
      let beginnings ← judged (beginningsFor s merged.classes)
      return Analysis.ofMerged ⟨beginnings, catalog⟩ merged) :=
    fun _ _ => (Noted.appends_ofExcept _).bind fun _ => Noted.appends_pure _
  rw [run, extractAll_of_read htimeout hread fun _ hi => List.mem_range.mpr hi, pure_bind,
    optionsFor, hexceeds]
  show (Noted.results (Noted.noteAll (merged.diagnostics.map Diagnostic.notice) >>= _)).1 = _
  rw [Noted.results_bind fun _ => hcatalog.bind (hbeginnings merged)]
  show (Noted.results (_ >>= _)).1 = _
  rw [Noted.results_bind (hbeginnings merged)]
  show catalogFor s >>= _ = (catalogFor s >>= _).map _
  cases catalogFor s with
  | error fault => rfl
  | ok catalog =>
      show (Noted.results (judged (beginningsFor s merged.classes) >>= _)).1 = _
      rw [Noted.results_bind fun _ => Noted.appends_pure _]
      show (beginningsFor s merged.classes).mapError RunFault.setting >>= _ =
        ((beginningsFor s merged.classes).mapError RunFault.setting >>= _).map _
      cases beginningsFor s merged.classes with
      | error fault => rfl
      | ok beginnings => rfl

/-- Where workers are not fractional, the number of records does not matter to the settings. -/
theorem run_results {s : Settings} (htimeout : s.timeout = .absent)
    (hworkers : ∀ x, s.workers ≠ .real x) (records : List LabelledRecord) :
    let merged := merge records (records.map (process s.includePrivate.isYes))
    (run s records).results.1 = (optionsFor s merged.classes).map (Analysis.ofMerged · merged) := by
  intro merged
  have hreads := readsAtOnce_eq hworkers records.length
  cases hexceeds : s.workers.exceeds 1 with
  | error fault =>
      rw [hexceeds, Except.map] at hreads
      rw [run_results_of_refused hreads, optionsFor, hexceeds]
      rfl
  | ok several =>
      rw [hexceeds, Except.map] at hreads
      exact run_results_of_read htimeout hreads

theorem catalogFor_of_optionsFor {s : Settings} {classes : List ClassInfo} {options : Options}
    (h : optionsFor s classes = .ok options) : catalogFor s = .ok options.catalog := by
  obtain ⟨several, -, h⟩ := Noted.exists_of_bind_eq_ok h
  obtain ⟨catalog, hcatalog, h⟩ := Noted.exists_of_bind_eq_ok h
  obtain ⟨beginnings, -, h⟩ := Noted.exists_of_bind_eq_ok h
  cases h
  exact hcatalog

/-- What a run returns is the analysis of merged classes under the catalog of the settings. -/
theorem eq_ofMerged_of_run {s : Settings} (htimeout : s.timeout = .absent)
    {records : List LabelledRecord} {a : Analysis} (h : (run s records).results.1 = .ok a) :
    ∃ options merged, catalogFor s = .ok options.catalog ∧ a = .ofMerged options merged := by
  cases hread : readsAtOnce s.workers records.length with
  | error fault =>
      rw [run_results_of_refused hread] at h
      cases h
  | ok atOnce =>
      rw [run_results_of_read htimeout hread] at h
      generalize hmerged : merge records _ = merged at h
      cases hoptions : optionsFor s merged.classes with
      | error fault =>
          rw [hoptions] at h
          cases h
      | ok options =>
          rw [hoptions] at h
          cases h
          exact ⟨options, merged, catalogFor_of_optionsFor hoptions, rfl⟩

/-! ## Any order of completion -/

/-- A whole number of workers is never refused. -/
theorem exists_readsAtOnce_integer (workers : Int) (count : Nat) :
    ∃ atOnce, readsAtOnce (.integer workers) count = .ok atOnce := by
  have hwhole : ∀ x, Setting.integer workers ≠ .real x := nofun
  exact ⟨_, readsAtOnce_eq hwhole count⟩

/-- **The order in which records are done does not show.** Without a limit of time, arrivals in any
order of all records leave no slot empty and give the outcomes of reading in turn; hence a run is
the same, notices included, for every number of workers and every order. -/
theorem run_of_completion {s : Settings} (htimeout : s.timeout = .absent)
    {records : List LabelledRecord} {order : List Nat}
    (horder : order.Perm (List.range records.length)) :
    (∀ includePrivate : Bool,
      (∀ slot ∈ collect records.length (arrivals includePrivate order records), slot.isSome) ∧
      ∃ outcomes, extractAtOnce includePrivate order records = .ok outcomes ∧
        extractInTurn includePrivate (fun _ => true) records = .ok outcomes) ∧
    ∀ workers workers' : Int,
      run { s with workers := .integer workers } records order =
        run { s with workers := .integer workers' } records := by
  have hall : ∀ i < records.length, i ∈ order :=
    fun i hi => horder.mem_iff.mpr (List.mem_range.mpr hi)
  refine ⟨fun includePrivate => ⟨?_, ?_⟩, fun workers workers' => ?_⟩
  · intro slot hslot
    rw [collect_arrivals hall] at hslot
    obtain ⟨outcome, -, rfl⟩ := List.mem_map.mp hslot
    rfl
  · exact ⟨_, extractAtOnce_of_all hall, extractInTurn_of_all fun _ _ => rfl⟩
  · obtain ⟨_, hread⟩ := exists_readsAtOnce_integer workers records.length
    obtain ⟨_, hread'⟩ := exists_readsAtOnce_integer workers' records.length
    have hextract := extractAll_of_read (s := { s with workers := .integer workers }) htimeout hread hall
    have hextract' := extractAll_of_read (s := { s with workers := .integer workers' }) htimeout hread'
      fun _ => List.mem_range.mpr
    -- past extraction nothing reads the number of workers
    simp only [run, hextract, hextract', beginningsFor, Settings.isExcluded]

theorem run_of_completion_sample :
    [2, 0, 1].Perm (List.range 3) ∧
      run { workers := .integer 4 } [⟨"a", sampleRecord⟩, ⟨"b", []⟩, ⟨"c", sampleRecord⟩] [2, 0, 1] =
        run { workers := .integer 1 } [⟨"a", sampleRecord⟩, ⟨"b", []⟩, ⟨"c", sampleRecord⟩] := by
  have horder : [2, 0, 1].Perm (List.range 3) := by decide
  exact ⟨horder, (run_of_completion (s := .default none) rfl horder).2 4 1⟩

/-! ## Settings of the declared kinds -/

theorem exists_annotationNames {values : List Setting} (h : ∀ v ∈ values, ∃ t, v = .text t) :
    ∃ names, annotationNames values = .ok names := by
  induction values with
  | nil => exact ⟨[], rfl⟩
  | cons v rest ih =>
      obtain ⟨t, rfl⟩ := h v (by simp)
      obtain ⟨names, hnames⟩ := ih fun v hv => h v (List.mem_cons_of_mem _ hv)
      refine ⟨t :: names, ?_⟩
      rw [annotationNames, hnames]
      rfl

theorem exists_hasBeginning {beginnings : List Setting} (h : ∀ v ∈ beginnings, ∃ t, v = .text t)
    (name : String) : ∃ b, Settings.hasBeginning beginnings name = .ok b := by
  induction beginnings with
  | nil => exact ⟨false, rfl⟩
  | cons v rest ih =>
      obtain ⟨t, rfl⟩ := h v (by simp)
      rw [Settings.hasBeginning]
      by_cases hstarts : Text.startsWith name t = true
      · exact ⟨true, if_pos hstarts⟩
      · rw [if_neg hstarts]
        exact ih fun v hv => h v (List.mem_cons_of_mem _ hv)

theorem exists_extendCatalog {entry : String × List Setting}
    (h : ∀ v ∈ entry.2, ∃ t, v = .text t) (catalog : RoleCatalog) :
    ∃ extended, (extendCatalog catalog entry).results.1 = .ok extended := by
  obtain ⟨names, hnames⟩ := exists_annotationNames h
  rw [extendCatalog, hnames]
  cases Role.ofLabel? (Text.upper entry.1) with
  | none => exact ⟨_, rfl⟩
  | some role => exact ⟨_, rfl⟩

theorem exists_foldlM_extendCatalog {entries : List (String × List Setting)}
    (h : ∀ e ∈ entries, ∀ v ∈ e.2, ∃ t, v = .text t) (catalog : RoleCatalog) :
    ∃ extended, (entries.foldlM extendCatalog catalog).results.1 = .ok extended := by
  induction entries generalizing catalog with
  | nil => exact ⟨catalog, rfl⟩
  | cons e rest ih =>
      obtain ⟨next, hnext⟩ := exists_extendCatalog (h e (by simp)) catalog
      rw [List.foldlM_cons, Noted.results_bind fun c => .foldlM appends_extendCatalog rest c, hnext]
      exact ih (fun e he => h e (List.mem_cons_of_mem _ he)) next

theorem exists_beginningsFor {s : Settings} (h : ∀ v ∈ s.excludedBeginnings, ∃ t, v = .text t)
    (classes : List ClassInfo) : ∃ beginnings, beginningsFor s classes = .ok beginnings := by
  have hmapM : ∃ excluded, classes.mapM (fun c => s.isExcluded c.name) = .ok excluded := by
    induction classes with
    | nil => exact ⟨[], rfl⟩
    | cons c rest ih =>
        obtain ⟨b, hb⟩ := exists_hasBeginning h c.name
        obtain ⟨excluded, hexcluded⟩ := ih
        refine ⟨b :: excluded, ?_⟩
        rw [List.mapM_cons, Settings.isExcluded, hb, hexcluded]
        rfl
  obtain ⟨excluded, hexcluded⟩ := hmapM
  refine ⟨textsOf s.excludedBeginnings, ?_⟩
  rw [beginningsFor, hexcluded]
  rfl

theorem exists_optionsFor {s : Settings} (hs : s.Typed) (classes : List ClassInfo) :
    ∃ options, optionsFor s classes = .ok options := by
  obtain ⟨n, hn⟩ := hs.workers
  obtain ⟨catalog, hcatalog⟩ := exists_foldlM_extendCatalog hs.annotations RoleCatalog.default
  obtain ⟨beginnings, hbeginnings⟩ := exists_beginningsFor hs.beginnings classes
  rw [optionsFor, hn, catalogFor, hcatalog, hbeginnings]
  exact ⟨_, rfl⟩

theorem exists_run {s : Settings} (hs : s.Typed) (htimeout : s.timeout = .absent)
    (records : List LabelledRecord) : ∃ a, (run s records).results.1 = .ok a := by
  obtain ⟨n, hn⟩ := hs.workers
  obtain ⟨atOnce, hread⟩ := exists_readsAtOnce_integer n records.length
  rw [← hn] at hread
  obtain ⟨options, hoptions⟩ := exists_optionsFor hs
    (merge records (records.map (process s.includePrivate.isYes))).classes
  exact ⟨_, (run_results_of_read htimeout hread).trans (by rw [hoptions]; rfl)⟩

/-- What a run finds out about data flow is found within some limits. -/
theorem eq_flow_of_runFlow {s : Settings} {depth : Setting} {a : Analysis} {flow : DataFlow}
    (h : (runFlow s depth a).results.1 = .ok flow) : ∃ limits, flow = (a.flow limits).1 := by
  unfold runFlow at h
  generalize depthLimit _ = result at h
  cases result with
  | error fault => cases h
  | ok limit =>
      have hjudged : judged (.ok limit) = pure limit := rfl
      rw [hjudged, pure_bind] at h
      obtain ⟨cap, -, hflow⟩ := Noted.exists_of_results_bind (fun _ =>
        (Noted.appends_noteAll _).bind fun _ => Noted.appends_pure _) h
      cases hflow
      exact ⟨⟨limit, cap⟩, rfl⟩

theorem exists_depthLimit (n : Int) : ∃ limit, depthLimit (.integer n) = .ok limit := by
  by_cases hn : n < 1
  · exact ⟨some 0, by simp [depthLimit, Setting.fallsBelow, hn, bind, Except.bind, pure, Except.pure]⟩
  · exact ⟨some n, by simp [depthLimit, Setting.fallsBelow, Setting.reachedAt, hn, bind, Except.bind]⟩

theorem exists_runFlow {s : Settings} (hs : s.TypedLimits) (a : Analysis) :
    ∃ flow, (runFlow s .absent a).results.1 = .ok flow := by
  obtain ⟨n, hn⟩ := hs.depth
  obtain ⟨limit, hlimit⟩ := exists_depthLimit n
  rcases hs.cap with hcap | ⟨cap, hcap⟩
  · rw [runFlow, hn, hlimit, hcap]
    exact ⟨_, rfl⟩
  · rw [runFlow, hn, hlimit, hcap]
    exact ⟨_, rfl⟩

end Batch

end ClassAtlas
