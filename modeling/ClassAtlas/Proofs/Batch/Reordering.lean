import ClassAtlas.Proofs.Batch.Accounting
import ClassAtlas.Proofs.Batch.Run
import ClassAtlas.Proofs.Component.Wiring
import ClassAtlas.Proofs.Graph.Reordering

/-!
# Runs of reordered records

If no two records of a batch decode to one name, every record gives its class or
its diagnostic whatever stands before it. Records in another order then give the
same classes and diagnostics in another order, and everything that is a graph
comes out the same.
-/

namespace ClassAtlas.Batch

open ClassAtlas.Flow (DataFlow)

variable {includePrivate : Bool}

/-! ## Records that decode to different names -/

/-- The class that a record decodes to. -/
def decoded? (includePrivate : Bool) (r : LabelledRecord) : Option ClassInfo :=
  (extractClass r.data includePrivate).toOption

/-- The name that a record decodes to. -/
def decodedName? (includePrivate : Bool) (r : LabelledRecord) : Option String :=
  (decoded? includePrivate r).map ClassInfo.name

/-- No two records decode to one name. -/
def Distinct (includePrivate : Bool) (records : List LabelledRecord) : Prop :=
  (records.filterMap (decodedName? includePrivate)).Nodup

instance (records : List LabelledRecord) : Decidable (Distinct includePrivate records) :=
  inferInstanceAs (Decidable (List.Nodup _))

/-- The diagnostic of a record that does not decode. -/
def refusal? (includePrivate : Bool) (r : LabelledRecord) : Option Diagnostic :=
  match process includePrivate r with
  | .rejected d => some d
  | .extracted _ => none

theorem decodesTo_iff {name : String} {r : LabelledRecord} :
    decodesTo includePrivate name r = true ↔ decodedName? includePrivate r = some name := by
  cases hdecoded : extractClass r.data includePrivate with
  | error fault => simp [decodesTo, decodedName?, decoded?, hdecoded, Except.toOption]
  | ok info => simp [decodesTo, decodedName?, decoded?, hdecoded, Except.toOption]

/-- Two records have no name in common. -/
def Apart (includePrivate : Bool) (r r' : LabelledRecord) : Prop :=
  ∀ name, ¬ (decodesTo includePrivate name r = true ∧ decodesTo includePrivate name r' = true)

theorem Distinct.pairwise {records : List LabelledRecord} (h : Distinct includePrivate records) :
    records.Pairwise (Apart includePrivate) := by
  refine (List.pairwise_filterMap.mp h).imp fun hne name hboth => ?_
  exact hne name (decodesTo_iff.mp hboth.1) name (decodesTo_iff.mp hboth.2) rfl

theorem Distinct.perm {records records' : List LabelledRecord} (h : Distinct includePrivate records)
    (hperm : records.Perm records') : Distinct includePrivate records' :=
  (hperm.filterMap _).nodup h

theorem verdict_of_new {earlier : List LabelledRecord} {r : LabelledRecord}
    (h : ∀ e ∈ earlier, Apart includePrivate e r) :
    accepted? includePrivate ⟨earlier, r⟩ = decoded? includePrivate r ∧
      diagnosis? includePrivate ⟨earlier, r⟩ = refusal? includePrivate r := by
  cases hdecoded : extractClass r.data includePrivate with
  | error fault =>
      obtain ⟨d, hprocess, -⟩ := exists_rejected earlier hdecoded
      rw [accepted?_of_error hdecoded, diagnosis?_of_rejected hprocess, decoded?, hdecoded, refusal?,
        hprocess]
      exact ⟨rfl, rfl⟩
  | ok info =>
      have hnew : earlier.find? (decodesTo includePrivate info.name) = none := by
        rw [List.find?_eq_none]
        exact fun e he hname => h e he info.name ⟨hname, decodesTo_self hdecoded⟩
      rw [accepted?_of_first hdecoded hnew, diagnosis?_of_ok hdecoded, hnew, decoded?, hdecoded,
        refusal?, process_of_ok hdecoded]
      exact ⟨rfl, rfl⟩

theorem new_of_mem_placesFrom {earlier records : List LabelledRecord} {p : Place}
    (h : (earlier ++ records).Pairwise (Apart includePrivate))
    (hp : p ∈ placesFrom earlier records) : ∀ e ∈ p.earlier, Apart includePrivate e p.record := by
  induction records generalizing earlier with
  | nil => cases hp
  | cons r rest ih =>
      rcases List.mem_cons.mp hp with rfl | hrest
      · exact fun e he => (List.pairwise_append.mp h).2.2 e he r List.mem_cons_self
      · exact ih (by simpa using h) hrest

theorem filterMap_places {β : Type} {f : Place → Option β} {g : LabelledRecord → Option β}
    {records : List LabelledRecord} (h : ∀ p ∈ places records, f p = g p.record) :
    (places records).filterMap f = records.filterMap g := by
  calc (places records).filterMap f
      = (places records).filterMap (g ∘ Place.record) := List.filterMap_congr h
    _ = ((places records).map Place.record).filterMap g := (List.filterMap_map).symm
    _ = records.filterMap g := by rw [places, map_record_placesFrom]

/-- Among records with different names each gives what it gives alone. -/
theorem merge_of_distinct {records : List LabelledRecord} (h : Distinct includePrivate records) :
    merge records (records.map (process includePrivate)) =
      ⟨records.filterMap (decoded? includePrivate), records.filterMap (refusal? includePrivate)⟩ := by
  have hpairwise : ([] ++ records).Pairwise (Apart includePrivate) := h.pairwise
  have hnew : ∀ p ∈ places records, accepted? includePrivate p = decoded? includePrivate p.record ∧
      diagnosis? includePrivate p = refusal? includePrivate p.record :=
    fun p hp => verdict_of_new (new_of_mem_placesFrom hpairwise hp)
  rw [merge_process, filterMap_places fun p hp => (hnew p hp).1,
    filterMap_places fun p hp => (hnew p hp).2]

/-! ## Settings judged for reordered classes -/

/-- A name is refused only for a beginning that is no text. -/
theorem hasBeginning_error {beginnings : List Setting} {name : String} {fault : SettingFault}
    (h : Settings.hasBeginning beginnings name = .error fault) : fault = .notText := by
  fun_induction Settings.hasBeginning beginnings name with
  | case1 => cases h
  | case2 => cases h
  | case3 s rest hstarts ih => exact ih h
  | case4 =>
      cases h
      rfl

/-- The beginnings are judged name by name, and a name can be refused for one reason only. -/
theorem beginningsFor_eq (s : Settings) (classes : List ClassInfo) :
    beginningsFor s classes =
      if classes.all fun c => (s.isExcluded c.name).isOk then .ok (textsOf s.excludedBeginnings)
      else .error .notText := by
  rw [beginningsFor]
  induction classes with
  | nil => rfl
  | cons c rest ih =>
      rw [List.mapM_cons, List.all_cons]
      cases hexcluded : s.isExcluded c.name with
      | error fault =>
          cases hasBeginning_error hexcluded
          rfl
      | ok excluded =>
          refine Eq.trans ?_ ih
          cases rest.mapM fun c => s.isExcluded c.name <;> rfl

theorem optionsFor_eq_of_perm {classes classes' : List ClassInfo} (s : Settings)
    (hperm : classes.Perm classes') : optionsFor s classes = optionsFor s classes' := by
  rw [optionsFor, optionsFor, beginningsFor_eq, beginningsFor_eq, hperm.all_eq]

/-! ## Analyses of reordered classes -/

theorem wiring_perm {classes classes' : List ClassInfo} (catalog : RoleCatalog)
    (hperm : classes.Perm classes') (hnodup : (classes.map ClassInfo.name).Nodup) :
    (catalog.wiring classes).Perm (catalog.wiring classes') := by
  have hnodup' : (classes'.map ClassInfo.name).Nodup := (hperm.map _).nodup hnodup
  have hentries : (catalog.roleClasses classes).entries.Perm (catalog.roleClasses classes').entries := by
    rw [catalog.roleClasses_entries hnodup, catalog.roleClasses_entries hnodup']
    exact (hperm.filter _).map _
  have hcontains : (catalog.roleClasses classes).contains = (catalog.roleClasses classes').contains := by
    funext name
    rw [Bool.eq_iff_iff, Table.contains_iff, Table.contains_iff, (hentries.map Prod.fst).mem_iff]
  rw [RoleCatalog.wiring, RoleCatalog.wiring, hcontains]
  exact hentries.filterMap _

/-- Two analyses that differ in the order of what follows the records. -/
structure Reorders (a a' : Analysis) : Prop where
  classes : a.classes.Perm a'.classes
  diagnostics : a.diagnostics.Perm a'.diagnostics
  dependencies : a.dependencies = a'.dependencies
  packages : a.packages = a'.packages
  metrics : a.metrics = a'.metrics
  calls : a.calls = a'.calls
  entryPoints : a.entryPoints.Perm a'.entryPoints
  components : a.components.Perm a'.components
  entities : a.entities.Perm a'.entities
  repositories : a.repositories.Perm a'.repositories
  configurations : a.configurations.Perm a'.configurations
  beans : a.beans.Perm a'.beans
  wiring : a.wiring.Perm a'.wiring
  endpoints : a.endpoints.Perm a'.endpoints

theorem reorders_ofMerged (options : Options) (merged merged' : Merged)
    (hclasses : merged.classes.Perm merged'.classes)
    (hdiagnostics : merged.diagnostics.Perm merged'.diagnostics)
    (hnodup : (merged.classes.map ClassInfo.name).Nodup) :
    Reorders (.ofMerged options merged) (.ofMerged options merged') := by
  have hgraph := Graph.DependencyGraph.build_eq_of_perm hclasses hnodup options.beginnings
  exact {
    classes := hclasses
    diagnostics := hdiagnostics
    dependencies := hgraph
    packages := congrArg Graph.DependencyGraph.packageGraph hgraph
    metrics := congrArg Graph.DependencyGraph.metrics hgraph
    calls := Graph.CallGraph.build_eq_of_perm hclasses
    entryPoints := (hclasses.flatMap_right _).filter _
    components := hclasses.filterMap _
    entities := (hclasses.filter _).map _
    repositories := hclasses.filterMap _
    configurations := (hclasses.filter _).map _
    beans := (hclasses.filter _).flatMap_right _
    wiring := wiring_perm options.catalog hclasses hnodup
    endpoints := (hclasses.filter _).flatMap_right _ }

/-- The flow of reordered classes differs in the order of transformations only, and is found with
the same notices and faults. -/
theorem runFlow_eq_of_perm {a a' : Analysis} (s : Settings) (depth : Setting)
    (hperm : a.classes.Perm a'.classes) :
    runFlow s depth a' = (fun flow => { flow with transformations := Flow.transformations a'.classes }) <$>
      runFlow s depth a := by
  have hchains := Flow.callChains_eq_of_perm hperm
  simp only [runFlow, Analysis.flow, hchains, map_bind, map_pure,
    Flow.analyzeFlow_eq_of_perm hperm]

/-- Two outcomes with the same fault, or with results that are related. -/
inductive Alike {ε α β : Type} (R : α → β → Prop) : Except ε α → Except ε β → Prop where
  | fault (e : ε) : Alike R (.error e) (.error e)
  | result {a : α} {b : β} : R a b → Alike R (.ok a) (.ok b)

/-- Two data flows that differ in the order of transformations only. -/
structure SameFlow (flow flow' : DataFlow) : Prop where
  producers : flow.producers = flow'.producers
  consumers : flow.consumers = flow'.consumers
  chains : flow.chains = flow'.chains
  paths : flow.paths = flow'.paths
  transformations : flow.transformations.Perm flow'.transformations
  diagrams : ∀ maxEdges, Flow.diagram flow maxEdges = Flow.diagram flow' maxEdges

theorem alike_runFlow {a a' : Analysis} (s : Settings) (depth : Setting)
    (hperm : a.classes.Perm a'.classes) :
    (runFlow s depth a).results.2 = (runFlow s depth a').results.2 ∧
      Alike SameFlow (runFlow s depth a).results.1 (runFlow s depth a').results.1 := by
  have hresults : (runFlow s depth a').results = _ :=
    congrArg Noted.results (runFlow_eq_of_perm s depth hperm) |>.trans (Noted.results_map _ _)
  rw [hresults]
  refine ⟨rfl, ?_⟩
  cases hflow : (runFlow s depth a).results.1 with
  | error fault => exact .fault fault
  | ok flow =>
      refine .result ⟨rfl, rfl, rfl, rfl, ?_, fun _ => rfl⟩
      obtain ⟨limits, rfl⟩ := eq_flow_of_runFlow hflow
      exact hperm.flatMap_right _

/-- **Graphs do not depend on the order of records.** Let no two records decode to one name, and let
there be no limit of time. For the records in any other order a run has the same fault, or the same
graphs and figures together with the same classes, diagnostics and findings in another order; and
the search for data flow gives the same notices and the same flow, with the same diagrams. -/
theorem run_perm {s : Settings} (htimeout : s.timeout = .absent) {records records' : List LabelledRecord}
    (hdistinct : Distinct s.includePrivate.isYes records) (hperm : records.Perm records') :
    Alike (fun a a' => Reorders a a' ∧ ∀ depth,
        (runFlow s depth a).results.2 = (runFlow s depth a').results.2 ∧
        Alike SameFlow (runFlow s depth a).results.1 (runFlow s depth a').results.1)
      (run s records).results.1 (run s records').results.1 ∧
    (s.Typed → ∃ a, (run s records).results.1 = .ok a) ∧
    (s.TypedLimits → ∀ a, ∃ flow, (runFlow s .absent a).results.1 = .ok flow) := by
  refine ⟨?_, fun hs => exists_run hs htimeout records, fun hs => exists_runFlow hs⟩
  -- workers are judged by the number of records, which stays the same
  have hlength := hperm.length_eq
  cases hread : readsAtOnce s.workers records.length with
  | error fault =>
      have hread' := hread
      rw [hlength] at hread'
      rw [run_results_of_refused hread, run_results_of_refused hread']
      exact .fault _
  | ok atOnce =>
      have hread' := hread
      rw [hlength] at hread'
      have hclasses := hperm.filterMap (decoded? s.includePrivate.isYes)
      have hnodup : ((records.filterMap (decoded? s.includePrivate.isYes)).map ClassInfo.name).Nodup := by
        rw [List.map_filterMap]
        exact hdistinct
      rw [run_results_of_read htimeout hread, run_results_of_read htimeout hread',
        merge_of_distinct hdistinct, merge_of_distinct (hdistinct.perm hperm)]
      simp only [optionsFor_eq_of_perm s hclasses]
      cases optionsFor s (records'.filterMap (decoded? s.includePrivate.isYes)) with
      | error fault => exact .fault fault
      | ok options =>
          have hreorders := reorders_ofMerged options ⟨_, _⟩ ⟨_, _⟩ hclasses
            (hperm.filterMap (refusal? s.includePrivate.isYes)) hnodup
          exact .result ⟨hreorders, fun depth => alike_runFlow s depth hreorders.classes⟩

/-- A class with a superclass, each named by one letter. -/
def sampleHeir (own above : UInt8) : ClassFile.Bytes :=
  [0xCA, 0xFE, 0xBA, 0xBE, 0, 0, 0, 61, 0, 5, 1, 0, 1, own, 7, 0, 1, 1, 0, 1, above, 7, 0, 3,
    0, 0x21, 0, 2, 0, 4, 0, 0, 0, 0, 0, 0, 0, 0]

/-- Two classes that extend each other, and a record that is none. -/
def sampleLoop : List LabelledRecord :=
  [⟨"a", sampleHeir 0x41 0x42⟩, ⟨"b", sampleHeir 0x42 0x41⟩, ⟨"c", []⟩]

theorem run_perm_sample :
    Distinct true sampleLoop ∧ ∃ a a', (run (.default none) sampleLoop).results.1 = .ok a ∧
      (run (.default none) sampleLoop.reverse).results.1 = .ok a' ∧ Reorders a a' := by
  have hdistinct : Distinct true sampleLoop := by decide
  have htyped : (Settings.default none).Typed :=
    ⟨⟨_, rfl⟩, by simp [Settings.default], by rintro e ⟨⟩⟩
  obtain ⟨halike, hreturns, -⟩ := run_perm (s := .default none) rfl hdistinct
    (List.reverse_perm sampleLoop).symm
  obtain ⟨a, ha⟩ := hreturns htyped
  rw [ha] at halike ⊢
  cases halike with
  | result h => exact ⟨hdistinct, a, _, rfl, rfl, h.1⟩

end ClassAtlas.Batch
