import ClassAtlas.Batch.Run
import ClassAtlas.Proofs.Batch.Reordering
import ClassAtlas.Proofs.Component.Wiring
import ClassAtlas.Proofs.Flow.References
import ClassAtlas.Proofs.Graph.Supertypes
import ClassAtlas.Proofs.Report.Path
import ClassAtlas.Report.Analysis

/-!
# Integrity of reports

The sections of a report are found by searches of their own, each with its own
conditions, and refer to each other by names and ids. `references` lists which
texts of a report have to be found where; chains of calls and endpoints need a
condition of their own. A report is intact if nothing in it refers to what is
not there.
-/

namespace ClassAtlas.Report

open ClassAtlas.Batch (Analysis Merged Options)
open ClassAtlas.Document (Path Step)
open ClassAtlas.Flow (DataFlow ChainLimits)
open Document.Step

/-! ## What a report has to hold -/

/-- The names of the classes listed in a section. -/
def namesIn (list : String) : Path := [field list, each, field "fullyQualifiedName"]

def nodes : Path := [field "dependencyGraph", field "nodes", each]

def methods : Path := [field "callGraph", field "methods", each]

def entryIds : Path := [field "entryPoints", each]

/-- References between names of classes: each path with the path to what it refers to. -/
def graphReferences : List (Path × Path) := [
  (nodes, namesIn "classes"),
  ([field "dependencyGraph", field "edges", each, field "source"], nodes),
  ([field "dependencyGraph", field "edges", each, field "target"], nodes),
  ([field "dependencyGraph", field "cycles", each, each], nodes),
  ([field "dependencyGraph", field "inheritanceDepth", keys], nodes),
  (nodes, [field "dependencyGraph", field "inheritanceDepth", keys]),
  ([field "metrics", field "orphans", each], nodes),
  ([field "metrics", field "highlyConnected", each], nodes),
  ([field "packageGraph", values, each], [field "packageGraph", keys])]

/-- References from findings about components to classes and to each other. -/
def componentReferences : List (Path × Path) := [
  (namesIn "components", namesIn "classes"),
  (namesIn "entities", namesIn "classes"),
  (namesIn "repositories", namesIn "classes"),
  (namesIn "configurations", namesIn "classes"),
  ([field "componentDependencies", keys], namesIn "components"),
  ([field "componentDependencies", values, each], namesIn "components"),
  ([field "beans", each, field "configurationClass"], namesIn "configurations")]

/-- References to declared methods. -/
def methodReferences : List (Path × Path) := [
  ([field "callGraph", field "calls", keys], methods),
  (entryIds, methods),
  ([field "dataFlow", field "producers", values, each], methods),
  ([field "dataFlow", field "consumers", values, each], methods),
  ([field "dataFlow", field "paths", each, field "source"], methods),
  ([field "dataFlow", field "paths", each, field "target"], methods),
  ([field "dataFlow", field "transformations", each, field "method"], methods)]

def references : List (Path × Path) := graphReferences ++ componentReferences ++ methodReferences

/-- Both paths can be read, and every text along the first is one along the second. -/
def Refers (report : Document) (source target : Path) : Prop :=
  ∃ xs ys, report.texts? source = some xs ∧ report.texts? target = some ys ∧ ∀ x ∈ xs, x ∈ ys

/-- Nothing in a report refers to what is not there. -/
structure Intact (report : Document) : Prop where
  references : ∀ r ∈ references, Refers report r.1 r.2
  endpoints : ∃ owners names ids,
    report.texts? [field "endpoints", each, field "controllerClass"] = some owners ∧
    report.texts? [field "endpoints", each, field "methodName"] = some names ∧
    report.texts? entryIds = some ids ∧ owners.length = names.length ∧
    ∀ id ∈ owners.zipWith methodId names, id ∈ ids
  chains : ∃ (chains : List (List String)) (declared : List String),
    (∀ i, report.texts? [field "dataFlow", field "callChains", item i, field "methods", each] =
      chains[i]?) ∧
    report.texts? methods = some declared ∧
    ∀ chain ∈ chains, (∀ m ∈ chain.dropLast, m ∈ declared) ∧
      ∀ pair ∈ chain.zip chain.tail, ∃ callees,
        report.texts? [field "callGraph", field "calls", field pair.1, each] = some callees ∧
        pair.2 ∈ callees

/-! ## Reading a report -/

/-- What the paths of a report lead to. -/
structure Reads (report : Document) (a : Analysis) (flow : DataFlow) : Prop where
  classes : report.texts? (namesIn "classes") = some (a.classes.map ClassInfo.name)
  nodes : report.texts? nodes = some a.dependencies.nodes
  sources : report.texts? [field "dependencyGraph", field "edges", each, field "source"] =
    some (a.dependencies.edges.map fun e => e.source)
  targets : report.texts? [field "dependencyGraph", field "edges", each, field "target"] =
    some (a.dependencies.edges.map fun e => e.target)
  cycles : report.texts? [field "dependencyGraph", field "cycles", each, each] =
    some a.dependencies.cycles.flatten
  depths : report.texts? [field "dependencyGraph", field "inheritanceDepth", keys] =
    some (a.dependencies.depths.map Prod.fst)
  orphans : report.texts? [field "metrics", field "orphans", each] = some a.metrics.orphans
  highlyConnected : report.texts? [field "metrics", field "highlyConnected", each] =
    some a.metrics.highlyConnected
  packages : report.texts? [field "packageGraph", keys] = some (a.packages.map Prod.fst)
  packageTargets : report.texts? [field "packageGraph", values, each] =
    some (a.packages.flatMap Prod.snd)
  methods : report.texts? methods = some a.calls.methods
  callers : report.texts? [field "callGraph", field "calls", keys] =
    some (a.calls.outgoing.map Prod.fst)
  callees : ∀ caller callee, callee ∈ a.calls.callees caller →
    report.texts? [field "callGraph", field "calls", field caller, each] =
      some (a.calls.callees caller)
  entryPoints : report.texts? entryIds = some (a.entryPoints.map CataloguedMethod.id)
  components : report.texts? (namesIn "components") = some (a.components.map Component.name)
  entities : report.texts? (namesIn "entities") = some (a.entities.map Component.name)
  repositories : report.texts? (namesIn "repositories") = some (a.repositories.map Component.name)
  configurations : report.texts? (namesIn "configurations") =
    some (a.configurations.map Component.name)
  wired : report.texts? [field "componentDependencies", keys] = some (a.wiring.map Prod.fst)
  wires : report.texts? [field "componentDependencies", values, each] =
    some (a.wiring.flatMap Prod.snd)
  beans : report.texts? [field "beans", each, field "configurationClass"] =
    some (a.beans.map Bean.configurationClass)
  controllers : report.texts? [field "endpoints", each, field "controllerClass"] =
    some (a.endpoints.map Endpoint.controller)
  handlers : report.texts? [field "endpoints", each, field "methodName"] =
    some (a.endpoints.map Endpoint.methodName)
  producers : report.texts? [field "dataFlow", field "producers", values, each] =
    some (flow.producers.flatMap Prod.snd)
  consumers : report.texts? [field "dataFlow", field "consumers", values, each] =
    some (flow.consumers.flatMap Prod.snd)
  pathSources : report.texts? [field "dataFlow", field "paths", each, field "source"] =
    some (flow.paths.map fun p => p.source)
  pathTargets : report.texts? [field "dataFlow", field "paths", each, field "target"] =
    some (flow.paths.map fun p => p.target)
  transformations : report.texts? [field "dataFlow", field "transformations", each, field "method"] =
    some (flow.transformations.map fun t => t.method)
  chains : ∀ i, report.texts? [field "dataFlow", field "callChains", item i, field "methods", each] =
    (flow.chains.map fun c => c.methods)[i]?

theorem reads_analysisDocument (a : Analysis) (flow : DataFlow) :
    Reads (analysisDocument a (some flow)) a flow := by
  constructor
  case callees =>
      intro caller callee h
      have hcallees := Document.texts?_field_textTable h
      simpa [analysisDocument, callGraphDocument, Graph.CallGraph.callees] using hcallees
  case chains =>
      intro i
      simp only [analysisDocument, flowDocument, List.getElem?_map]
      cases hchain : flow.chains[i]? <;> simp [hchain]
  all_goals simp [analysisDocument, namesIn, nodes, methods, entryIds, classDocument,
    dependencyDocument, metricsDocument, callGraphDocument, componentDocument, beanDocument,
    endpointDocument, flowDocument]

/-! ## Every reference leads somewhere -/

section Merged

variable {options : Options} {merged : Merged} {limits : ChainLimits} {report : Document}

open ClassAtlas.Graph in
theorem refers_graph {flow : DataFlow} (h : Reads report (.ofMerged options merged) flow) :
    ∀ r ∈ graphReferences, Refers report r.1 r.2 := by
  simp only [graphReferences, List.forall_mem_cons]
  refine ⟨⟨_, _, h.nodes, h.classes, fun name hname => ?_⟩, ⟨_, _, h.sources, h.nodes, ?_⟩,
    ⟨_, _, h.targets, h.nodes, ?_⟩, ⟨_, _, h.cycles, h.nodes, fun name hname => ?_⟩,
    ⟨_, _, h.depths, h.nodes, ?_⟩, ⟨_, _, h.nodes, h.depths, ?_⟩,
    ⟨_, _, h.orphans, h.nodes, fun name hname => ?_⟩,
    ⟨_, _, h.highlyConnected, h.nodes, fun name hname => ?_⟩,
    ⟨_, _, h.packageTargets, h.packages, fun package hpackage => ?_⟩, by simp⟩
  · obtain ⟨c, hc, rfl⟩ := DependencyGraph.exists_class_of_mem_nodes hname
    exact List.mem_map_of_mem hc
  · exact List.forall_mem_map.mpr fun e he => (DependencyGraph.ends_of_mem_edges he).1
  · exact List.forall_mem_map.mpr fun e he => (DependencyGraph.ends_of_mem_edges he).2
  · obtain ⟨group, hgroup, hname⟩ := List.mem_flatten.mp hname
    exact DependencyGraph.mem_nodes_of_mem_cycles hgroup hname
  · exact fun name hname => DependencyGraph.map_fst_depths ▸ hname
  · exact fun name hname => DependencyGraph.map_fst_depths.symm ▸ hname
  · exact (List.mem_filter.mp hname).1
  · exact (List.mem_filter.mp hname).1
  · obtain ⟨e, he, hpackage⟩ := List.mem_flatMap.mp hpackage
    exact DependencyGraph.mem_packages_of_mem_packageGraph he hpackage

theorem refers_component {flow : DataFlow} (hstep : options.catalog.InStep)
    (h : Reads report (.ofMerged options merged) flow) :
    ∀ r ∈ componentReferences, Refers report r.1 r.2 := by
  have hclass : ∀ x : Component, (∃ c ∈ merged.classes, c.name = x.name) →
      x.name ∈ merged.classes.map ClassInfo.name :=
    fun x ⟨c, hc, hname⟩ => hname ▸ List.mem_map_of_mem hc
  simp only [componentReferences, List.forall_mem_cons]
  refine ⟨⟨_, _, h.components, h.classes, ?_⟩, ⟨_, _, h.entities, h.classes, ?_⟩,
    ⟨_, _, h.repositories, h.classes, ?_⟩, ⟨_, _, h.configurations, h.classes, ?_⟩,
    ⟨_, _, h.wired, h.components, ?_⟩, ⟨_, _, h.wires, h.components, fun target htarget => ?_⟩,
    ⟨_, _, h.beans, h.configurations, ?_⟩, by simp⟩
  · exact List.forall_mem_map.mpr fun x hx => hclass x (RoleCatalog.exists_class_of_mem_components hx)
  · exact List.forall_mem_map.mpr fun x hx => hclass x (RoleCatalog.exists_class_of_mem_map_component hx)
  · exact List.forall_mem_map.mpr fun x hx =>
      hclass x (RoleCatalog.exists_class_of_mem_repositories hx)
  · exact List.forall_mem_map.mpr fun x hx => hclass x (RoleCatalog.exists_class_of_mem_map_component hx)
  · exact List.forall_mem_map.mpr fun e he => (RoleCatalog.ends_of_mem_wiring he).1
  · obtain ⟨e, he, htarget⟩ := List.mem_flatMap.mp htarget
    exact (RoleCatalog.ends_of_mem_wiring he).2 target htarget
  · refine List.forall_mem_map.mpr fun b hb => ?_
    obtain ⟨x, hx, hname⟩ := RoleCatalog.exists_configuration_of_mem_beans hstep hb
    exact hname ▸ List.mem_map_of_mem hx

theorem refers_method
    (h : Reads report (.ofMerged options merged) ((Analysis.ofMerged options merged).flow limits).1) :
    ∀ r ∈ methodReferences, Refers report r.1 r.2 := by
  simp only [methodReferences, List.forall_mem_cons]
  refine ⟨⟨_, _, h.callers, h.methods, ?_⟩, ⟨_, _, h.entryPoints, h.methods, ?_⟩,
    ⟨_, _, h.producers, h.methods, fun id hid => ?_⟩, ⟨_, _, h.consumers, h.methods, fun id hid => ?_⟩,
    ⟨_, _, h.pathSources, h.methods, ?_⟩, ⟨_, _, h.pathTargets, h.methods, ?_⟩,
    ⟨_, _, h.transformations, h.methods, ?_⟩, by simp⟩
  · exact List.forall_mem_map.mpr fun e he => Graph.CallGraph.mem_methods_of_mem_outgoing he
  · exact List.forall_mem_map.mpr fun x hx => mem_methods_of_mem_entryPoints hx
  · obtain ⟨e, he, hid⟩ := List.mem_flatMap.mp hid
    exact Flow.mem_methods_of_mem_groupIds he hid
  · obtain ⟨e, he, hid⟩ := List.mem_flatMap.mp hid
    exact Flow.mem_methods_of_mem_groupIds he hid
  · refine List.forall_mem_map.mpr fun p hp => ?_
    obtain ⟨e, he, hsource⟩ := (Flow.ends_of_mem_joinPaths hp).1
    exact Flow.mem_methods_of_mem_groupIds he hsource
  · refine List.forall_mem_map.mpr fun p hp => ?_
    obtain ⟨e, he, htarget⟩ := (Flow.ends_of_mem_joinPaths hp).2
    exact Flow.mem_methods_of_mem_groupIds he htarget
  · exact List.forall_mem_map.mpr fun t ht => Flow.mem_methods_of_mem_transformations ht

/-- The report of classes that have been merged is intact, if the catalog is in step. -/
theorem intact_ofMerged (hstep : options.catalog.InStep)
    (h : Reads report (.ofMerged options merged) ((Analysis.ofMerged options merged).flow limits).1) :
    Intact report where
  references := by
    simp only [references, List.forall_mem_append]
    exact ⟨⟨refers_graph h, refers_component hstep h⟩, refers_method h⟩
  endpoints := by
    refine ⟨_, _, _, h.controllers, h.handlers, h.entryPoints, by simp, fun id hid => ?_⟩
    rw [List.zipWith_map, List.zipWith_self] at hid
    obtain ⟨e, he, rfl⟩ := List.mem_map.mp hid
    exact Endpoint.mem_entryPoints he
  chains := by
    refine ⟨_, _, h.chains, h.methods, List.forall_mem_map.mpr fun c hc => ?_⟩
    have hlinked := Flow.linked_of_mem_callChains hc
    refine ⟨fun m hm => ?_, fun pair hpair => ?_⟩
    · obtain ⟨m', hcall⟩ := hlinked.exists_callee m hm
      exact Graph.CallGraph.mem_methods_of_callees hcall
    · have hcall := hlinked.callee pair hpair
      exact ⟨_, h.callees _ _ hcall, hcall⟩

end Merged

/-! ## Reports of runs -/

section Run

open Batch

theorem inStep_of_extendCatalog {catalog extended : RoleCatalog} {entry : String × List Setting}
    (hstep : catalog.InStep) (h : (extendCatalog catalog entry).results.1 = .ok extended) :
    extended.InStep := by
  obtain ⟨names, -, hextended⟩ := Noted.exists_of_results_bind (fun _ =>
    (Noted.appends_noteAll _).bind fun _ => Noted.appends_pure _) h
  cases hextended
  exact hstep.extend entry.1 names

/-- Settings can only add to the usual catalog, which stays in step. -/
theorem inStep_of_catalogFor {s : Settings} {catalog : RoleCatalog}
    (h : catalogFor s = .ok catalog) : catalog.InStep := by
  suffices hfold : ∀ (entries : List (String × List Setting)) (start : RoleCatalog), start.InStep →
      (entries.foldlM extendCatalog start).results.1 = .ok catalog → catalog.InStep from
    hfold _ _ RoleCatalog.inStep_default h
  intro entries
  induction entries with
  | nil =>
      intro start hstart h
      cases h
      exact hstart
  | cons e rest ih =>
      intro start hstart h
      rw [List.foldlM_cons] at h
      obtain ⟨next, hnext, hrest⟩ :=
        Noted.exists_of_results_bind (fun c => .foldlM appends_extendCatalog rest c) h
      exact ih next (inStep_of_extendCatalog hstart hnext) hrest

/-- **Reports are intact.** Whatever the records and the settings, in the report of a run and of its
data flow every class, node, package, method, component and configuration that a section refers to
is listed in the section it belongs to. Settings of the declared kinds always lead to a report. -/
theorem intact_of_run {s : Settings} (htimeout : s.timeout = .absent) (records : List LabelledRecord) :
    (∀ a depth flow, (run s records).results.1 = .ok a → (runFlow s depth a).results.1 = .ok flow →
      Intact (analysisDocument a (some flow))) ∧
    (s.Typed → s.TypedLimits → ∃ a flow, (run s records).results.1 = .ok a ∧
      (runFlow s .absent a).results.1 = .ok flow) := by
  constructor
  · intro a depth flow hrun hflow
    obtain ⟨options, merged, hcatalog, rfl⟩ := eq_ofMerged_of_run htimeout hrun
    obtain ⟨limits, rfl⟩ := eq_flow_of_runFlow hflow
    exact intact_ofMerged (inStep_of_catalogFor hcatalog) (reads_analysisDocument _ _)
  · intro hs hlimits
    obtain ⟨a, ha⟩ := exists_run hs htimeout records
    obtain ⟨flow, hflow⟩ := exists_runFlow hlimits a
    exact ⟨a, flow, ha, hflow⟩

theorem intact_of_run_sample :
    ∃ a flow, (run (.default none) sampleLoop).results.1 = .ok a ∧
      (runFlow (.default none) .absent a).results.1 = .ok flow ∧
      Intact (analysisDocument a (some flow)) := by
  obtain ⟨hintact, hreturns⟩ := intact_of_run (s := .default none) rfl sampleLoop
  have htyped : (Settings.default none).Typed :=
    ⟨⟨_, rfl⟩, by simp [Settings.default], by rintro e ⟨⟩⟩
  obtain ⟨a, flow, ha, hflow⟩ := hreturns htyped ⟨⟨_, rfl⟩, .inr ⟨_, rfl⟩⟩
  exact ⟨a, flow, ha, hflow, hintact a .absent flow ha hflow⟩

end Run

end ClassAtlas.Report
