import ClassAtlas.Proofs.Graph.Dependency

/-!
# The graph of packages

A package depends on another one if a class of it does. Dependencies inside a
package are left out, so a path of classes becomes a path of packages that stays
where it is for some of its steps, and a cycle of classes may close up into a
single package. One dependency is followed first, then a path of them; groups
come from paths, by what is known of groups under any map that keeps paths.

Main statement: `packageGraph_projects`.
-/

namespace ClassAtlas.Graph.DependencyGraph

open Relation (ReflTransGen)

variable {beginnings : List String} {classes : List ClassInfo} {p q v w : String}

/-! ## Packages and what they list -/

/-- The packages on which classes of `p` depend, other than `p` itself. -/
def packagesListed (g : DependencyGraph) (p : String) : List String :=
  ascending ((((g.edges.map fun e => (packageOf e.source, packageOf e.target)).filter
    fun ends => ends.1 ≠ ends.2).filter fun ends => ends.1 = p).map Prod.snd)

theorem packageGraph_eq (g : DependencyGraph) :
    g.packageGraph = (ascending (g.nodes.map packageOf)).map fun p => (p, g.packagesListed p) := rfl

theorem nodes_packageGraph (g : DependencyGraph) :
    Adjacency.nodes g.packageGraph = ascending (g.nodes.map packageOf) := by
  rw [packageGraph_eq, Adjacency.nodes, List.map_map]
  exact List.map_id _

theorem mem_nodes_packageGraph_iff {g : DependencyGraph} :
    p ∈ Adjacency.nodes g.packageGraph ↔ ∃ v ∈ g.nodes, packageOf v = p := by
  rw [nodes_packageGraph, mem_ascending, List.mem_map]

/-- A dependency between classes of two packages. -/
def Crosses (g : DependencyGraph) (p q : String) : Prop :=
  p ≠ q ∧ ∃ v w, g.DependsOn v w ∧ packageOf v = p ∧ packageOf w = q

theorem mem_packagesListed_iff {g : DependencyGraph} : q ∈ g.packagesListed p ↔ g.Crosses p q := by
  simp only [packagesListed, mem_ascending, List.mem_map, List.mem_filter, decide_eq_true_eq]
  constructor
  · rintro ⟨_, ⟨⟨⟨e, he, rfl⟩, hne⟩, rfl⟩, rfl⟩
    exact ⟨hne, e.source, e.target, ⟨e.reason, he⟩, rfl, rfl⟩
  · rintro ⟨hne, v, w, ⟨reason, he⟩, rfl, rfl⟩
    exact ⟨_, ⟨⟨⟨_, he, rfl⟩, hne⟩, rfl⟩, rfl⟩

theorem mem_nodes_of_dependsOn (h : (build beginnings classes).DependsOn v w) :
    v ∈ (build beginnings classes).nodes ∧ w ∈ (build beginnings classes).nodes := by
  obtain ⟨reason, he⟩ := h
  exact ends_of_mem_edges he

theorem lookup_packageGraph_iff :
    (∃ targets, List.lookup p (build beginnings classes).packageGraph = some targets ∧
      q ∈ targets) ↔ (build beginnings classes).Crosses p q := by
  rw [packageGraph_eq]
  constructor
  · rintro ⟨targets, hfound, hq⟩
    obtain ⟨-, rfl⟩ := Adjacency.lookup_map_eq_some_iff.mp hfound
    exact mem_packagesListed_iff.mp hq
  · rintro ⟨hne, v, w, hdepends, rfl, hw⟩
    have hp : packageOf v ∈ ascending ((build beginnings classes).nodes.map packageOf) :=
      mem_ascending.mpr (List.mem_map_of_mem (mem_nodes_of_dependsOn hdepends).1)
    exact ⟨_, Adjacency.lookup_map_eq_some_iff.mpr ⟨hp, rfl⟩,
      mem_packagesListed_iff.mpr ⟨hne, v, w, hdepends, rfl, hw⟩⟩

/-- What a package lists is a package. -/
theorem edge_packageGraph_iff :
    Adjacency.Edge (build beginnings classes).packageGraph p q ↔
      (build beginnings classes).Crosses p q := by
  rw [← lookup_packageGraph_iff]
  constructor
  · rintro ⟨targets, hfound, hq, -⟩
    exact ⟨targets, hfound, hq⟩
  · rintro ⟨targets, hfound, hq⟩
    obtain ⟨-, v, w, hdepends, -, rfl⟩ := lookup_packageGraph_iff.mp ⟨targets, hfound, hq⟩
    exact ⟨targets, hfound, hq,
      mem_nodes_packageGraph_iff.mpr ⟨w, (mem_nodes_of_dependsOn hdepends).2, rfl⟩⟩

/-! ## Paths and groups -/

/-- One dependency leads to a package that is listed, or stays inside the package. -/
theorem reach_packageGraph_of_dependsOn (h : (build beginnings classes).DependsOn v w) :
    Adjacency.Reach (build beginnings classes).packageGraph (packageOf v) (packageOf w) := by
  by_cases hsame : packageOf v = packageOf w
  · rw [hsame]
    exact .refl
  · exact .single (edge_packageGraph_iff.mpr ⟨hsame, v, w, h, rfl, rfl⟩)

theorem reach_packageGraph
    (h : Adjacency.Reach (build beginnings classes).adjacency v w) :
    Adjacency.Reach (build beginnings classes).packageGraph (packageOf v) (packageOf w) := by
  rw [reach_adjacency_iff] at h
  induction h with
  | refl => exact .refl
  | tail _ hlast ih => exact ih.trans (reach_packageGraph_of_dependsOn hlast)

/-- **The graph of packages is the graph of classes seen from further away.** Its keys are the
packages of the nodes, in ascending order. A package lists another one exactly if a class of the
first depends on a class of the second. A class that can be reached from another one lies in a
package that can be reached from the other's. The packages of a cycle of classes, where there are
two or more of them, lie in one cycle of packages. -/
theorem packageGraph_projects (beginnings : List String) (classes : List ClassInfo) :
    (StrictlyAscending (Adjacency.nodes (build beginnings classes).packageGraph) ∧
      ∀ p, p ∈ Adjacency.nodes (build beginnings classes).packageGraph ↔
        ∃ v ∈ (build beginnings classes).nodes, packageOf v = p) ∧
    (∀ p q,
      (∃ targets, List.lookup p (build beginnings classes).packageGraph = some targets ∧
        q ∈ targets) ↔
      p ≠ q ∧ ∃ v w, (build beginnings classes).DependsOn v w ∧ packageOf v = p ∧
        packageOf w = q) ∧
    (∀ s t, Adjacency.Reach (build beginnings classes).adjacency s t →
      Adjacency.Reach (build beginnings classes).packageGraph (packageOf s) (packageOf t)) ∧
    (∀ group ∈ (build beginnings classes).cycles,
      (∃ v ∈ group, ∃ w ∈ group, packageOf v ≠ packageOf w) →
      ∃! packages, packages ∈ findCycles (build beginnings classes).packageGraph ∧
        ∀ v ∈ group, packageOf v ∈ packages) := by
  refine ⟨⟨?_, fun p => mem_nodes_packageGraph_iff⟩, fun p q => lookup_packageGraph_iff,
    fun s t => reach_packageGraph, fun group hgroup hapart => ?_⟩
  · rw [nodes_packageGraph]
    exact strictlyAscending_ascending _
  · refine existsUnique_image ?_ (fun _ _ => reach_packageGraph) hgroup hapart
    intro v hv
    rw [nodes_adjacency] at hv
    exact mem_nodes_packageGraph_iff.mpr ⟨v, hv, rfl⟩

/-! ## A sample -/

/-- A class that does nothing but to implement an interface. -/
def sampleClass (package simpleName interface : String) : ClassInfo where
  name := package ++ "." ++ simpleName
  simpleName := simpleName
  packageName := package
  kind := .ordinary
  superclass := none
  interfaces := [interface]
  annotations := []
  modifiers := []
  fields := []
  methods := []
  isAbstract := false
  sourceFile := none
  major := 61
  minor := 0
  annotationValues := ∅

/-- A ring of three classes, two of them in one package. -/
def sampleShop : List ClassInfo :=
  [sampleClass "shop" "Cart" "stock.Item", sampleClass "shop" "Order" "shop.Cart",
    sampleClass "stock" "Item" "shop.Order"]

theorem mem_nodes_sampleShop :
    v ∈ (build [] sampleShop).nodes ↔ v ∈ ["shop.Cart", "shop.Order", "stock.Item"] := by
  rw [mem_nodes_iff]
  simp [sampleShop, sampleClass, Avoids, eq_comm]

theorem dependsOn_sampleShop (package simpleName interface : String)
    (h : sampleClass package simpleName interface ∈ sampleShop)
    (hplain : normalizeType interface = interface)
    (hv : package ++ "." ++ simpleName ∈ ["shop.Cart", "shop.Order", "stock.Item"])
    (hw : interface ∈ ["shop.Cart", "shop.Order", "stock.Item"]) :
    (build [] sampleShop).DependsOn (package ++ "." ++ simpleName) interface := by
  refine ⟨.interface, mem_edges_iff.mpr ⟨⟨mem_nodes_sampleShop.mpr hv,
    mem_nodes_sampleShop.mpr hw⟩, _, h, rfl, interface, ?_, hplain⟩⟩
  exact mem_references_iff.mpr (.interface List.mem_cons_self)

theorem mem_cycles_sampleShop :
    ["shop.Cart", "shop.Order", "stock.Item"] ∈ (build [] sampleShop).cycles := by
  have hcart : (build [] sampleShop).DependsOn "shop.Cart" "stock.Item" :=
    dependsOn_sampleShop "shop" "Cart" "stock.Item" (by simp [sampleShop]) (by decide) (by decide)
      (by decide)
  have horder : (build [] sampleShop).DependsOn "shop.Order" "shop.Cart" :=
    dependsOn_sampleShop "shop" "Order" "shop.Cart" (by simp [sampleShop]) (by decide) (by decide)
      (by decide)
  have hitem : (build [] sampleShop).DependsOn "stock.Item" "shop.Order" :=
    dependsOn_sampleShop "stock" "Item" "shop.Order" (by simp [sampleShop]) (by decide) (by decide)
      (by decide)
  have hsorted : StrictlyAscending ["shop.Cart", "shop.Order", "stock.Item"] := by
    unfold StrictlyAscending
    decide
  refine mem_cycles_iff.mpr ⟨hsorted, by decide, "shop.Cart", by simp [mem_nodes_sampleShop],
    fun w => ?_⟩
  rw [mem_nodes_sampleShop, iff_self_and]
  intro hw
  simp only [List.mem_cons, List.not_mem_nil, or_false] at hw
  rcases hw with rfl | rfl | rfl
  · exact ⟨.refl, .refl⟩
  · exact ⟨.tail (.single hcart) hitem, .single horder⟩
  · exact ⟨.single hcart, .tail (.single hitem) horder⟩

theorem packageGraph_projects_sample :
    ["shop.Cart", "shop.Order", "stock.Item"] ∈ (build [] sampleShop).cycles ∧
      ∃! packages, packages ∈ findCycles (build [] sampleShop).packageGraph ∧
        ∀ v ∈ ["shop.Cart", "shop.Order", "stock.Item"], packageOf v ∈ packages := by
  refine ⟨mem_cycles_sampleShop,
    (packageGraph_projects [] sampleShop).2.2.2 _ mem_cycles_sampleShop ?_⟩
  exact ⟨"shop.Cart", by simp, "stock.Item", by simp, by decide⟩

end ClassAtlas.Graph.DependencyGraph
