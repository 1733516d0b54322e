import ClassAtlas.Graph.Call
import ClassAtlas.Graph.Metrics
import ClassAtlas.Proofs.Graph.Traversal

/-!
# What graphs refer to

Every name in a dependency graph is the name of a node, and every caller in a
call graph is a declared method. Callees may be declared elsewhere.
-/

namespace ClassAtlas.Graph

theorem mem_nodes_of_mem_findCycles {g : Adjacency} {group : List String} {name : String}
    (hgroup : group ∈ findCycles g) (hname : name ∈ group) : name ∈ g.nodes := by
  exact (((mem_findCycles_iff.mp hgroup).members name hname name).mp hname).1

namespace DependencyGraph

variable {beginnings : List String} {classes : List ClassInfo} {name : String}

theorem exists_class_of_mem_nodes (h : name ∈ (build beginnings classes).nodes) :
    ∃ c ∈ classes, c.name = name := by
  have hname := (List.mem_filter.mp (mem_ascending.mp h)).1
  exact List.mem_map.mp hname

theorem ends_of_mem_dependenciesFrom {known : List String} {c : ClassInfo} {e : Dependency}
    (h : e ∈ dependenciesFrom known c) : e.source ∈ known ∧ e.target ∈ known := by
  unfold dependenciesFrom at h
  split at h
  · rename_i hsource
    obtain ⟨⟨type, reason⟩, -, hkept⟩ := List.mem_filterMap.mp h
    dsimp only at hkept
    split at hkept
    · rename_i htarget
      cases hkept
      exact ⟨hsource, htarget⟩
    · cases hkept
  · cases h

theorem ends_of_mem_edges {e : Dependency} (h : e ∈ (build beginnings classes).edges) :
    e.source ∈ (build beginnings classes).nodes ∧ e.target ∈ (build beginnings classes).nodes := by
  obtain ⟨c, -, hc⟩ := List.mem_flatMap.mp (mem_ascending.mp h)
  exact ends_of_mem_dependenciesFrom hc

theorem mem_nodes_of_mem_cycles {group : List String}
    (hgroup : group ∈ (build beginnings classes).cycles) (hname : name ∈ group) :
    name ∈ (build beginnings classes).nodes := by
  have hnode := mem_nodes_of_mem_findCycles hgroup hname
  obtain ⟨e, he, rfl⟩ := List.mem_map.mp hnode
  obtain ⟨node, hmem, rfl⟩ := List.mem_map.mp he
  exact hmem

/-- A package on which another depends has a class of its own in the graph. -/
theorem mem_packages_of_mem_packageGraph {e : String × List String} {package : String}
    (he : e ∈ (build beginnings classes).packageGraph) (hpackage : package ∈ e.2) :
    package ∈ (build beginnings classes).packageGraph.map Prod.fst := by
  obtain ⟨p, -, rfl⟩ := List.mem_map.mp he
  obtain ⟨⟨_, q⟩, hcrossing, rfl⟩ := List.mem_map.mp (mem_ascending.mp hpackage)
  have hends := (List.mem_filter.mp (List.mem_filter.mp hcrossing).1).1
  obtain ⟨d, hd, hends⟩ := List.mem_map.mp hends
  cases hends
  rw [packageGraph, List.map_map]
  refine List.mem_map.mpr ⟨packageOf d.target, mem_ascending.mpr ?_, rfl⟩
  exact List.mem_map_of_mem (ends_of_mem_edges hd).2

end DependencyGraph

namespace Neighbours

/-- What is put together under one first part comes from pairs with it. -/
theorem of_mem_ofPairs {pairs : List (String × String)} {e : String × List String}
    (h : e ∈ ofPairs pairs) : e.2 ≠ [] ∧ ∀ b ∈ e.2, (e.1, b) ∈ pairs := by
  fun_induction ofPairs pairs generalizing e with
  | case1 => cases h
  -- the pair joins the first group of the rest
  | case2 b rest a bs groups hrest ih =>
      rcases List.mem_cons.mp h with rfl | hgroup
      · have hfirst := (ih (e := (a, bs)) (by rw [hrest]; exact List.mem_cons_self)).2
        refine ⟨List.cons_ne_nil b bs, fun x hx => ?_⟩
        rcases List.mem_cons.mp hx with rfl | hx
        · exact List.mem_cons_self
        · exact List.mem_cons_of_mem _ (hfirst x hx)
      · obtain ⟨hne, hmem⟩ := ih (by rw [hrest]; exact List.mem_cons_of_mem _ hgroup)
        exact ⟨hne, fun x hx => List.mem_cons_of_mem _ (hmem x hx)⟩
  -- the pair opens a group of its own, here and where there is no group yet
  | case3 a b rest a' bs groups hrest hne ih =>
      rcases List.mem_cons.mp h with rfl | hgroup
      · refine ⟨List.cons_ne_nil b [], fun x hx => ?_⟩
        rw [List.mem_singleton.mp hx]
        exact List.mem_cons_self
      · obtain ⟨hne, hmem⟩ := ih (by rw [hrest]; exact hgroup)
        exact ⟨hne, fun x hx => List.mem_cons_of_mem _ (hmem x hx)⟩
  | case4 a b rest hrest ih =>
      rw [List.mem_singleton.mp h]
      refine ⟨List.cons_ne_nil b [], fun x hx => ?_⟩
      rw [List.mem_singleton.mp hx]
      exact List.mem_cons_self

theorem exists_mem_of_mem_of {ns : Neighbours} {node b : String} (h : b ∈ ns.of node) :
    ∃ bs, (node, bs) ∈ ns ∧ b ∈ bs := by
  unfold Neighbours.of at h
  cases hfound : ns.find? fun e => e.1 = node with
  | none =>
      rw [hfound] at h
      cases h
  | some e =>
      rw [hfound] at h
      have hkey : e.1 = node := by simpa using List.find?_some hfound
      exact ⟨e.2, hkey ▸ List.mem_of_find?_eq_some hfound, h⟩

end Neighbours

namespace CallGraph

variable {classes : List ClassInfo} {id : String}

theorem mem_methods_iff :
    id ∈ (build classes).methods ↔ ∃ c ∈ classes, ∃ m ∈ c.methods, c.methodId m = id := by
  refine mem_ascending.trans ?_
  simp only [List.mem_flatMap, List.mem_map]

theorem methodId_mem {c : ClassInfo} {m : MethodInfo} (hc : c ∈ classes) (hm : m ∈ c.methods) :
    c.methodId m ∈ (build classes).methods :=
  mem_methods_iff.mpr ⟨c, hc, m, hm, rfl⟩

/-- Only declared methods call. -/
theorem mem_methods_of_mem_outgoing {e : String × List String}
    (h : e ∈ (build classes).outgoing) : e.1 ∈ (build classes).methods := by
  obtain ⟨hne, hcalls⟩ := Neighbours.of_mem_ofPairs h
  obtain ⟨callee, hcallee⟩ := List.exists_mem_of_ne_nil e.2 hne
  have hcall := (List.mergeSort_perm _ _).mem_iff.mp (mem_squeeze.mp (hcalls callee hcallee))
  obtain ⟨c, hc, hcall⟩ := List.mem_flatMap.mp hcall
  obtain ⟨m, hm, hcall⟩ := List.mem_flatMap.mp hcall
  obtain ⟨call, -, hids⟩ := List.mem_map.mp hcall
  rw [← (Prod.mk.inj hids).1]
  exact methodId_mem hc hm

theorem mem_methods_of_callees {callee : String} (h : callee ∈ (build classes).callees id) :
    id ∈ (build classes).methods := by
  obtain ⟨callees, hmem, -⟩ := Neighbours.exists_mem_of_mem_of h
  exact mem_methods_of_mem_outgoing hmem

end CallGraph

end ClassAtlas.Graph
