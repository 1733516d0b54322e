import Mathlib.Data.List.Basic
import Mathlib.Logic.Relation
import ClassAtlas.Graph.Cycles
import ClassAtlas.Proofs.Order.Ascending

/-!
# Mutually reachable nodes

An edge runs between two nodes, and reachability is its reflexive and
transitive closure. `IsCycle` says what a group of mutually reachable nodes is,
and `groupOf` lists the group of a node by comparing reachability both ways.
-/

namespace ClassAtlas.Graph

open Std (HashMap)
open Relation (ReflTransGen)

/-! ## Edges -/

namespace Adjacency

variable {g : Adjacency} {u v w : String}

/-- An edge: `w` is listed at the node `v` and is a node itself. -/
def Edge (g : Adjacency) (v w : String) : Prop :=
  ∃ targets, List.lookup v g = some targets ∧ w ∈ targets ∧ w ∈ g.nodes

/-- `w` can be reached from `v` along edges. -/
def Reach (g : Adjacency) (v w : String) : Prop := ReflTransGen g.Edge v w

/-- Each can be reached from the other. -/
def Mutual (g : Adjacency) (v w : String) : Prop := g.Reach v w ∧ g.Reach w v

theorem Mutual.symm (h : g.Mutual v w) : g.Mutual w v := ⟨h.2, h.1⟩

theorem Mutual.trans (h : g.Mutual u v) (h' : g.Mutual v w) : g.Mutual u w :=
  ⟨h.1.trans h'.1, h'.2.trans h.2⟩

theorem Edge.reach (h : g.Edge v w) : g.Reach v w := .single h

/-- Where each node is listed once with its targets, a node is looked up at its targets. -/
theorem lookup_map_eq_some_iff {nodes : List String} {targets : String → List String}
    {found : List String} :
    List.lookup v (nodes.map fun u => (u, targets u)) = some found ↔
      v ∈ nodes ∧ targets v = found := by
  by_cases hv : v ∈ nodes
  · rw [List.lookup_graph targets hv, Option.some_inj, and_iff_right hv]
  · have hnone : List.lookup v (nodes.map fun u => (u, targets u)) = none := by
      rw [List.lookup_eq_none_iff]
      intro entry hentry
      obtain ⟨u, hu, rfl⟩ := List.mem_map.mp hentry
      rw [bne_iff_ne]
      rintro rfl
      exact hv hu
    simp [hnone, hv]

/-- What is put into the table is kept at its first place. -/
theorem getElem?_foldl_insertIfNew (es : Adjacency) (m : HashMap String (List String))
    (v : String) :
    (es.foldl (fun m e => m.insertIfNew e.1 e.2) m)[v]? = m[v]?.or (List.lookup v es) := by
  induction es generalizing m with
  | nil => simp
  | cons e rest ih =>
      obtain ⟨u, targets⟩ := e
      rw [List.foldl_cons, ih, HashMap.getElem?_insertIfNew, List.lookup_cons]
      by_cases hu : u = v
      · subst hu
        by_cases hmem : u ∈ m
        · simp [hmem]
        · simp [hmem]
      · have hne : (v == u) = false := beq_false_of_ne (Ne.symm hu)
        simp [hu, hne]

theorem getElem?_table (g : Adjacency) (v : String) : g.table[v]? = List.lookup v g := by
  rw [table, getElem?_foldl_insertIfNew]
  simp

theorem mem_table : v ∈ g.table ↔ v ∈ g.nodes := by
  rw [← HashMap.isSome_getElem?_iff_mem, getElem?_table, List.lookup_isSome_iff]
  simp [nodes]

/-- The table lists the edges, together with successors that are no nodes. -/
theorem edge_iff_mem_table : g.Edge v w ↔ w ∈ g.table.getD v [] ∧ w ∈ g.table := by
  rw [HashMap.getD_eq_getD_getElem?, getElem?_table, mem_table, Edge]
  cases List.lookup v g with
  | none => simp
  | some targets => simp

end Adjacency

/-! ## Groups -/

/-- A class of mutual reachability with at least two members, in ascending order. -/
structure IsCycle (g : Adjacency) (group : List String) : Prop where
  ascending : StrictlyAscending group
  several : 2 ≤ group.length
  members : ∀ v ∈ group, ∀ w, w ∈ group ↔ w ∈ g.nodes ∧ g.Mutual v w

open Classical in
/-- The nodes that can be reached from `v` and from which `v` can be reached. -/
noncomputable def groupOf (g : Adjacency) (v : String) : List String :=
  (ascending g.nodes).filter fun w => g.Mutual v w

section Groups

variable {g : Adjacency} {group : List String} {v w : String}

theorem mem_groupOf_iff : w ∈ groupOf g v ↔ w ∈ g.nodes ∧ g.Mutual v w := by
  simp [groupOf, mem_ascending]

theorem strictlyAscending_groupOf : StrictlyAscending (groupOf g v) :=
  (strictlyAscending_ascending g.nodes).filter _

theorem IsCycle.exists_mem (h : IsCycle g group) : ∃ v, v ∈ group :=
  List.exists_mem_of_length_pos (Nat.lt_of_lt_of_le Nat.zero_lt_two h.several)

/-- A group is that of each of its members. -/
theorem IsCycle.eq_groupOf (h : IsCycle g group) (hv : v ∈ group) : group = groupOf g v := by
  refine h.ascending.eq_of_mem_iff strictlyAscending_groupOf fun w => ?_
  rw [h.members v hv w, mem_groupOf_iff]

/-- Two nodes that can be reached from each other lie in a group. -/
theorem isCycle_groupOf (h : 2 ≤ (groupOf g v).length) : IsCycle g (groupOf g v) where
  ascending := strictlyAscending_groupOf
  several := h
  members := by
    intro u hu w
    have hmutual := (mem_groupOf_iff.mp hu).2
    rw [mem_groupOf_iff]
    refine and_congr_right fun _ => ⟨fun hw => hmutual.symm.trans hw, fun hw => hmutual.trans hw⟩

/-- A class is given by any one of its members. -/
theorem isCycle_iff_exists_member :
    IsCycle g group ↔ StrictlyAscending group ∧ 2 ≤ group.length ∧
      ∃ v ∈ g.nodes, ∀ w, w ∈ group ↔ w ∈ g.nodes ∧ g.Mutual v w := by
  constructor
  · intro h
    obtain ⟨v, hv⟩ := h.exists_mem
    exact ⟨h.ascending, h.several, v, ((h.members v hv v).mp hv).1, h.members v hv⟩
  · rintro ⟨hascending, hseveral, v, _, hmembers⟩
    have heq : group = groupOf g v :=
      hascending.eq_of_mem_iff strictlyAscending_groupOf fun w =>
        (hmembers w).trans mem_groupOf_iff.symm
    rw [heq] at hseveral ⊢
    exact isCycle_groupOf hseveral

/-- A group has two different members. -/
theorem IsCycle.exists_ne (h : IsCycle g group) : ∃ v ∈ group, ∃ w ∈ group, v ≠ w := by
  obtain ⟨v, rest, rfl⟩ :=
    List.exists_cons_of_length_pos (Nat.lt_of_lt_of_le Nat.zero_lt_two h.several)
  have hseveral := h.several
  rw [List.length_cons] at hseveral
  obtain ⟨w, hw⟩ := List.exists_mem_of_length_pos (show 0 < rest.length by omega)
  refine ⟨v, List.mem_cons_self, w, List.mem_cons_of_mem v hw, ?_⟩
  rintro rfl
  exact (List.nodup_cons.mp h.ascending.nodup).1 hw

end Groups

end ClassAtlas.Graph
