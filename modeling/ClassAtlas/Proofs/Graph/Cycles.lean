import Mathlib.Data.List.Perm.Subperm
import ClassAtlas.Proofs.Graph.Traversal

/-!
# Groups of mutually reachable nodes

What the classes of mutual reachability with two or more members have to do with
each other: no node lies in two of them, and where reachability is kept by a map
of nodes, groups go into groups.
-/

namespace ClassAtlas.Graph

open Relation (ReflTransGen)

variable {g : Adjacency} {group : List String}

/-- **Reachability takes groups into groups.** A map of nodes along which reachability is kept takes
all members of a group into one group, unless it takes them all to one node. -/
theorem existsUnique_image {g' : Adjacency} {f : String → String}
    (hnodes : ∀ v ∈ g.nodes, f v ∈ g'.nodes) (hreach : ∀ v w, g.Reach v w → g'.Reach (f v) (f w))
    (h : group ∈ findCycles g) (hapart : ∃ v ∈ group, ∃ w ∈ group, f v ≠ f w) :
    ∃! larger, larger ∈ findCycles g' ∧ ∀ v ∈ group, f v ∈ larger := by
  rw [mem_findCycles_iff] at h
  obtain ⟨v, hv, w, hw, hne⟩ := hapart
  have himage : ∀ u ∈ group, f u ∈ groupOf g' (f v) := by
    intro u hu
    obtain ⟨hunode, hmutual⟩ := (h.members v hv u).mp hu
    exact mem_groupOf_iff.mpr
      ⟨hnodes u hunode, hreach v u hmutual.1, hreach u v hmutual.2⟩
  have hpair : [f v, f w] ⊆ groupOf g' (f v) := by
    simp [himage v hv, himage w hw]
  have hseveral : 2 ≤ (groupOf g' (f v)).length :=
    (List.subperm_of_subset (by simpa using hne) hpair).length_le
  refine ⟨groupOf g' (f v), ⟨mem_findCycles_iff.mpr (isCycle_groupOf hseveral), himage⟩, ?_⟩
  rintro other ⟨hother, himage'⟩
  exact (mem_findCycles_iff.mp hother).eq_groupOf (himage' v hv)

/-- **More nodes and edges only join groups.** -/
theorem existsUnique_larger {g' : Adjacency} (hnodes : ∀ v ∈ g.nodes, v ∈ g'.nodes)
    (hedges : ∀ v w, g.Edge v w → g'.Edge v w) (h : group ∈ findCycles g) :
    ∃! larger, larger ∈ findCycles g' ∧ group ⊆ larger :=
  existsUnique_image (f := id) hnodes (Relation.ReflTransGen.mono hedges) h
    (mem_findCycles_iff.mp h).exists_ne

/-- **The groups are the strongly connected components of two or more nodes.** A list is one of
them exactly if it is the ascending listing of a class of mutual reachability with at least two
nodes. The groups are in ascending order themselves, so that none comes twice, and no node lies in
two of them. -/
theorem findCycles_components (g : Adjacency) :
    (∀ group, group ∈ findCycles g ↔
      StrictlyAscending group ∧ 2 ≤ group.length ∧
        ∃ v ∈ g.nodes, ∀ w, w ∈ group ↔
          w ∈ g.nodes ∧ ReflTransGen g.Edge v w ∧ ReflTransGen g.Edge w v) ∧
    StrictlyAscending (findCycles g) ∧
    (findCycles g).Nodup ∧
    (∀ group ∈ findCycles g, ∀ group' ∈ findCycles g, ∀ v ∈ group, v ∈ group' → group = group') := by
  refine ⟨fun group => ?_, strictlyAscending_findCycles g,
    (strictlyAscending_findCycles g).nodup, ?_⟩
  · rw [mem_findCycles_iff, isCycle_iff_exists_member]
    rfl
  · intro group hgroup group' hgroup' v hv hv'
    have heq := (mem_findCycles_iff.mp hgroup).eq_groupOf hv
    have heq' := (mem_findCycles_iff.mp hgroup').eq_groupOf hv'
    exact heq.trans heq'.symm

end ClassAtlas.Graph
