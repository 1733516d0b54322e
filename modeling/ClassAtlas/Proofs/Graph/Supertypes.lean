import ClassAtlas.Proofs.Graph.Inheritance
import ClassAtlas.Proofs.Graph.Packages

/-!
# Depths and supertype edges

The depths of a dependency graph are worked out from the superclass names, not
from its edges. Where names are plain, so that a name is its own type, a
superclass that is a node is also the target of an edge, and the links that are
climbed are the supertype edges. Then what is known of depths along links holds
along edges.

A class has a depth for a reason, and the reasons lead up, one by one, to a root
or into a loop. So does the way along the edges.

Main statement: `depths_follow_supertypes`.
-/

namespace ClassAtlas.Graph

open Relation (ReflTransGen)

/-! ## Ways up -/

/-- Going up from `v` stops after `k` steps. -/
inductive Climbs (up : String → String → Prop) : String → Nat → Prop where
  | top {v : String} : (∀ w, ¬ up v w) → Climbs up v 0
  | step {v w : String} {k : Nat} : up v w → Climbs up w k → Climbs up v (k + 1)

/-- Going up from one member to the next leads round all of them. -/
structure Ring (up : String → String → Prop) (loop : List String) : Prop where
  nodup : loop.Nodup
  round : ∃ first rest, loop = first :: rest ∧ (loop ++ [first]).IsChain up

namespace Inheritance

variable {classes : Superclasses} {done loop : List String} {known : Depths} {v : String}
  {k depth : Nat}

theorem Loop.ring (h : Loop classes loop) : Ring (Link classes) loop := ⟨h.nodup, h.round⟩

theorem Loop.not_climbs (h : Loop classes loop) (hv : v ∈ loop) : ¬ Climbs (Link classes) v k := by
  intro hclimbs
  induction hclimbs with
  | top hroot =>
      obtain ⟨p, -, hlink⟩ := h.exists_next hv
      exact hroot p hlink
  | step hlink _ ih => exact ih (h.mem_of_link hv hlink)

/-- Where the way up stops, its length is the depth. -/
theorem Settled.get?_of_climbs (h : Settled classes done known)
    (hclimbs : Climbs (Link classes) v k) (hv : v ∈ known.keys) : known.get? v = some k := by
  induction hclimbs with
  | @top v hroot =>
      obtain ⟨depth, hdepth⟩ := Table.mem_keys_iff.mp hv
      cases h.grounded v depth hdepth with
      | root => exact hdepth
      | step hlink => exact absurd hlink (hroot _)
      | opened => exact hdepth
  | @step v w k hlink hclimbs ih =>
      have hw := ih (h.closed v w hlink hv)
      obtain ⟨depth, hdepth⟩ := Table.mem_keys_iff.mp hv
      cases h.grounded v depth hdepth with
      | root hroot => exact absurd hlink (hroot w)
      | step hlink' hp =>
          rw [← hlink.unique hlink'] at hp
          cases hw.symm.trans hp
          exact hdepth
      | opened hloop hopens => exact absurd (.step hlink hclimbs) (hloop.not_climbs hopens.1)

/-- The way up from a class stops, or leads into a loop. -/
theorem Settled.climbs_or_loop (h : Settled classes done known)
    (hdepth : known.get? v = some depth) :
    (∃ k, Climbs (Link classes) v k) ∨
      ∃ loop, Loop classes loop ∧ ∃ x ∈ loop, ReflTransGen (Link classes) v x := by
  induction depth generalizing v with
  | zero =>
      cases h.grounded v 0 hdepth with
      | root hroot => exact .inl ⟨0, .top hroot⟩
      | opened hloop hopens => exact .inr ⟨_, hloop, v, hopens.1, .refl⟩
  | succ depth ih =>
      cases h.grounded v _ hdepth with
      | step hlink hp =>
          rcases ih hp with ⟨k, hk⟩ | ⟨loop, hloop, x, hx, hway⟩
          · exact .inl ⟨k + 1, .step hlink hk⟩
          · exact .inr ⟨loop, hloop, x, hx, .head hlink hway⟩

/-- From any member of a loop all of them are above. -/
theorem Loop.reflTransGen (h : Loop classes loop) (hv : v ∈ loop) :
    ∀ x ∈ loop, ReflTransGen (Link classes) v x :=
  h.induction (ReflTransGen (Link classes) v) (fun _ _ hlink hway => hway.tail hlink) hv .refl

end Inheritance

/-! ## Links as edges -/

namespace DependencyGraph

open ClassAtlas.Graph.Inheritance (Link Loop settled_inheritanceDepths)

/-- There is a supertype edge. -/
def Extends (g : DependencyGraph) (v w : String) : Prop := ⟨v, w, .supertype⟩ ∈ g.edges

theorem dependsOn_of_extends {g : DependencyGraph} {v w : String} (h : g.Extends v w) :
    g.DependsOn v w :=
  ⟨.supertype, h⟩

/-- The superclass of each node. -/
def hierarchy (beginnings : List String) (classes : List ClassInfo) : Superclasses :=
  Table.ofList ((build beginnings classes).nodes.map fun name => (name, superclassOf classes name))

variable {beginnings : List String} {classes : List ClassInfo} {v w : String} {c : ClassInfo}

theorem depths_eq (beginnings : List String) (classes : List ClassInfo) :
    (build beginnings classes).depths =
      sortedBy Prod.fst (inheritanceDepths (hierarchy beginnings classes)).entries := rfl

theorem lookup_depths (beginnings : List String) (classes : List ClassInfo) (v : String) :
    List.lookup v (build beginnings classes).depths =
      (inheritanceDepths (hierarchy beginnings classes)).get? v := by
  rw [depths_eq]
  exact Table.lookup_of_perm (List.mergeSort_perm _ _) v

theorem entries_hierarchy (beginnings : List String) (classes : List ClassInfo) :
    (hierarchy beginnings classes).entries =
      (build beginnings classes).nodes.map fun name => (name, superclassOf classes name) := by
  apply Table.entries_ofList
  rw [List.map_map]
  exact (List.map_id' (build beginnings classes).nodes).symm ▸ strictlyAscending_nodes.nodup

theorem keys_hierarchy (beginnings : List String) (classes : List ClassInfo) :
    (hierarchy beginnings classes).keys = (build beginnings classes).nodes := by
  rw [Table.keys, entries_hierarchy, List.map_map]
  exact List.map_id' _

/-- **Every node has a depth, and nothing else has one.** -/
theorem map_fst_depths :
    (build beginnings classes).depths.map Prod.fst = (build beginnings classes).nodes := by
  have hsettled := settled_inheritanceDepths (hierarchy beginnings classes)
  rw [depths_eq, map_sortedBy]
  refine (strictlyAscending_sorted (Table.nodup _)).eq_of_mem_iff strictlyAscending_nodes fun v => ?_
  rw [mem_sorted, ← keys_hierarchy]
  exact ⟨hsettled.keys v, hsettled.covers v⟩

theorem get?_hierarchy (hv : v ∈ (build beginnings classes).nodes) :
    (hierarchy beginnings classes).get? v = some (superclassOf classes v) := by
  refine Table.get?_of_mem (e := (v, superclassOf classes v)) ?_
  rw [entries_hierarchy]
  exact List.mem_map_of_mem hv

theorem superclassOf_of_mem (hnames : (classes.map (·.name)).Nodup) (hc : c ∈ classes) :
    superclassOf classes c.name = c.superclass := by
  cases hfind : classes.reverse.find? fun d => d.name = c.name with
  | none =>
      have hnone := List.find?_eq_none.mp hfind c (List.mem_reverse.mpr hc)
      simp at hnone
  | some d =>
      have hd : d ∈ classes := List.mem_reverse.mp (List.mem_of_find?_eq_some hfind)
      have hname : d.name = c.name := by simpa using List.find?_some hfind
      rw [superclassOf, hfind, List.inj_on_of_nodup_map hnames hd hc hname]
      rfl

section Plain

variable (hnames : (classes.map (·.name)).Nodup) (hnonempty : ∀ c ∈ classes, c.name ≠ "")
  (hplain : ∀ c ∈ classes, ∀ s, c.superclass = some s → normalizeType s = s)

include hnonempty hplain

theorem extends_iff : (build beginnings classes).Extends v w ↔
    (v ∈ (build beginnings classes).nodes ∧ w ∈ (build beginnings classes).nodes) ∧
      ∃ c ∈ classes, c.name = v ∧ c.superclass = some w := by
  refine mem_edges_iff.trans (and_congr_right fun hends => ?_)
  constructor
  · rintro ⟨c, hc, hname, type, href, htype⟩
    cases mem_references_iff.mp href with
    | supertype hsuper hne =>
        rw [hplain c hc type hsuper] at htype
        exact ⟨c, hc, hname, hsuper.trans (congrArg some htype)⟩
  · rintro ⟨c, hc, hname, hsuper⟩
    -- a superclass that is a node has a name, so it is mentioned
    obtain ⟨⟨d, hd, rfl⟩, -⟩ := mem_nodes_iff.mp hends.2
    exact ⟨c, hc, hname, d.name, mem_references_iff.mpr (.supertype hsuper (hnonempty d hd)),
      hplain c hc _ hsuper⟩

include hnames

/-- **The links of a plain hierarchy are its supertype edges.** -/
theorem link_iff_extends :
    Link (hierarchy beginnings classes) v w ↔ (build beginnings classes).Extends v w := by
  rw [extends_iff hnonempty hplain, Link, keys_hierarchy]
  constructor
  · rintro ⟨hget, hw⟩
    have hv : v ∈ (build beginnings classes).nodes := by
      rw [← keys_hierarchy]
      exact Table.mem_keys_iff.mpr ⟨_, hget⟩
    obtain ⟨⟨c, hc, rfl⟩, -⟩ := mem_nodes_iff.mp hv
    rw [get?_hierarchy hv, superclassOf_of_mem hnames hc] at hget
    exact ⟨⟨hv, hw⟩, c, hc, rfl, Option.some.inj hget⟩
  · rintro ⟨⟨hv, hw⟩, c, hc, rfl, hsuper⟩
    rw [get?_hierarchy hv, superclassOf_of_mem hnames hc, hsuper]
    exact ⟨rfl, hw⟩

theorem link_eq_extends :
    Link (hierarchy beginnings classes) = (build beginnings classes).Extends :=
  funext fun _ => funext fun _ => propext (link_iff_extends hnames hnonempty hplain)

theorem extends_unique {w' : String} (h : (build beginnings classes).Extends v w)
    (h' : (build beginnings classes).Extends v w') : w = w' := by
  rw [← link_eq_extends hnames hnonempty hplain] at h h'
  exact h.unique h'

theorem length_supertype_edges_le (v : String) :
    ((build beginnings classes).edges.filter fun e =>
      e.source = v ∧ e.reason = .supertype).length ≤ 1 := by
  have hnodup := (@strictlyAscending_edges beginnings classes).nodup.filter fun e =>
    e.source = v ∧ e.reason = .supertype
  have htarget : ∀ e ∈ (build beginnings classes).edges.filter fun e =>
      e.source = v ∧ e.reason = .supertype,
      (build beginnings classes).Extends v e.target ∧ e = ⟨v, e.target, .supertype⟩ := by
    rintro ⟨source, target, reason⟩ he
    obtain ⟨hedge, hkind⟩ := List.mem_filter.mp he
    obtain ⟨rfl, rfl⟩ : source = v ∧ reason = .supertype := by simpa using hkind
    exact ⟨hedge, rfl⟩
  -- two of these edges would have different targets
  cases hedges : (build beginnings classes).edges.filter fun e =>
      e.source = v ∧ e.reason = .supertype with
  | nil => exact Nat.zero_le 1
  | cons e rest =>
      cases rest with
      | nil => exact Nat.le_refl 1
      | cons e' rest =>
          rw [hedges] at hnodup htarget
          obtain ⟨hfirst, heq⟩ := htarget e (by simp)
          obtain ⟨hsecond, heq'⟩ := htarget e' (by simp)
          have hsame : e = e' := by
            rw [heq, heq', extends_unique hnames hnonempty hplain hfirst hsecond]
          simp [hsame] at hnodup

end Plain

/-- Nodes that depend on each other lie in one group. -/
theorem exists_cycle_of_reach {loop : List String} (hnodup : loop.Nodup)
    (hseveral : 2 ≤ loop.length)
    (hnodes : ∀ x ∈ loop, x ∈ (build beginnings classes).nodes)
    (hreach : ∀ x ∈ loop, ∀ y ∈ loop, ReflTransGen (build beginnings classes).DependsOn x y) :
    ∃ group ∈ (build beginnings classes).cycles, loop ⊆ group := by
  obtain ⟨v, hv⟩ := List.exists_mem_of_length_pos (Nat.lt_of_lt_of_le Nat.zero_lt_two hseveral)
  have hsub : loop ⊆ groupOf (build beginnings classes).adjacency v := by
    intro x hx
    rw [mem_groupOf_iff, nodes_adjacency, Adjacency.Mutual, reach_adjacency_iff,
      reach_adjacency_iff]
    exact ⟨hnodes x hx, hreach v hv x hx, hreach x hx v hv⟩
  have hlength : 2 ≤ (groupOf (build beginnings classes).adjacency v).length :=
    hseveral.trans (List.subperm_of_subset hnodup hsub).length_le
  exact ⟨_, mem_findCycles_iff.mpr (isCycle_groupOf hlength), hsub⟩

/-- **Depths agree with supertype edges.** Let the names of classes be different from each other and
not empty, and the names of superclasses plain. Then a class has at most one supertype edge. Where
following these edges stops, the depth of the class is their number. Where it does not, it leads
into a loop, and the members of a loop of two or more lie in one group of classes that depend on
each other. -/
theorem depths_follow_supertypes (beginnings : List String) (classes : List ClassInfo)
    (hnames : (classes.map (·.name)).Nodup) (hnonempty : ∀ c ∈ classes, c.name ≠ "")
    (hplain : ∀ c ∈ classes, ∀ s, c.superclass = some s → normalizeType s = s) :
    (∀ v, ((build beginnings classes).edges.filter fun e =>
        e.source = v ∧ e.reason = .supertype).length ≤ 1) ∧
      (∀ v ∈ (build beginnings classes).nodes, ∀ k, Climbs (build beginnings classes).Extends v k →
        List.lookup v (build beginnings classes).depths = some k) ∧
      (∀ v ∈ (build beginnings classes).nodes,
        (∀ k, ¬ Climbs (build beginnings classes).Extends v k) →
        ∃ loop, Ring (build beginnings classes).Extends loop ∧
          (∃ x ∈ loop, ReflTransGen (build beginnings classes).Extends v x) ∧
          (2 ≤ loop.length → ∃ group ∈ (build beginnings classes).cycles, loop ⊆ group)) := by
  have hsettled := settled_inheritanceDepths (hierarchy beginnings classes)
  have hlink : Link (hierarchy beginnings classes) = (build beginnings classes).Extends :=
    link_eq_extends hnames hnonempty hplain
  rw [keys_hierarchy] at hsettled
  refine ⟨length_supertype_edges_le hnames hnonempty hplain, fun v hv k hk => ?_,
    fun v hv hnot => ?_⟩
  · rw [← hlink] at hk
    rw [lookup_depths]
    exact hsettled.get?_of_climbs hk (hsettled.covers v hv)
  · obtain ⟨depth, hdepth⟩ := Table.mem_keys_iff.mp (hsettled.covers v hv)
    rcases hsettled.climbs_or_loop hdepth with ⟨k, hk⟩ | ⟨loop, hloop, x, hx, hway⟩
    · rw [hlink] at hk
      exact absurd hk (hnot k)
    · refine ⟨loop, hlink ▸ hloop.ring, ⟨x, hx, hlink ▸ hway⟩, fun hseveral => ?_⟩
      refine exists_cycle_of_reach hloop.nodup hseveral (fun y hy => ?_) fun y hy z hz => ?_
      · obtain ⟨p, -, hp⟩ := hloop.exists_next hy
        rw [← keys_hierarchy]
        exact hp.mem_keys
      · have hup := hloop.reflTransGen hy z hz
        rw [hlink] at hup
        exact Relation.ReflTransGen.mono (fun _ _ => dependsOn_of_extends) y z hup

/-! ## A class with a superclass, and two that extend each other -/

def sampleSubclass (simpleName superclass : String) : ClassInfo :=
  { sampleClass "zoo" simpleName "java.io.Serializable" with superclass := some superclass }

def sampleZoo : List ClassInfo :=
  [sampleSubclass "Animal" "java.lang.Object", sampleSubclass "Cat" "zoo.Animal",
    sampleSubclass "Head" "zoo.Tail", sampleSubclass "Tail" "zoo.Head"]

theorem plain_sampleZoo : (sampleZoo.map (·.name)).Nodup ∧ (∀ c ∈ sampleZoo, c.name ≠ "") ∧
    ∀ c ∈ sampleZoo, ∀ s, c.superclass = some s → normalizeType s = s := by
  refine ⟨by decide, by decide, ?_⟩
  intro c hc s hs
  simp only [sampleZoo, List.mem_cons, List.not_mem_nil, or_false] at hc
  rcases hc with rfl | rfl | rfl | rfl <;> cases hs <;> decide

theorem mem_nodes_sampleZoo : v ∈ (build [] sampleZoo).nodes ↔
    v ∈ ["zoo.Animal", "zoo.Cat", "zoo.Head", "zoo.Tail"] := by
  rw [mem_nodes_iff]
  simp [sampleZoo, sampleSubclass, sampleClass, Avoids, eq_comm]

theorem extends_sampleZoo_iff : (build [] sampleZoo).Extends v w ↔
    (v, w) ∈ [("zoo.Cat", "zoo.Animal"), ("zoo.Head", "zoo.Tail"), ("zoo.Tail", "zoo.Head")] := by
  rw [extends_iff plain_sampleZoo.2.1 plain_sampleZoo.2.2, mem_nodes_sampleZoo, mem_nodes_sampleZoo]
  constructor
  · rintro ⟨⟨-, hw⟩, c, hc, rfl, hsuper⟩
    simp only [sampleZoo, List.mem_cons, List.not_mem_nil, or_false] at hc
    rcases hc with rfl | rfl | rfl | rfl <;> cases hsuper
    · revert hw
      decide
    all_goals decide
  · intro h
    simp only [List.mem_cons, List.not_mem_nil, or_false, Prod.mk.injEq] at h
    rcases h with ⟨rfl, rfl⟩ | ⟨rfl, rfl⟩ | ⟨rfl, rfl⟩
    · exact ⟨by decide, sampleSubclass "Cat" "zoo.Animal", by simp [sampleZoo], rfl, rfl⟩
    · exact ⟨by decide, sampleSubclass "Head" "zoo.Tail", by simp [sampleZoo], rfl, rfl⟩
    · exact ⟨by decide, sampleSubclass "Tail" "zoo.Head", by simp [sampleZoo], rfl, rfl⟩

theorem climbs_sampleZoo : Climbs (build [] sampleZoo).Extends "zoo.Cat" 1 := by
  refine .step (w := "zoo.Animal") (extends_sampleZoo_iff.mpr (by decide)) (.top fun w h => ?_)
  rw [extends_sampleZoo_iff] at h
  simp at h

theorem not_climbs_sampleZoo {k : Nat} (h : Climbs (build [] sampleZoo).Extends v k) :
    v ∉ ["zoo.Head", "zoo.Tail"] := by
  induction h with
  | top hroot =>
      intro hv
      rcases List.mem_pair.mp hv with rfl | rfl
      · exact hroot "zoo.Tail" (extends_sampleZoo_iff.mpr (by decide))
      · exact hroot "zoo.Head" (extends_sampleZoo_iff.mpr (by decide))
  | step hup _ ih =>
      rw [extends_sampleZoo_iff] at hup
      simp only [List.mem_cons, List.not_mem_nil, or_false, Prod.mk.injEq] at hup
      rcases hup with ⟨rfl, rfl⟩ | ⟨rfl, rfl⟩ | ⟨rfl, rfl⟩
      · decide
      · exact absurd (by decide) ih
      · exact absurd (by decide) ih

/-- The depth of a class with one superclass above it, and the group of two that extend each
other. -/
theorem depths_follow_supertypes_sample :
    List.lookup "zoo.Cat" (build [] sampleZoo).depths = some 1 ∧
      ∃ loop, Ring (build [] sampleZoo).Extends loop ∧
        (∃ x ∈ loop, ReflTransGen (build [] sampleZoo).Extends "zoo.Head" x) ∧
        (2 ≤ loop.length → ∃ group ∈ (build [] sampleZoo).cycles, loop ⊆ group) := by
  obtain ⟨hnames, hnonempty, hplain⟩ := plain_sampleZoo
  obtain ⟨-, hstops, hloops⟩ := depths_follow_supertypes [] sampleZoo hnames hnonempty hplain
  refine ⟨hstops "zoo.Cat" ?_ 1 climbs_sampleZoo, hloops "zoo.Head" ?_ fun k hk => ?_⟩
  · simp [mem_nodes_sampleZoo]
  · simp [mem_nodes_sampleZoo]
  · exact not_climbs_sampleZoo hk (by simp)

end DependencyGraph

end ClassAtlas.Graph
