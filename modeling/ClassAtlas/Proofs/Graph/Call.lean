import Mathlib.Data.List.Perm.Subperm
import Mathlib.Data.Prod.Basic
import ClassAtlas.Proofs.Graph.Neighbours

/-!
# The edges of the call graph

The calls, sorted as pairs, are put together by caller on one side of the graph
and, turned round, by callee on the other. So both sides show the same calls: the
callees of a method are what it calls, and its callers are what calls it. Each
call is counted once on either side, which makes the numbers of callees and the
numbers of callers add up to the same.
-/

namespace ClassAtlas.Graph.CallGraph

/-- Some method known as `caller` holds a call of a method known as `callee`. -/
def Calls (classes : List ClassInfo) (caller callee : String) : Prop :=
  ∃ c ∈ classes, ∃ m ∈ c.methods, ∃ call ∈ m.calls,
    c.methodId m = caller ∧ methodId call.owner call.name = callee

variable {classes : List ClassInfo} {id caller callee : String}

theorem mem_calls_iff : (id, callee) ∈ calls classes ↔ Calls classes id callee := by
  simp only [calls, Calls, List.mem_flatMap, List.mem_map, Prod.mk.injEq]

/-- The calls in order, each once. -/
def edgePairs (classes : List ClassInfo) : List (String × String) :=
  squeeze ((calls classes).mergeSort pairOrder)

/-- The calls are turned round after they have been put in order, and are put in order again. -/
theorem incoming_eq (classes : List ClassInfo) :
    (build classes).incoming =
      Neighbours.ofPairs (Neighbours.arranged ((edgePairs classes).map Prod.swap)) := rfl

/-- **The callees of a method are what it calls.** -/
theorem mem_callees_iff : callee ∈ (build classes).callees id ↔ Calls classes id callee :=
  Neighbours.mem_of_arranged_iff.trans mem_calls_iff

/-- **The callers of a method are what calls it.** -/
theorem mem_callers_iff : caller ∈ (build classes).callers id ↔ Calls classes caller id := by
  rw [callers, incoming_eq, Neighbours.mem_of_arranged_iff, ← mem_calls_iff]
  constructor
  · intro h
    obtain ⟨p, hp, hswap⟩ := List.mem_map.mp h
    rw [← Neighbours.mem_arranged, ← Prod.swap_prod_mk, ← hswap, Prod.swap_swap]
    exact hp
  · intro h
    exact List.mem_map.mpr ⟨(caller, id), Neighbours.mem_arranged.mpr h, rfl⟩

/-- Both ends of a call are nodes. -/
theorem mem_nodes_of_calls (h : Calls classes caller callee) :
    caller ∈ (build classes).nodes ∧ callee ∈ (build classes).nodes := by
  obtain ⟨callees, hcaller, -⟩ := Neighbours.exists_mem_of_mem_of (mem_callees_iff.mpr h)
  obtain ⟨callers, hcallee, -⟩ := Neighbours.exists_mem_of_mem_of (mem_callers_iff.mpr h)
  constructor
  · exact mem_ascending.mpr
      (List.mem_append_left _ (List.mem_append_right _ (List.mem_map_of_mem hcaller)))
  · exact mem_ascending.mpr (List.mem_append_right _ (List.mem_map_of_mem hcallee))

theorem tidy_outgoing (classes : List ClassInfo) : (build classes).outgoing.Tidy :=
  Neighbours.tidy_arranged (calls classes)

theorem tidy_incoming (classes : List ClassInfo) : (build classes).incoming.Tidy :=
  Neighbours.tidy_arranged _

/-! ## Numbers of calls -/

theorem edgeCount_eq (classes : List ClassInfo) :
    (build classes).edgeCount = (edgePairs classes).length :=
  Neighbours.total_length_ofPairs (edgePairs classes)

/-- Turning the calls round loses none and makes none equal. -/
theorem total_incoming (classes : List ClassInfo) :
    total ((build classes).incoming.map fun e => e.2.length) = (edgePairs classes).length := by
  have hnodup : ((edgePairs classes).map Prod.swap).Nodup :=
    (Neighbours.nodup_arranged (calls classes)).map Prod.swap_injective
  rw [incoming_eq, Neighbours.total_length_ofPairs, Neighbours.length_arranged hnodup,
    List.length_map]

/-! ## Rankings -/

/-- More neighbours come first, and of equally many the lesser id. -/
def Ahead (a b : String × Nat) : Prop := b.2 < a.2 ∨ a.2 = b.2 ∧ a.1 < b.1

/-- Every node that has neighbours is listed once, with their number, in order. -/
structure Ranks (neighbours : String → List String) (ranking : List (String × Nat)) : Prop where
  listed : ∀ id count, (id, count) ∈ ranking ↔ count = (neighbours id).length ∧ neighbours id ≠ []
  once : (ranking.map Prod.fst).Nodup
  ordered : ranking.Pairwise Ahead

section Rank

variable {ns : Neighbours} {n : Int}

theorem rank_perm (h : ns.Tidy) (hn : (ns.length : Int) ≤ n) :
    (rank ns n).Perm (ns.map fun e => (e.1, e.2.length)) := by
  have hsorted := List.mergeSort_perm (ns.map fun e => (e.1, e.2.length)) fun a b =>
    b.2 < a.2 || (a.2 == b.2 && a.1 ≤ b.1)
  rw [rank, List.take_of_length_le, List.filter_eq_self.mpr]
  · exact hsorted
  -- every entry has neighbours
  · intro entry hentry
    obtain ⟨e, he, rfl⟩ := List.mem_map.mp (hsorted.mem_iff.mp hentry)
    exact decide_eq_true fun hzero => h.nonempty e he (List.length_eq_zero_iff.mp hzero)
  · rw [List.length_mergeSort, List.length_map]
    omega

/-- The order of sorting, which leaves open how entries of one id stand. -/
theorem pairwise_rank (ns : Neighbours) (n : Int) :
    (rank ns n).Pairwise fun a b => b.2 < a.2 ∨ a.2 = b.2 ∧ a.1 ≤ b.1 := by
  have htrans : ∀ a b c : String × Nat, (b.2 < a.2 || (a.2 == b.2 && a.1 ≤ b.1)) = true →
      (c.2 < b.2 || (b.2 == c.2 && b.1 ≤ c.1)) = true →
      (c.2 < a.2 || (a.2 == c.2 && a.1 ≤ c.1)) = true := by
    intro a b c hab hbc
    simp only [Bool.or_eq_true, Bool.and_eq_true, decide_eq_true_eq, beq_iff_eq] at hab hbc ⊢
    rcases hab with hab | ⟨hab, hle⟩
    · omega
    · rcases hbc with hbc | ⟨hbc, hle'⟩
      · omega
      · exact .inr ⟨hab.trans hbc, String.le_trans hle hle'⟩
  have htotal : ∀ a b : String × Nat, ((b.2 < a.2 || (a.2 == b.2 && a.1 ≤ b.1)) ||
      (a.2 < b.2 || (b.2 == a.2 && b.1 ≤ a.1))) = true := by
    intro a b
    simp only [Bool.or_eq_true, Bool.and_eq_true, decide_eq_true_eq, beq_iff_eq]
    rcases Nat.lt_trichotomy a.2 b.2 with h | h | h
    · exact .inr (.inl h)
    · exact (String.le_total a.1 b.1).imp (fun hle => .inr ⟨h, hle⟩) fun hle => .inr ⟨h.symm, hle⟩
    · exact .inl (.inl h)
  have hsorted := List.pairwise_mergeSort htrans htotal (ns.map fun e => (e.1, e.2.length))
  refine (hsorted.sublist (List.filter_sublist.trans (List.take_sublist n.toNat _))).imp fun h => ?_
  simpa only [Bool.or_eq_true, Bool.and_eq_true, decide_eq_true_eq, beq_iff_eq] using h

theorem ranks_rank (h : ns.Tidy) (hn : (ns.length : Int) ≤ n) : Ranks ns.of (rank ns n) := by
  have hids : ((rank ns n).map Prod.fst).Nodup := by
    refine ((rank_perm h hn).map Prod.fst).nodup_iff.mpr ?_
    rw [List.map_map]
    exact h.keys.nodup
  refine ⟨fun id count => ?_, hids, ?_⟩
  · rw [(rank_perm h hn).mem_iff, List.mem_map]
    constructor
    · rintro ⟨e, he, hentry⟩
      obtain ⟨rfl, rfl⟩ := Prod.mk.inj hentry
      obtain ⟨heq, hne⟩ := h.mem_iff.mp he
      rw [← heq]
      exact ⟨rfl, hne⟩
    · rintro ⟨rfl, hne⟩
      exact ⟨(id, ns.of id), h.mem_iff.mpr ⟨rfl, hne⟩, rfl⟩
  -- two entries have different ids, so that the order of sorting is strict
  · refine (pairwise_rank ns n).imp₂ (fun a b hle hne => ?_) (List.pairwise_map.mp hids)
    refine hle.imp_right fun hsame => ⟨hsame.1, ?_⟩
    exact String.not_le.mp fun hback => hne (String.le_antisymm hsame.2 hback)

theorem total_rank (h : ns.Tidy) (hn : (ns.length : Int) ≤ n) :
    total ((rank ns n).map Prod.snd) = total (ns.map fun e => e.2.length) := by
  rw [total_eq_of_perm ((rank_perm h hn).map Prod.snd), List.map_map]
  rfl

end Rank

/-- A side of the graph has no more entries than the graph has nodes. -/
theorem length_le_nodes {g : CallGraph} {ns : Neighbours} (h : ns.Tidy)
    (hnodes : ∀ id ∈ ns.map Prod.fst, id ∈ g.nodes) : ns.length ≤ g.nodes.length := by
  rw [← List.length_map Prod.fst]
  exact (List.subperm_of_subset h.keys.nodup hnodes).length_le

theorem length_outgoing_le (classes : List ClassInfo) :
    (build classes).outgoing.length ≤ (build classes).nodes.length :=
  length_le_nodes (tidy_outgoing classes) fun _ hid =>
    mem_ascending.mpr (List.mem_append_left _ (List.mem_append_right _ hid))

theorem length_incoming_le (classes : List ClassInfo) :
    (build classes).incoming.length ≤ (build classes).nodes.length :=
  length_le_nodes (tidy_incoming classes) fun _ hid => mem_ascending.mpr (List.mem_append_right _ hid)

/-- **The two sides of the call graph agree.** Callees and callers show exactly the calls of the
classes; the declared methods are listed in ascending order, and only they have callees; no entry
of either side is empty. The numbers of callers and the numbers of callees in full rankings both
add up to the number of edges. -/
theorem build_sides_agree (classes : List ClassInfo) :
    (∀ caller callee,
      (callee ∈ (build classes).callees caller ↔ caller ∈ (build classes).callers callee) ∧
        (caller ∈ (build classes).callers callee ↔ Calls classes caller callee)) ∧
      StrictlyAscending (build classes).methods ∧
      (∀ id, id ∈ (build classes).methods ↔ ∃ c ∈ classes, ∃ m ∈ c.methods, c.methodId m = id) ∧
      (∀ e ∈ (build classes).outgoing, e.1 ∈ (build classes).methods) ∧
      (build classes).outgoing.Tidy ∧ (build classes).incoming.Tidy ∧
      ∀ n : Int, (build classes).nodes.length ≤ n →
        total (((build classes).mostCalled n).map Prod.snd) = (build classes).edgeCount ∧
          total (((build classes).mostComplex n).map Prod.snd) = (build classes).edgeCount ∧
          Ranks (build classes).callers ((build classes).mostCalled n) ∧
          Ranks (build classes).callees ((build classes).mostComplex n) := by
  refine ⟨fun caller callee => ⟨?_, mem_callers_iff⟩, strictlyAscending_ascending _,
    fun id => mem_methods_iff, fun e => mem_methods_of_mem_outgoing, tidy_outgoing classes,
    tidy_incoming classes, fun n hn => ?_⟩
  · rw [mem_callees_iff, mem_callers_iff]
  · have hincoming : ((build classes).incoming.length : Int) ≤ n := by
      have := length_incoming_le classes
      omega
    have houtgoing : ((build classes).outgoing.length : Int) ≤ n := by
      have := length_outgoing_le classes
      omega
    refine ⟨?_, total_rank (tidy_outgoing classes) houtgoing, ranks_rank (tidy_incoming classes) hincoming,
      ranks_rank (tidy_outgoing classes) houtgoing⟩
    rw [mostCalled, total_rank (tidy_incoming classes) hincoming, total_incoming, edgeCount_eq]

end ClassAtlas.Graph.CallGraph
