import Mathlib.Data.List.Chain
import ClassAtlas.Flow.Basic
import ClassAtlas.Proofs.Flow.Chain
import ClassAtlas.Proofs.Graph.References

/-!
# What the data flow refers to

Along each call chain every method calls the next. Producers, consumers
and transformations are declared methods, and so are the ends of paths.
-/

namespace ClassAtlas.Flow

open ClassAtlas.Graph (CallGraph Neighbours)

/-! ## Call chains -/

/-- Each method of a chain calls the next. -/
def Linked (callees : String → List String) (chain : List String) : Prop :=
  chain.IsChain fun m m' => m' ∈ callees m

theorem Linked.callee {callees : String → List String} {chain : List String}
    (h : Linked callees chain) : ∀ pair ∈ chain.zip chain.tail, pair.2 ∈ callees pair.1 := by
  induction chain with
  | nil => exact List.forall_mem_nil _
  | cons m rest ih =>
      cases rest with
      | nil => exact List.forall_mem_nil _
      | cons m' rest =>
          obtain ⟨hcall, hrest⟩ := List.isChain_cons_cons.mp h
          exact List.forall_mem_cons.mpr ⟨hcall, ih hrest⟩

/-- Every method of a chain but the last calls another one. -/
theorem Linked.exists_callee {callees : String → List String} {chain : List String}
    (h : Linked callees chain) : ∀ m ∈ chain.dropLast, ∃ m', m' ∈ callees m := by
  induction chain with
  | nil => exact List.forall_mem_nil _
  | cons m rest ih =>
      cases rest with
      | nil => exact List.forall_mem_nil _
      | cons m' rest =>
          obtain ⟨hcall, hrest⟩ := List.isChain_cons_cons.mp h
          rw [List.dropLast_cons_cons]
          exact List.forall_mem_cons.mpr ⟨⟨m', hcall⟩, ih hrest⟩

/-- **Every call chain follows calls**, wherever the search is stopped. -/
theorem linked_of_mem_callChains {classes : List ClassInfo} {limits : ChainLimits}
    {entryPoints : Option (List String)} {chain : CallChain}
    (h : chain ∈ (callChains classes limits entryPoints).chains) :
    Linked (CallGraph.build classes).callees chain.methods := by
  have hmethods : chain.methods ∈
      (callChains classes limits entryPoints).chains.map CallChain.methods := List.mem_map_of_mem h
  rw [methods_callChains] at hmethods
  have hfound := mem_of_mem_cut (mem_sorted.mp hmethods)
  cases hallowed : limits.depth.any (· < 1) with
  | true =>
      rw [chainsInOrder, hallowed, if_pos rfl] at hfound
      cases hfound
  | false =>
      have hlinked := ((mem_chainsInOrder_iff hallowed).mp hfound).2.linked
      exact hlinked.imp fun m m' hcalls => CallGraph.mem_callees_iff.mpr hcalls

/-! ## Methods by type -/

section Classes

variable {classes : List ClassInfo} {types : MethodInfo → List String}

theorem mem_methods_of_mem_groupIds {e : String × List String} {id : String}
    (he : e ∈ groupIds (typedIds classes types)) (hid : id ∈ e.2) :
    id ∈ (CallGraph.build classes).methods := by
  have hpair := (Neighbours.of_mem_ofPairs he).2 id hid
  have htyped := (List.mergeSort_perm _ _).mem_iff.mp (mem_squeeze.mp hpair)
  obtain ⟨c, hc, htyped⟩ := List.mem_flatMap.mp htyped
  obtain ⟨m, hm, htyped⟩ := List.mem_flatMap.mp htyped
  obtain ⟨type, -, hids⟩ := List.mem_map.mp htyped
  rw [← (Prod.mk.inj hids).2]
  exact CallGraph.methodId_mem hc (List.mem_filter.mp hm).1

theorem ends_of_mem_joinPaths {producers consumers : Neighbours} {p : FlowPath}
    (h : p ∈ joinPaths producers consumers) :
    (∃ e ∈ producers, p.source ∈ e.2) ∧ ∃ e ∈ consumers, p.target ∈ e.2 := by
  obtain ⟨e, he, hp⟩ := List.mem_flatMap.mp (mem_sorted.mp h)
  obtain ⟨source, hsource, hp⟩ := List.mem_flatMap.mp hp
  obtain ⟨target, htarget, rfl⟩ := List.mem_map.mp hp
  obtain ⟨ids, hids, hmem⟩ := Neighbours.exists_mem_of_mem_of (List.mem_filter.mp htarget).1
  exact ⟨⟨e, he, hsource⟩, ⟨_, hids, hmem⟩⟩

theorem mem_methods_of_mem_transformations {t : Transformation}
    (h : t ∈ transformations classes) : t.method ∈ (CallGraph.build classes).methods := by
  obtain ⟨c, hc, ht⟩ := List.mem_flatMap.mp h
  obtain ⟨m, hm, ht⟩ := List.mem_filterMap.mp ht
  unfold transformationOf? at ht
  dsimp only at ht
  split at ht
  · cases ht
    exact CallGraph.methodId_mem hc hm
  · cases ht

end Classes

end ClassAtlas.Flow
