import Mathlib.Data.List.Nodup
import ClassAtlas.Flow.Diagram
import ClassAtlas.Graph.Metrics
import ClassAtlas.Proofs.Order.Ascending
import ClassAtlas.Proofs.Order.Table

/-!
# Graphs of reordered classes

Names, dependencies and calls are put in ascending order before anything is done
with them that follows an order: the climb to superclasses, the search for
cycles, the search for call chains. So these see the same input for classes in
any order. One look-up is left that depends on it: the superclass of a name is
that of the last class with the name, and no two classes may share one.
-/

namespace ClassAtlas.Graph

/-! ## What is compared by all of its texts -/

theorem Reason.label_injective {a b : Reason} (h : a.label = b.label) : a = b := by
  cases a <;> cases b <;> simp [Reason.label] at h ⊢

instance : Std.TransOrd Dependency :=
  inferInstanceAs (Std.TransCmp (compareLex (compareOn Dependency.source)
    (compareLex (compareOn Dependency.target) (compareOn fun d : Dependency => d.reason.label))))

instance : Std.LawfulEqOrd Dependency where
  eq_of_compare {a b} h := by
    obtain ⟨hsource, hrest⟩ := compareLex_eq_eq.mp h
    obtain ⟨htarget, hlabel⟩ := compareLex_eq_eq.mp hrest
    obtain ⟨source, target, reason⟩ := a
    obtain ⟨source', target', reason'⟩ := b
    cases (Std.LawfulEqCmp.eq_of_compare hsource : source = source')
    cases (Std.LawfulEqCmp.eq_of_compare htarget : target = target')
    cases Reason.label_injective (Std.LawfulEqCmp.eq_of_compare hlabel)
    rfl

instance lawfulEqCmp_pair : Std.LawfulEqCmp
    (compareLex (compareOn (@Prod.fst String String)) (compareOn (@Prod.snd String String))) where
  eq_of_compare {a b} h := by
    obtain ⟨hfst, hsnd⟩ := compareLex_eq_eq.mp h
    exact Prod.ext (Std.LawfulEqCmp.eq_of_compare hfst) (Std.LawfulEqCmp.eq_of_compare hsnd)

theorem mergeSort_pairOrder_eq_of_perm {ps qs : List (String × String)} (h : ps.Perm qs) :
    ps.mergeSort pairOrder = qs.mergeSort pairOrder :=
  @mergeSort_eq_of_perm _ (compareLex (compareOn Prod.fst) (compareOn Prod.snd)) _ _ _ _ h

/-! ## Look-up among classes with different names -/

section Classes

variable {classes classes' : List ClassInfo} (hperm : classes.Perm classes')

include hperm

theorem superclassOf_eq_of_perm (hnodup : (classes.map ClassInfo.name).Nodup) :
    DependencyGraph.superclassOf classes = DependencyGraph.superclassOf classes' := by
  funext name
  have hreverse : classes.reverse.Perm classes'.reverse :=
    (List.reverse_perm classes).trans (hperm.trans (List.reverse_perm classes').symm)
  rw [DependencyGraph.superclassOf, DependencyGraph.superclassOf]
  congr 2
  -- two classes of one name are one class
  refine Table.find?_eq_of_perm hreverse fun a ha b hb hname hname' => ?_
  rw [List.mem_reverse] at ha hb
  simp only [decide_eq_true_eq] at hname hname'
  exact List.inj_on_of_nodup_map hnodup ha hb (hname.trans hname'.symm)

theorem knownNames_eq_of_perm (beginnings : List String) :
    DependencyGraph.knownNames beginnings classes = DependencyGraph.knownNames beginnings classes' :=
  ascending_eq_of_perm ((hperm.map ClassInfo.name).filter _)

/-- **The dependency graph does not depend on the order of classes.** -/
theorem DependencyGraph.build_eq_of_perm (hnodup : (classes.map ClassInfo.name).Nodup)
    (beginnings : List String) :
    DependencyGraph.build beginnings classes = DependencyGraph.build beginnings classes' := by
  have hnodes := knownNames_eq_of_perm hperm beginnings
  have hedges : ∀ known, ascending (classes.flatMap (dependenciesFrom known)) =
      ascending (classes'.flatMap (dependenciesFrom known)) :=
    fun known => ascending_eq_of_perm (hperm.flatMap_right _)
  rw [build, build, hnodes, hedges, superclassOf_eq_of_perm hperm hnodup]

theorem CallGraph.build_eq_of_perm : CallGraph.build classes = CallGraph.build classes' := by
  have hcalls : (calls classes).mergeSort pairOrder = (calls classes').mergeSort pairOrder :=
    mergeSort_pairOrder_eq_of_perm (hperm.flatMap_right _)
  have hmethods : ascending (classes.flatMap fun c => c.methods.map c.methodId) =
      ascending (classes'.flatMap fun c => c.methods.map c.methodId) :=
    ascending_eq_of_perm (hperm.flatMap_right _)
  rw [build, build, hcalls, hmethods]

end Classes

end ClassAtlas.Graph

namespace ClassAtlas.Flow

open ClassAtlas.Graph

variable {classes classes' : List ClassInfo} (hperm : classes.Perm classes')

include hperm

theorem callChains_eq_of_perm (limits : ChainLimits) :
    callChains classes limits = callChains classes' limits := by
  rw [callChains, callChains, CallGraph.build_eq_of_perm hperm]

theorem groupIds_typedIds_eq_of_perm (types : MethodInfo → List String) :
    groupIds (typedIds classes types) = groupIds (typedIds classes' types) := by
  have htyped : (typedIds classes types).Perm (typedIds classes' types) := hperm.flatMap_right _
  rw [groupIds, groupIds, mergeSort_pairOrder_eq_of_perm htyped]

/-- Only the list of transformations follows the order of classes. -/
theorem analyzeFlow_eq_of_perm (chains : List CallChain) :
    analyzeFlow classes' chains =
      { analyzeFlow classes chains with transformations := transformations classes' } := by
  have hproducers : allProducers classes = allProducers classes' :=
    groupIds_typedIds_eq_of_perm hperm _
  have hconsumers : allConsumers classes = allConsumers classes' :=
    groupIds_typedIds_eq_of_perm hperm _
  rw [analyzeFlow, analyzeFlow, hproducers, hconsumers]

end ClassAtlas.Flow
