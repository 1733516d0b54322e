import Mathlib.Algebra.BigOperators.Ring.Finset
import Mathlib.Data.Finset.Prod
import ClassAtlas.Flow.Basic
import ClassAtlas.Proofs.Graph.Neighbours

/-!
# Which data may flow where

The methods that produce or consume a type are found in two ways: in an index
over all classes, which leaves out special methods and methods without a result,
and by a scan for the one type. The index lists what the scan finds.

Paths are the join of the two indexes. Their number is counted type by type: all
pairs of a producer and a consumer, but those of a method with itself.
-/

namespace ClassAtlas.Flow

open ClassAtlas.Graph (Neighbours)

/-! ## Paths are compared by all of their texts -/

instance : Std.TransOrd FlowPath :=
  inferInstanceAs (Std.TransCmp (compareLex (compareOn FlowPath.source)
    (compareLex (compareOn FlowPath.target) (compareOn FlowPath.type))))

instance : Std.LawfulEqOrd FlowPath where
  eq_of_compare {a b} h := by
    obtain ⟨hsource, hrest⟩ := compareLex_eq_eq.mp h
    obtain ⟨htarget, htype⟩ := compareLex_eq_eq.mp hrest
    obtain ⟨source, target, type⟩ := a
    obtain ⟨source', target', type'⟩ := b
    cases (Std.LawfulEqCmp.eq_of_compare hsource : source = source')
    cases (Std.LawfulEqCmp.eq_of_compare htarget : target = target')
    cases (Std.LawfulEqCmp.eq_of_compare htype : type = type')
    rfl

/-! ## Index and scan -/

/-- The classes without their constructors and initializers. -/
def withoutSpecial (classes : List ClassInfo) : List ClassInfo :=
  classes.map fun c => { c with methods := c.methods.filter fun m => !isSpecial m.name }

section Index

variable {classes : List ClassInfo} {types : MethodInfo → List String} {p : MethodInfo → Bool}
  {id type : String}

theorem mem_typedIds_iff : (type, id) ∈ typedIds classes types ↔
    ∃ c ∈ classes, ∃ m ∈ c.methods, isSpecial m.name = false ∧ type ∈ types m ∧ c.methodId m = id := by
  simp [typedIds, and_assoc]

theorem mem_idsWhere_withoutSpecial_iff : id ∈ idsWhere (withoutSpecial classes) p ↔
    ∃ c ∈ classes, ∃ m ∈ c.methods, isSpecial m.name = false ∧ p m = true ∧ c.methodId m = id := by
  simp [idsWhere, mem_distinct, withoutSpecial, ClassInfo.methodId, and_assoc]

/-- Under a type the index lists the methods that a scan for the type finds. -/
theorem mem_groupIds_iff_mem_idsWhere (h : ∀ m, type ∈ types m ↔ p m = true) :
    id ∈ (groupIds (typedIds classes types)).of type ↔ id ∈ idsWhere (withoutSpecial classes) p := by
  rw [groupIds, ← Neighbours.arranged, Neighbours.mem_of_arranged_iff, mem_typedIds_iff,
    mem_idsWhere_withoutSpecial_iff]
  simp only [h]

theorem mem_allProducers_iff (hvoid : type ≠ "void") :
    id ∈ (allProducers classes).of type ↔ id ∈ producersOf (withoutSpecial classes) type := by
  refine mem_groupIds_iff_mem_idsWhere fun m => ?_
  by_cases hm : m.returnType = "void"
  · simp [hm, hvoid.symm]
  · rw [if_neg hm, List.mem_singleton, beq_iff_eq]
    exact eq_comm

theorem mem_allConsumers_iff :
    id ∈ (allConsumers classes).of type ↔ id ∈ consumersOf (withoutSpecial classes) type := by
  refine mem_groupIds_iff_mem_idsWhere fun m => ?_
  simp

end Index

/-! ## Paths -/

section Join

variable {producers consumers : Neighbours}

theorem mem_joinPaths_iff (h : producers.Tidy) {path : FlowPath} :
    path ∈ joinPaths producers consumers ↔
      path.source ∈ producers.of path.type ∧ path.target ∈ consumers.of path.type ∧
        path.source ≠ path.target := by
  rw [joinPaths, mem_sorted, List.mem_flatMap]
  constructor
  · rintro ⟨⟨type, sources⟩, he, hpath⟩
    obtain ⟨source, hsource, hpath⟩ := List.mem_flatMap.mp hpath
    obtain ⟨target, htarget, rfl⟩ := List.mem_map.mp hpath
    obtain ⟨htarget, hne⟩ := List.mem_filter.mp htarget
    have hsources : producers.of type = sources := Neighbours.of_eq_of_mem h.keys he
    exact ⟨hsources ▸ hsource, htarget, of_decide_eq_true hne⟩
  · rintro ⟨hsource, htarget, hne⟩
    obtain ⟨sources, he, hmem⟩ := Neighbours.exists_mem_of_mem_of hsource
    refine ⟨(path.type, sources), he, List.mem_flatMap.mpr ⟨path.source, hmem, ?_⟩⟩
    exact List.mem_map.mpr ⟨path.target, List.mem_filter.mpr ⟨htarget, decide_eq_true hne⟩, rfl⟩

theorem strictlyAscending_joinPaths (h : producers.Tidy)
    (hconsumers : ∀ type, (consumers.of type).Nodup) :
    StrictlyAscending (joinPaths producers consumers) := by
  refine strictlyAscending_sorted (List.nodup_flatMap.mpr ⟨?_, ?_⟩)
  -- paths of one type: by source, and then by target
  · intro e he
    refine List.nodup_flatMap.mpr ⟨fun source _ => ?_, (h.ascending e he).nodup.imp ?_⟩
    · refine ((hconsumers e.1).filter _).map ?_
      intro target target' heq
      exact congrArg FlowPath.target heq
    · intro source source' hne path hpath hpath'
      obtain ⟨target, -, rfl⟩ := List.mem_map.mp hpath
      obtain ⟨target', -, heq⟩ := List.mem_map.mp hpath'
      exact hne (congrArg FlowPath.source heq).symm
  · refine (List.pairwise_map.mp h.keys.nodup).imp ?_
    intro e e' hne path hpath hpath'
    obtain ⟨source, -, hpath⟩ := List.mem_flatMap.mp hpath
    obtain ⟨target, -, rfl⟩ := List.mem_map.mp hpath
    obtain ⟨source', -, hpath'⟩ := List.mem_flatMap.mp hpath'
    obtain ⟨target', -, heq⟩ := List.mem_map.mp hpath'
    exact hne (congrArg FlowPath.type heq).symm

end Join

/-! ## How many paths -/

/-- Of all pairs, those with equal parts are as many as the elements in common. -/
theorem card_filter_ne_add_card_inter (s t : Finset String) :
    ((s ×ˢ t).filter fun p => p.1 ≠ p.2).card + (s ∩ t).card = s.card * t.card := by
  have hdiagonal : ((s ×ˢ t).filter fun p => p.1 = p.2) = (s ∩ t).image fun x => (x, x) := by
    ext ⟨x, y⟩
    simp only [Finset.mem_filter, Finset.mem_product, Finset.mem_image, Finset.mem_inter,
      Prod.mk.injEq]
    constructor
    · rintro ⟨⟨hx, hy⟩, rfl⟩
      exact ⟨x, ⟨hx, hy⟩, rfl, rfl⟩
    · rintro ⟨z, ⟨hs, ht⟩, rfl, rfl⟩
      exact ⟨⟨hs, ht⟩, rfl⟩
  have hcommon : ((s ×ˢ t).filter fun p => p.1 = p.2).card = (s ∩ t).card := by
    rw [hdiagonal]
    exact Finset.card_image_of_injective _ fun x y h => (Prod.mk.inj h).1
  rw [← hcommon, ← Finset.card_product, Nat.add_comm]
  exact Finset.card_filter_add_card_filter_not fun p : String × String => p.1 = p.2

/-- Paths of one type are pairs of different methods. -/
theorem card_filter_type {producers consumers : String → Finset String} {paths : Finset FlowPath}
    (hpaths : ∀ path, path ∈ paths ↔ path.source ∈ producers path.type ∧
      path.target ∈ consumers path.type ∧ path.source ≠ path.target) (type : String) :
    (paths.filter fun path => path.type = type).card =
      ((producers type ×ˢ consumers type).filter fun p => p.1 ≠ p.2).card := by
  have himage : (paths.filter fun path => path.type = type) =
      ((producers type ×ˢ consumers type).filter fun p => p.1 ≠ p.2).image
        fun p => ⟨p.1, p.2, type⟩ := by
    ext path
    simp only [Finset.mem_filter, hpaths, Finset.mem_image, Finset.mem_product]
    constructor
    · rintro ⟨⟨hsource, htarget, hne⟩, rfl⟩
      exact ⟨(path.source, path.target), ⟨⟨hsource, htarget⟩, hne⟩, rfl⟩
    · rintro ⟨p, ⟨⟨hsource, htarget⟩, hne⟩, rfl⟩
      exact ⟨⟨hsource, htarget, hne⟩, rfl⟩
  rw [himage]
  refine Finset.card_image_of_injective _ fun p q h => ?_
  exact Prod.ext (congrArg FlowPath.source h) (congrArg FlowPath.target h)

theorem card_paths {producers consumers : String → Finset String} {paths : Finset FlowPath}
    (hpaths : ∀ path, path ∈ paths ↔ path.source ∈ producers path.type ∧
      path.target ∈ consumers path.type ∧ path.source ≠ path.target) {types : Finset String}
    (htypes : ∀ path ∈ paths, path.type ∈ types) :
    (paths.card : Int) = ∑ type ∈ types, ((producers type).card * (consumers type).card -
      (producers type ∩ consumers type).card : Int) := by
  rw [Finset.card_eq_sum_card_fiberwise htypes, Nat.cast_sum]
  refine Finset.sum_congr rfl fun type _ => ?_
  have hpairs := card_filter_ne_add_card_inter (producers type) (consumers type)
  rw [card_filter_type hpaths, ← Nat.cast_mul, ← hpairs]
  omega

/-! ## The whole flow -/

namespace DataFlow

/-- The methods listed as producers of a type, none if it is not listed. -/
def producerSet (flow : DataFlow) (type : String) : Finset String :=
  (flow.producers.of type).toFinset

/-- The methods listed as consumers of a type, none if it is not listed. -/
def consumerSet (flow : DataFlow) (type : String) : Finset String :=
  (flow.consumers.of type).toFinset

/-- The types that are listed as produced or consumed. -/
def types (flow : DataFlow) : Finset String :=
  (flow.producers.map Prod.fst ++ flow.consumers.map Prod.fst).toFinset

end DataFlow

theorem mem_paths_analyzeFlow_iff {classes : List ClassInfo} {chains : List CallChain}
    {path : FlowPath} : path ∈ (analyzeFlow classes chains).paths ↔
      path.source ∈ (analyzeFlow classes chains).producerSet path.type ∧
        path.target ∈ (analyzeFlow classes chains).consumerSet path.type ∧
        path.source ≠ path.target := by
  rw [DataFlow.producerSet, DataFlow.consumerSet, List.mem_toFinset, List.mem_toFinset]
  exact mem_joinPaths_iff (Neighbours.tidy_arranged _)

theorem type_mem_types {classes : List ClassInfo} {chains : List CallChain} {path : FlowPath}
    (h : path ∈ (analyzeFlow classes chains).paths) :
    path.type ∈ (analyzeFlow classes chains).types := by
  have hsource := List.mem_toFinset.mp (mem_paths_analyzeFlow_iff.mp h).1
  obtain ⟨ids, hids, -⟩ := Neighbours.exists_mem_of_mem_of hsource
  rw [DataFlow.types, List.mem_toFinset, List.mem_append]
  exact .inl (List.mem_map_of_mem hids)

/-- **Listed producers and consumers, scans for a type and paths agree.** A type other than `void`
is listed with the methods that a scan of all but the special methods finds. The paths join every
producer of a type with every other consumer of it, and their number is that of all such pairs. -/
theorem analyzeFlow_agrees (classes : List ClassInfo) (chains : List CallChain) :
    (∀ type, type ≠ "void" → (analyzeFlow classes chains).producerSet type =
        (producersOf (withoutSpecial classes) type).toFinset) ∧
      (∀ type, (analyzeFlow classes chains).consumerSet type =
        (consumersOf (withoutSpecial classes) type).toFinset) ∧
      (∀ e ∈ (analyzeFlow classes chains).producers, StrictlyAscending e.2) ∧
      (∀ e ∈ (analyzeFlow classes chains).consumers, StrictlyAscending e.2) ∧
      StrictlyAscending (analyzeFlow classes chains).paths ∧
      (∀ source target type, ⟨source, target, type⟩ ∈ (analyzeFlow classes chains).paths ↔
        source ∈ (analyzeFlow classes chains).producerSet type ∧
          target ∈ (analyzeFlow classes chains).consumerSet type ∧ source ≠ target) ∧
      ((analyzeFlow classes chains).figures.paths : Int) =
        ∑ type ∈ (analyzeFlow classes chains).types,
          (((analyzeFlow classes chains).producerSet type).card *
              ((analyzeFlow classes chains).consumerSet type).card -
            ((analyzeFlow classes chains).producerSet type ∩
              (analyzeFlow classes chains).consumerSet type).card : Int) := by
  have hpaths : StrictlyAscending (analyzeFlow classes chains).paths :=
    strictlyAscending_joinPaths (Neighbours.tidy_arranged _) fun type =>
      (Neighbours.strictlyAscending_of_arranged _ type).nodup
  refine ⟨fun type hvoid => ?_, fun type => ?_, (Neighbours.tidy_arranged _).ascending,
    (Neighbours.tidy_arranged _).ascending, hpaths, fun _ _ _ => mem_paths_analyzeFlow_iff, ?_⟩
  · ext id
    rw [DataFlow.producerSet, List.mem_toFinset, List.mem_toFinset]
    exact mem_allProducers_iff hvoid
  · ext id
    rw [DataFlow.consumerSet, List.mem_toFinset, List.mem_toFinset]
    exact mem_allConsumers_iff
  · rw [DataFlow.figures, ← List.toFinset_card_of_nodup hpaths.nodup]
    refine card_paths (fun path => ?_) fun path hpath => type_mem_types (List.mem_toFinset.mp hpath)
    rw [List.mem_toFinset]
    exact mem_paths_analyzeFlow_iff

end ClassAtlas.Flow
