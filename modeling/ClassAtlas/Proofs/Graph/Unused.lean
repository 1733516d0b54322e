import ClassAtlas.Proofs.Graph.Call
import ClassAtlas.Proofs.Names

/-!
# Methods that nothing calls

Methods are known by ids, in which class and method name are joined by a `#`. An
id is looked up as a whole to find out who calls it, and cut at its first `#` to
find out what the method is called. Both go by the right method where no class
name holds a `#`, whatever stands in the names of methods.
-/

namespace ClassAtlas.Graph.CallGraph

/-- Whether a method is hidden is told by its own name; a `$` in the class name does not count. -/
theorem isHidden_methodId {owner name : String} (h : '#' ∉ owner.toList) :
    isHidden (methodId owner name) = true ↔ '<' ∈ name.toList ∨ '$' ∈ name.toList := by
  rw [isHidden, splitFirst_methodId h, Bool.or_eq_true, List.contains_iff_mem,
    List.contains_iff_mem]

/-! ## Calls of a method -/

/-- No method of any class holds a call of the method of that class and name. -/
def Uncalled (classes : List ClassInfo) (owner name : String) : Prop :=
  ∀ c ∈ classes, ∀ m ∈ c.methods, ∀ call ∈ m.calls, ¬ (call.owner = owner ∧ call.name = name)

section Calls

variable {classes : List ClassInfo} {id owner name : String}

theorem callers_eq_nil_iff : (build classes).callers id = [] ↔ ∀ caller, ¬ Calls classes caller id := by
  rw [List.eq_nil_iff_forall_not_mem]
  exact forall_congr' fun caller => not_congr mem_callers_iff

/-- A method has no callers exactly if it is not called. -/
theorem callers_methodId_eq_nil_iff
    (howners : ∀ c ∈ classes, ∀ m ∈ c.methods, ∀ call ∈ m.calls, '#' ∉ call.owner.toList)
    (howner : '#' ∉ owner.toList) :
    (build classes).callers (methodId owner name) = [] ↔ Uncalled classes owner name := by
  rw [callers_eq_nil_iff]
  constructor
  · rintro hnone c hc m hm call hcall ⟨rfl, rfl⟩
    exact hnone (c.methodId m) ⟨c, hc, m, hm, call, hcall, rfl, rfl⟩
  · rintro huncalled caller ⟨c, hc, m, hm, call, hcall, -, hcallee⟩
    have hsame := (methodId_inj (howners c hc m hm call hcall) howner).mp hcallee
    exact huncalled c hc m hm call hcall hsame

theorem mem_unused_iff : id ∈ (build classes).unused ↔
    (∃ c ∈ classes, ∃ m ∈ c.methods, c.methodId m = id) ∧ (build classes).callers id = [] ∧
      ¬ isHidden id = true := by
  rw [unused, List.mem_filter, Bool.and_eq_true, List.isEmpty_iff, Bool.not_eq_true',
    ← Bool.not_eq_true, mem_methods_iff]

end Calls

/-- **Unused methods are those that nothing calls.** Where no class name and no owner of a call
holds a `#`, the ids of unused methods are listed in ascending order, each once: the methods that
the classes declare, that have neither `<` nor `$` in their names, and that no method of any class
calls by class and name. -/
theorem unused_lists_uncalled (classes : List ClassInfo)
    (hnames : ∀ c ∈ classes, '#' ∉ c.name.toList)
    (howners : ∀ c ∈ classes, ∀ m ∈ c.methods, ∀ call ∈ m.calls, '#' ∉ call.owner.toList) :
    StrictlyAscending (build classes).unused ∧
      ∀ id, id ∈ (build classes).unused ↔
        ∃ c ∈ classes, ∃ m ∈ c.methods, c.name ++ "#" ++ m.name = id ∧
          ('<' ∉ m.name.toList ∧ '$' ∉ m.name.toList) ∧
          ∀ c' ∈ classes, ∀ m' ∈ c'.methods, ∀ call ∈ m'.calls,
            ¬ (call.owner = c.name ∧ call.name = m.name) := by
  refine ⟨(strictlyAscending_ascending _).filter _, fun id => ?_⟩
  rw [mem_unused_iff]
  -- an id may be that of several methods, all of one class name and one method name
  constructor
  · rintro ⟨⟨c, hc, m, hm, rfl⟩, hcallers, hhidden⟩
    rw [ClassInfo.methodId, callers_methodId_eq_nil_iff howners (hnames c hc)] at hcallers
    rw [ClassInfo.methodId, isHidden_methodId (hnames c hc), not_or] at hhidden
    exact ⟨c, hc, m, hm, rfl, hhidden, hcallers⟩
  · rintro ⟨c, hc, m, hm, rfl, hvisible, huncalled⟩
    refine ⟨⟨c, hc, m, hm, rfl⟩, ?_, ?_⟩
    · exact (callers_methodId_eq_nil_iff howners (hnames c hc)).mpr huncalled
    · exact fun hhidden => not_or.mpr hvisible ((isHidden_methodId (hnames c hc)).mp hhidden)

/-! ## A sample -/

def sampleMethod (name : String) (calls : List MethodCall) : MethodInfo where
  name := name
  returnType := "void"
  parameters := []
  modifiers := ["public"]
  annotations := []
  calls := calls
  isStatic := false
  isAbstract := false
  descriptor := "()V"
  exceptions := []
  annotationValues := ∅

/-- A class inside another one. It has a constructor, a method that calls another, and a method
that was generated. -/
def sampleLine : ClassInfo where
  name := "shop.Cart$Line"
  simpleName := "Cart$Line"
  packageName := "shop"
  kind := .ordinary
  superclass := none
  interfaces := []
  annotations := []
  modifiers := []
  fields := []
  methods := [sampleMethod "<init>" [], sampleMethod "total" [⟨"shop.Cart$Line", "price", "()I", none⟩],
    sampleMethod "price" [], sampleMethod "lambda$total$0" []]
  isAbstract := false
  sourceFile := none
  major := 61
  minor := 0
  annotationValues := ∅

theorem unused_lists_uncalled_sample :
    (∀ c ∈ [sampleLine], '#' ∉ c.name.toList) ∧
      (∀ c ∈ [sampleLine], ∀ m ∈ c.methods, ∀ call ∈ m.calls, '#' ∉ call.owner.toList) ∧
      (build [sampleLine]).unused = ["shop.Cart$Line#total"] := by
  have hnames : ∀ c ∈ [sampleLine], '#' ∉ c.name.toList := by simp [sampleLine]
  have howners : ∀ c ∈ [sampleLine], ∀ m ∈ c.methods, ∀ call ∈ m.calls, '#' ∉ call.owner.toList := by
    simp [sampleLine, sampleMethod]
  obtain ⟨hascending, hmem⟩ := unused_lists_uncalled [sampleLine] hnames howners
  refine ⟨hnames, howners, hascending.eq_of_mem_iff (List.pairwise_singleton _ _) fun id => ?_⟩
  rw [hmem]
  simp [sampleLine, sampleMethod, eq_comm]

end ClassAtlas.Graph.CallGraph
