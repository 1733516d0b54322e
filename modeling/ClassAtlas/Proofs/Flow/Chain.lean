import Mathlib.Data.List.Chain
import Mathlib.Data.List.Nodup
import ClassAtlas.Proofs.Flow.Search
import ClassAtlas.Proofs.Graph.Call

/-!
# Which call chains are found

A path comes up where one of the callees of its last method is on it, or where
there are none; behind every other callee the search comes upon what begins with
the longer path. So what comes up from a path is what begins with it and cannot
be continued without notice.

Main statement: without a cap the chains are exactly the paths along calls that
begin at a start, repeat no method, and end at the depth limit, at a method that
calls nothing or at one that calls back into the path.
-/

namespace ClassAtlas.Flow

open ClassAtlas.Graph (CallGraph)

variable {callees : String → List String} {path p : List String}

/-! ## What comes up from a path -/

/-- Nothing follows the last method of a path, or something that is on it. -/
def Stuck (callees : String → List String) (last : String) (path : List String) : Prop :=
  callees last = [] ∨ ∃ m ∈ callees last, m ∈ path

theorem mem_offers_iff {new : String → List (List String)} {extended : Bool}
    {pending : List String} :
    p ∈ offers path new extended pending ↔
      (p = path ∧ ((∃ m ∈ pending, m ∈ path) ∨ extended = false ∧ ∀ m ∈ pending, m ∈ path)) ∨
        ∃ m ∈ pending, m ∉ path ∧ p ∈ new m := by
  induction pending generalizing extended with
  | nil => cases extended <;> simp [offers]
  | cons m rest ih =>
      rw [offers]
      by_cases hm : m ∈ path
      · rw [if_pos hm, List.mem_cons, ih]
        simp only [List.mem_cons, exists_eq_or_imp, forall_eq_or_imp, hm, true_and, true_or, and_true,
          not_true_eq_false, false_and, false_or]
        exact or_assoc.symm.trans (or_congr_left (or_iff_left_of_imp And.left))
      · rw [if_neg hm, List.mem_append, ih]
        simp only [List.mem_cons, exists_eq_or_imp, forall_eq_or_imp, hm, false_and, false_or,
          and_false, or_false, Bool.true_eq_false, not_false_eq_true, true_and]
        exact or_left_comm

theorem mem_emits_succ {room : Nat} {last : String} :
    p ∈ emits callees (room + 1) path (callees last) false ↔
      (p = path ∧ Stuck callees last path) ∨
        ∃ m ∈ callees last, m ∉ path ∧ p ∈ emits callees room (path ++ [m]) (callees m) false := by
  rw [emits, mem_offers_iff, Stuck]
  refine or_congr_left (and_congr_right fun _ => ?_)
  cases callees last with
  | nil => simp
  | cons m rest => simp; grind

/-! ## Which chains -/

/-- A path along calls that ends where it cannot be continued without notice. -/
structure IsCallChain (calls : String → String → Prop) (depth : Int) (p : List String) : Prop where
  several : 2 ≤ p.length
  within : p.length ≤ depth
  linked : p.IsChain calls
  nodup : p.Nodup
  ended : p.length = depth ∨ ∃ last ∈ p.getLast?, (∀ m, ¬ calls last m) ∨ ∃ m ∈ p, calls last m

section Paths

variable {last : String} {before : List String} {depth : Int}

theorem stuck_iff : Stuck callees last (before ++ [last]) ↔
    ∃ l ∈ (before ++ [last]).getLast?,
      (∀ m, ¬ m ∈ callees l) ∨ ∃ m ∈ before ++ [last], m ∈ callees l := by
  simp only [List.getLast?_concat, Option.mem_some_iff, exists_eq_left', Stuck,
    List.eq_nil_iff_forall_not_mem]
  exact or_congr_right (exists_congr fun _ => and_comm)

/-- Of a path itself, only whether it may end here is left to ask. -/
theorem isCallChain_iff_stuck (hlinked : (before ++ [last]).IsChain fun m m' => m' ∈ callees m)
    (hnodup : (before ++ [last]).Nodup) (hdepth : (before ++ [last]).length < depth) :
    IsCallChain (fun m m' => m' ∈ callees m) depth (before ++ [last]) ↔
      Stuck callees last (before ++ [last]) ∧ 2 ≤ (before ++ [last]).length := by
  rw [stuck_iff]
  constructor
  · intro h
    exact ⟨h.ended.resolve_left (by omega), h.several⟩
  · rintro ⟨hstuck, hseveral⟩
    exact ⟨hseveral, by omega, hlinked, hnodup, .inr hstuck⟩

/-- A chain that goes on behind a path goes on with a callee that is not on it. -/
theorem IsCallChain.exists_next (h : IsCallChain (fun m m' => m' ∈ callees m) depth p)
    (hbegin : before ++ [last] <+: p) (hne : p ≠ before ++ [last]) :
    ∃ m ∈ callees last, m ∉ before ++ [last] ∧ before ++ [last] ++ [m] <+: p := by
  obtain ⟨rest, rfl⟩ := hbegin
  cases rest with
  | nil => exact absurd (List.append_nil _) hne
  | cons m rest =>
      refine ⟨m, ?_, ?_, ?_⟩
      · exact (List.isChain_append.mp h.linked).2.2 last (by simp) m rfl
      · intro hm
        exact List.disjoint_of_nodup_append h.nodup hm List.mem_cons_self
      · exact ⟨rest, by simp⟩

theorem isChain_concat (hlinked : (before ++ [last]).IsChain fun m m' => m' ∈ callees m) {m : String}
    (hm : m ∈ callees last) : (before ++ [last] ++ [m]).IsChain fun m m' => m' ∈ callees m := by
  refine List.isChain_append.mpr ⟨hlinked, List.isChain_singleton m, ?_⟩
  intro x hx y hy
  rw [List.getLast?_concat, Option.mem_some_iff] at hx
  rw [List.head?_cons, Option.mem_some_iff] at hy
  exact hx ▸ hy ▸ hm

theorem nodup_concat {m : String} (hnodup : path.Nodup) (hnew : m ∉ path) : (path ++ [m]).Nodup := by
  rw [← List.concat_eq_append]
  exact hnodup.concat hnew

/-- The chains that come up from a path are those that begin with it. -/
theorem mem_emits_iff {room : Nat} (hlinked : (before ++ [last]).IsChain fun m m' => m' ∈ callees m)
    (hnodup : (before ++ [last]).Nodup) (hseveral : 2 ≤ p.length) :
    p ∈ emits callees room (before ++ [last]) (callees last) false ↔
      before ++ [last] <+: p ∧
        IsCallChain (fun m m' => m' ∈ callees m) (room + (before ++ [last]).length : Nat) p := by
  induction room generalizing last before with
  | zero =>
      rw [emits, List.mem_singleton]
      constructor
      · rintro rfl
        exact ⟨List.prefix_rfl, hseveral, by omega, hlinked, hnodup, .inl (by omega)⟩
      · rintro ⟨hbegin, hchain⟩
        have hwithin := hchain.within
        exact (hbegin.eq_of_length_le (by omega)).symm
  | succ room ih =>
      have hdepth : ∀ m : String, room + (before ++ [last] ++ [m]).length =
          room + 1 + (before ++ [last]).length := by
        intro m
        rw [List.length_append, List.length_singleton]
        omega
      rw [mem_emits_succ]
      constructor
      · rintro (⟨rfl, hstuck⟩ | ⟨m, hm, hnew, hp⟩)
        · refine ⟨List.prefix_rfl, (isCallChain_iff_stuck hlinked hnodup ?_).mpr ⟨hstuck, hseveral⟩⟩
          omega
        · rw [ih (isChain_concat hlinked hm) (nodup_concat hnodup hnew), hdepth] at hp
          exact ⟨(List.prefix_append _ [m]).trans hp.1, hp.2⟩
      · rintro ⟨hbegin, hchain⟩
        by_cases hp : p = before ++ [last]
        · subst hp
          exact .inl ⟨rfl, ((isCallChain_iff_stuck hlinked hnodup (by omega)).mp hchain).1⟩
        · obtain ⟨m, hm, hnew, hlonger⟩ := hchain.exists_next hbegin hp
          refine .inr ⟨m, hm, hnew, ?_⟩
          rw [ih (isChain_concat hlinked hm) (nodup_concat hnodup hnew), hdepth]
          exact ⟨hlonger, hchain⟩

end Paths

/-! ## All starts -/

/-- Where a search begins: at the given ids, or else at every declared method. -/
def IsStart (classes : List ClassInfo) : Option (List String) → String → Prop
  | some ids, start => start ∈ ids
  | none, start => ∃ c ∈ classes, ∃ m ∈ c.methods, c.methodId m = start

theorem mem_startList_iff {classes : List ClassInfo} {entryPoints : Option (List String)}
    {start : String} : start ∈ startList classes entryPoints ↔ IsStart classes entryPoints start := by
  cases entryPoints with
  | none => exact CallGraph.mem_methods_iff
  | some ids => exact mem_ascending

section Starts

variable {classes : List ClassInfo} {entryPoints : Option (List String)} {start : String}

/-- What comes up from a start within a depth. -/
theorem mem_emits_start_iff {depth : Nat} (hdepth : 1 ≤ depth) (hseveral : 2 ≤ p.length) :
    p ∈ (Branch.start (CallGraph.build classes).callees start).emits
        (CallGraph.build classes).callees depth ↔
      start ∈ p.head? ∧ IsCallChain (CallGraph.Calls classes) depth p := by
  have hcalls : (fun m m' => m' ∈ (CallGraph.build classes).callees m) = CallGraph.Calls classes := by
    funext m m'
    exact propext CallGraph.mem_callees_iff
  have hroom : depth - [start].length + ([] ++ [start]).length = depth := Nat.sub_add_cancel hdepth
  show p ∈ emits _ (depth - [start].length) ([] ++ [start])
    ((CallGraph.build classes).callees start) false ↔ _
  rw [mem_emits_iff (List.isChain_singleton start) (List.nodup_singleton start) hseveral, hcalls,
    hroom, List.nil_append]
  refine and_congr_left fun _ => ?_
  cases p with
  | nil => simp
  | cons m rest => simp [List.cons_prefix_cons, eq_comm]

/-- The chains of a search within a depth that lets something through. -/
theorem mem_chainsInOrder_iff {depth : Option Int} (hallowed : depth.any (· < 1) = false) :
    p ∈ chainsInOrder classes depth entryPoints ↔
      (∃ start ∈ p.head?, IsStart classes entryPoints start) ∧
        IsCallChain (CallGraph.Calls classes) (depthFor (CallGraph.build classes) depth) p := by
  have hdepth : 1 ≤ depthFor (CallGraph.build classes) depth := by
    cases depth with
    | none => exact Nat.le_add_left 1 _
    | some d =>
        rw [Option.any_some, decide_eq_false_iff_not] at hallowed
        rw [depthFor]
        omega
  rw [chainsInOrder, hallowed, if_neg Bool.false_ne_true, mem_distinct, List.mem_filter, offered,
    List.mem_flatMap, decide_eq_true_iff]
  constructor
  · rintro ⟨⟨start, hstart, hemits⟩, hseveral⟩
    obtain ⟨hhead, hchain⟩ := (mem_emits_start_iff hdepth hseveral).mp hemits
    exact ⟨⟨start, hhead, mem_startList_iff.mp hstart⟩, hchain⟩
  · rintro ⟨⟨start, hhead, hstart⟩, hchain⟩
    exact ⟨⟨start, mem_startList_iff.mpr hstart,
      (mem_emits_start_iff hdepth hchain.several).mpr ⟨hhead, hchain⟩⟩, hchain.several⟩

theorem mem_chainsInOrder_some_iff {depth : Int} (hdepth : 1 ≤ depth) :
    p ∈ chainsInOrder classes (some depth) entryPoints ↔
      (∃ start ∈ p.head?, IsStart classes entryPoints start) ∧
        IsCallChain (CallGraph.Calls classes) depth p := by
  have hallowed : (some depth).any (· < 1) = false := by
    rw [Option.any_some, decide_eq_false_iff_not]
    omega
  have hcast : ((depthFor (CallGraph.build classes) (some depth) : Nat) : Int) = depth :=
    Int.toNat_of_nonneg (by omega)
  rw [mem_chainsInOrder_iff hallowed, hcast]

/-- Along calls no path without repetitions has more methods than the graph. -/
theorem length_le_nodes_of_isChain (hseveral : 2 ≤ p.length)
    (hlinked : p.IsChain (CallGraph.Calls classes)) (hnodup : p.Nodup) :
    p.length ≤ (CallGraph.build classes).nodes.length := by
  have hnodes : ∀ m ∈ p, m ∈ (CallGraph.build classes).nodes := by
    cases p with
    | nil => exact List.forall_mem_nil _
    | cons first rest =>
        cases rest with
        | nil => simp at hseveral
        | cons second rest =>
            clear hseveral hnodup
            induction rest generalizing first second with
            | nil =>
                have hends := CallGraph.mem_nodes_of_calls (List.isChain_cons_cons.mp hlinked).1
                exact List.forall_mem_cons.mpr ⟨hends.1, List.forall_mem_singleton.mpr hends.2⟩
            | cons third rest ih =>
                obtain ⟨hcalls, hrest⟩ := List.isChain_cons_cons.mp hlinked
                exact List.forall_mem_cons.mpr
                  ⟨(CallGraph.mem_nodes_of_calls hcalls).1, ih second third hrest⟩
  exact (List.subperm_of_subset hnodup hnodes).length_le

/-- **Without a limit on the depth no chain is cut off.** -/
theorem mem_chainsInOrder_none_iff :
    p ∈ chainsInOrder classes none entryPoints ↔
      (∃ start ∈ p.head?, IsStart classes entryPoints start) ∧
        2 ≤ p.length ∧ p.IsChain (CallGraph.Calls classes) ∧ p.Nodup ∧
          ∃ last ∈ p.getLast?, (∀ m, ¬ CallGraph.Calls classes last m) ∨
            ∃ m ∈ p, CallGraph.Calls classes last m := by
  rw [mem_chainsInOrder_iff rfl, depthFor]
  refine and_congr_right fun _ => ⟨fun h => ?_, ?_⟩
  · have hlength := length_le_nodes_of_isChain h.several h.linked h.nodup
    exact ⟨h.several, h.linked, h.nodup, h.ended.resolve_left (by omega)⟩
  · rintro ⟨hseveral, hlinked, hnodup, hended⟩
    have hlength := length_le_nodes_of_isChain hseveral hlinked hnodup
    exact ⟨hseveral, by omega, hlinked, hnodup, .inr hended⟩

theorem methods_callChains (depth cap : Option Int) :
    (callChains classes ⟨depth, cap⟩ entryPoints).chains.map CallChain.methods =
      sorted (cut cap (chainsInOrder classes depth entryPoints)) := by
  rw [callChains_eq, List.map_map]
  exact List.map_id _

end Starts

/-- **Call chains are enumerated.** Without a cap on their number, the chains up to a depth come in
strictly ascending order, and they are exactly the paths that begin at a start, follow calls, repeat
no method, and end at the depth or where they cannot be continued without notice. -/
theorem callChains_enumerates (classes : List ClassInfo) {depth : Int} (hdepth : 1 ≤ depth)
    (entryPoints : Option (List String)) :
    StrictlyAscending
        ((callChains classes ⟨some depth, none⟩ entryPoints).chains.map CallChain.methods) ∧
      ∀ p, p ∈ (callChains classes ⟨some depth, none⟩ entryPoints).chains.map CallChain.methods ↔
        (∃ start ∈ p.head?, IsStart classes entryPoints start) ∧
          IsCallChain (CallGraph.Calls classes) depth p := by
  rw [methods_callChains]
  refine ⟨strictlyAscending_sorted (nodup_chainsInOrder classes (some depth) entryPoints), fun p => ?_⟩
  rw [mem_sorted]
  exact mem_chainsInOrder_some_iff hdepth

/-! ## Two methods that call each other -/

/-- A method of a parser that calls one other method of it. -/
def sampleRule (name callee : String) : MethodInfo where
  name := name
  returnType := "void"
  parameters := []
  modifiers := ["public"]
  annotations := []
  calls := [⟨"Parser", callee, "()V", none⟩]
  isStatic := false
  isAbstract := false
  descriptor := "()V"
  exceptions := []
  annotationValues := ∅

def sampleParser : ClassInfo where
  name := "Parser"
  simpleName := "Parser"
  packageName := ""
  kind := .ordinary
  superclass := none
  interfaces := []
  annotations := []
  modifiers := ["public"]
  fields := []
  methods := [sampleRule "term" "factor", sampleRule "factor" "term"]
  isAbstract := false
  sourceFile := none
  major := 61
  minor := 0
  annotationValues := ∅

/-- The chain stops where the second method calls the first again. -/
theorem callChains_enumerates_sample :
    (1 : Int) ≤ 3 ∧ ["Parser#factor", "Parser#term"] ∈
      (callChains [sampleParser] ⟨some 3, none⟩ none).chains.map CallChain.methods := by
  have hforth : CallGraph.Calls [sampleParser] "Parser#factor" "Parser#term" :=
    ⟨sampleParser, by simp, sampleRule "factor" "term", by simp [sampleParser], _,
      List.mem_singleton_self _, by decide, by decide⟩
  have hback : CallGraph.Calls [sampleParser] "Parser#term" "Parser#factor" :=
    ⟨sampleParser, by simp, sampleRule "term" "factor", by simp [sampleParser], _,
      List.mem_singleton_self _, by decide, by decide⟩
  refine ⟨by decide, ((callChains_enumerates [sampleParser] (by decide) none).2 _).mpr ⟨?_, ?_⟩⟩
  · exact ⟨"Parser#factor", rfl, sampleParser, by simp, sampleRule "factor" "term",
      by simp [sampleParser], by decide⟩
  · refine ⟨by decide, by decide, ?_, by decide, .inr ⟨"Parser#term", rfl, .inr ?_⟩⟩
    · exact List.isChain_cons_cons.mpr ⟨hforth, List.isChain_singleton _⟩
    · exact ⟨"Parser#factor", List.mem_cons_self, hback⟩

end ClassAtlas.Flow
