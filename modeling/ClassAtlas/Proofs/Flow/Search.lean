import ClassAtlas.Flow.Chain
import ClassAtlas.Proofs.Order.Ascending

/-!
# What a search for chains comes upon

The search keeps a stack of branches and looks at the cap whenever it takes a
chain. What it comes upon, and in which order, depends on neither: `emits` lists
it for one branch, every path as often as it is offered. The search takes this
list chain by chain, and the rest has no effect once it is stopped.

A chain that is offered again changes nothing, since the set of chains found does
not grow and the cap has not been reached before. So a search takes all of the
different chains or, under a cap, as many from the front as the cap allows.

Main statement: `callChains_eq`, the chains and notices of a search in closed form.
-/

namespace ClassAtlas.Flow

open ClassAtlas.Graph (CallGraph)
open Std (HashSet)

/-! ## The order of the search -/

/-- What comes up at the callees of a path, taken in turn: the path itself at a callee that is on
it, and at the end unless it has been extended; behind any other callee what is new. -/
def offers (path : List String) (new : String → List (List String)) :
    (extended : Bool) → (pending : List String) → List (List String)
  | extended, [] => if extended then [] else [path]
  | extended, m :: rest =>
    if m ∈ path then path :: offers path new extended rest
    else new m ++ offers path new true rest

/-- The paths that come up from a path, when `room` methods may be added to it. -/
def emits (callees : String → List String) :
    (room : Nat) → (path pending : List String) → (extended : Bool) → List (List String)
  | 0, path, _, _ => [path]
  | room + 1, path, pending, extended =>
    offers path (fun m => emits callees room (path ++ [m]) (callees m) false) extended pending

/-- The paths that come up from a branch. -/
def Branch.emits (callees : String → List String) (depth : Nat) (b : Branch) : List (List String) :=
  Flow.emits callees (depth - b.path.length) b.path b.pending b.extended

/-- Takes chains one after the other until the search is stopped. -/
def takeAll (cap : Option Int) (found : Found) (chains : List (List String)) : Search :=
  chains.foldlM (take cap) found

section Walk

variable {callees : String → List String} {depth : Nat} {cap : Option Int} {found : Found}
  {path : List String}

theorem takeAll_cons (chain : List String) (chains : List (List String)) :
    takeAll cap found (chain :: chains) =
      (take cap found chain).bind fun found => takeAll cap found chains :=
  List.foldlM_cons

theorem takeAll_append (chains chains' : List (List String)) :
    takeAll cap found (chains ++ chains') =
      (takeAll cap found chains).bind fun found => takeAll cap found chains' :=
  List.foldlM_append

/-- Trying the callees of a path takes what comes up before the first that is not on it. -/
theorem takeAll_offers (new : String → List (List String)) (extended : Bool)
    (pending : List String) (found : Found) (later : List (List String)) :
    takeAll cap found (offers path new extended pending ++ later) =
      match drain cap path extended pending found with
      | .error found => .error found
      | .ok (found, none) => takeAll cap found later
      | .ok (found, some (m, rest)) =>
        takeAll cap found (new m ++ (offers path new true rest ++ later)) := by
  induction pending generalizing found with
  | nil =>
      rw [offers, drain]
      cases extended with
      | true => rfl
      | false =>
          rw [if_neg Bool.false_ne_true, if_neg Bool.false_ne_true, List.singleton_append,
            takeAll_cons]
          cases take cap found path <;> rfl
  | cons m rest ih =>
      rw [offers, drain]
      by_cases hm : m ∈ path
      · rw [if_pos hm, if_pos hm, List.cons_append, takeAll_cons]
        cases take cap found path with
        | error found => rfl
        | ok found => exact ih found
      · rw [if_neg hm, if_neg hm, List.append_assoc]

/-- The paths of a branch that may be extended. -/
theorem emits_extensible {b : Branch} (hdepth : ¬ depth ≤ b.path.length) :
    b.emits callees depth = offers b.path
      (fun m => Branch.emits callees depth ⟨b.path ++ [m], callees m, false⟩)
      b.extended b.pending := by
  obtain ⟨room, hroom⟩ : ∃ room, depth - b.path.length = room + 1 :=
    ⟨depth - b.path.length - 1, by omega⟩
  have hnext : ∀ m : String, depth - (b.path ++ [m]).length = room := by
    intro m
    rw [List.length_append, List.length_singleton]
    omega
  simp only [Branch.emits, hroom, hnext, emits]

/-- **A search takes what comes up from its branches**, in the order of the stack. -/
theorem walk_eq_takeAll (callees : String → List String) (depth : Nat) (cap : Option Int)
    (branches : List Branch) (found : Found) :
    walk callees depth cap branches found =
      takeAll cap found (branches.flatMap (Branch.emits callees depth)) := by
  fun_induction walk callees depth cap branches found with
  | case1 found => rfl
  | case2 b branches found _ hdepth ih =>
      have hemits : b.emits callees depth = [b.path] := by
        rw [Branch.emits, Nat.sub_eq_zero_of_le hdepth, emits]
      rw [List.flatMap_cons, hemits, List.singleton_append, takeAll_cons]
      exact congrArg (take cap found b.path).bind (funext ih)
  | case3 b branches found _ hdepth found' hdrain =>
      rw [List.flatMap_cons, emits_extensible hdepth, takeAll_offers, hdrain]
  | case4 b branches found _ hdepth found' hdrain ih =>
      rw [List.flatMap_cons, emits_extensible hdepth, takeAll_offers, hdrain, ih]
  | case5 b branches found _ hdepth found' callee pending hdrain _ ih =>
      rw [List.flatMap_cons, emits_extensible hdepth, takeAll_offers, hdrain, ih,
        List.flatMap_cons, List.flatMap_cons, emits_extensible (b := ⟨b.path, pending, true⟩) hdepth]

end Walk

/-! ## How much of it a search takes -/

/-- What has been found is these chains. -/
structure Holds (found : Found) (chains : List (List String)) : Prop where
  mem : ∀ p, p ∈ found ↔ p ∈ chains
  nodup : chains.Nodup

/-- The number of chains at which a search under a cap stops. The cap is looked at after a chain
has been taken. -/
def quota (k : Int) : Nat := max 1 k.toNat

/-- The chains that a search takes from the front. -/
def cut : (cap : Option Int) → List (List String) → List (List String)
  | none, chains => chains
  | some k, chains => chains.take (quota k)

/-- Whether a search comes upon as many chains as stop it. -/
def Reached (cap : Option Int) (count : Nat) : Bool := cap.any fun k => quota k ≤ count

/-- What has been seen, with what is new of a list behind it. -/
def gather {α : Type} [DecidableEq α] (seen xs : List α) : List α :=
  xs.foldl (fun seen x => if x ∈ seen then seen else seen ++ [x]) seen

section Cap

variable {cap : Option Int} {found : Found} {seen chains : List (List String)} {chain : List String}

theorem Holds.perm (h : Holds found chains) : found.toList.Perm chains := by
  refine (List.perm_ext_iff_of_nodup ?_ h.nodup).mpr fun p => ?_
  · exact HashSet.distinct_toList.imp fun hne heq => by simp [heq] at hne
  · rw [HashSet.mem_toList, h.mem]

theorem Holds.size (h : Holds found chains) : found.size = chains.length := by
  rw [← HashSet.length_toList, h.perm.length_eq]

theorem Holds.empty : Holds ∅ [] := ⟨by simp, List.nodup_nil⟩

theorem Holds.insert_of_mem (h : Holds found seen) (hmem : chain ∈ seen) :
    Holds (found.insert chain) seen := by
  refine ⟨fun p => ?_, h.nodup⟩
  rw [HashSet.mem_insert, beq_iff_eq, h.mem]
  exact or_iff_right_of_imp fun heq => heq ▸ hmem

theorem Holds.insert_of_notMem (h : Holds found seen) (hnew : chain ∉ seen) :
    Holds (found.insert chain) (seen ++ [chain]) := by
  refine ⟨fun p => ?_, ?_⟩
  · rw [HashSet.mem_insert, beq_iff_eq, h.mem, List.mem_append, List.mem_singleton, or_comm, eq_comm]
  · refine List.nodup_append.mpr ⟨h.nodup, by simp, ?_⟩
    rintro a ha b hb rfl
    exact hnew (List.mem_singleton.mp hb ▸ ha)

theorem prefix_gather (seen chains : List (List String)) : seen <+: gather seen chains := by
  induction chains generalizing seen with
  | nil => exact List.prefix_rfl
  | cons chain rest ih =>
      rw [gather, List.foldl_cons]
      split
      · exact ih seen
      · exact (List.prefix_append seen [chain]).trans (ih _)

/-- Short paths are passed over. -/
theorem takeAll_filter (cap : Option Int) (found : Found) (chains : List (List String)) :
    takeAll cap found (chains.filter fun p => 2 ≤ p.length) = takeAll cap found chains := by
  induction chains generalizing found with
  | nil => rfl
  | cons chain rest ih =>
      rw [takeAll_cons]
      by_cases hlong : 2 ≤ chain.length
      · rw [List.filter_cons_of_pos (by simpa using hlong), takeAll_cons]
        exact congrArg (take cap found chain).bind (funext ih)
      · rw [List.filter_cons_of_neg (by simpa using hlong), ih, take, if_pos (by omega)]
        rfl

/-- The cap is reached with as many chains as stop the search. -/
theorem any_le_iff_reached {n : Nat} (hn : 1 ≤ n) :
    (cap.any fun k => k ≤ (n : Int)) = Reached cap n := by
  cases cap with
  | none => rfl
  | some k =>
      refine decide_eq_decide.mpr ?_
      unfold quota
      omega

theorem mem_of_mem_cut (h : chain ∈ cut cap chains) : chain ∈ chains := by
  cases cap with
  | none => exact h
  | some k => exact List.mem_of_mem_take h

theorem cut_of_not_reached (h : Reached cap chains.length = false) : cut cap chains = chains := by
  cases cap with
  | none => rfl
  | some k =>
      rw [Reached, Option.any_some, decide_eq_false_iff_not] at h
      exact List.take_of_length_le (by omega)

/-- The chain that reaches the cap is the last one taken. -/
theorem cut_of_reached (hopen : Reached cap seen.length = false)
    (h : Reached cap (seen ++ [chain]).length = true) (hbegin : seen ++ [chain] <+: chains) :
    cut cap chains = seen ++ [chain] ∧ Reached cap chains.length = true := by
  cases cap with
  | none => cases h
  | some k =>
      have hlength := hbegin.length_le
      rw [Reached, Option.any_some, decide_eq_true_iff] at h ⊢
      rw [Reached, Option.any_some, decide_eq_false_iff_not] at hopen
      have hquota : quota k = (seen ++ [chain]).length := by
        rw [List.length_append, List.length_singleton] at h ⊢
        omega
      refine ⟨?_, by omega⟩
      rw [cut, hquota]
      exact (List.prefix_iff_eq_take.mp hbegin).symm

theorem gather_nil (chains : List (List String)) : gather [] chains = distinct chains := rfl

theorem gather_cons_of_mem (h : chain ∈ seen) : gather seen (chain :: chains) = gather seen chains :=
  congrArg (gather · chains) (if_pos h)

theorem gather_cons_of_notMem (h : chain ∉ seen) :
    gather seen (chain :: chains) = gather (seen ++ [chain]) chains :=
  congrArg (gather · chains) (if_neg h)

/-- **What a search takes of the chains that are offered to it.** They are offered behind those it
has seen, which have not stopped it. -/
theorem exists_takeAll (hlong : ∀ p ∈ chains, 2 ≤ p.length) (h : Holds found seen)
    (hopen : Reached cap seen.length = false) :
    ∃ found', Holds found' (cut cap (gather seen chains)) ∧
      takeAll cap found chains =
        if Reached cap (gather seen chains).length then .error found' else .ok found' := by
  induction chains generalizing found seen with
  | nil =>
      refine ⟨found, ?_, ?_⟩
      · rw [gather, List.foldl_nil, cut_of_not_reached hopen]
        exact h
      · rw [gather, List.foldl_nil, hopen]
        rfl
  | cons chain rest ih =>
      obtain ⟨hchain, hrest⟩ := List.forall_mem_cons.mp hlong
      have htake : take cap found chain =
          if cap.any fun k => k ≤ ((found.insert chain).size : Int) then .error (found.insert chain)
          else .ok (found.insert chain) := by
        rw [take, if_neg (by omega)]
      rw [takeAll_cons, htake]
      by_cases hseen : chain ∈ seen
      · -- offered again: nothing is added, and the cap is as far away as before
        have hsame := h.insert_of_mem hseen
        rw [hsame.size, any_le_iff_reached (List.length_pos_of_mem hseen), hopen,
          gather_cons_of_mem hseen]
        exact ih hrest hsame hopen
      · have hmore := h.insert_of_notMem hseen
        have hbegin := prefix_gather (seen ++ [chain]) rest
        rw [hmore.size, any_le_iff_reached (by simp), gather_cons_of_notMem hseen]
        cases hreached : Reached cap (seen ++ [chain]).length with
        | true =>
            obtain ⟨hcut, hstopped⟩ := cut_of_reached hopen hreached hbegin
            rw [hcut, hstopped]
            exact ⟨found.insert chain, hmore, rfl⟩
        | false => exact ih hrest hmore hreached

end Cap

/-! ## All starts -/

/-- The starts as the search takes them. -/
def startList (classes : List ClassInfo) (entryPoints : Option (List String)) : List String :=
  (entryPoints.map ascending).getD (CallGraph.build classes).methods

/-- What comes up from all starts. -/
def offered (classes : List ClassInfo) (depth : Option Int) (entryPoints : Option (List String)) :
    List (List String) :=
  (startList classes entryPoints).flatMap fun start =>
    (Branch.start (CallGraph.build classes).callees start).emits (CallGraph.build classes).callees
      (depthFor (CallGraph.build classes) depth)

/-- The chains in the order in which a search without a cap comes upon them, each at its first
place. -/
def chainsInOrder (classes : List ClassInfo) (depth : Option Int)
    (entryPoints : Option (List String)) : List (List String) :=
  if depth.any (· < 1) then []
  else distinct ((offered classes depth entryPoints).filter fun p => 2 ≤ p.length)

section Order

variable (classes : List ClassInfo) (depth cap : Option Int) (entryPoints : Option (List String))

theorem nodup_chainsInOrder : (chainsInOrder classes depth entryPoints).Nodup := by
  unfold chainsInOrder
  split
  · exact List.nodup_nil
  · exact nodup_distinct _

theorem foldlM_walk (callees : String → List String) (limit : Nat) (starts : List String)
    (found : Found) :
    starts.foldlM (fun found start => walk callees limit cap [.start callees start] found) found =
      takeAll cap found (starts.flatMap fun start =>
        (Branch.start callees start).emits callees limit) := by
  induction starts generalizing found with
  | nil => rfl
  | cons start rest ih =>
      rw [List.foldlM_cons, List.flatMap_cons, takeAll_append, walk_eq_takeAll, List.flatMap_cons,
        List.flatMap_nil, List.append_nil]
      exact congrArg (takeAll cap found _).bind (funext ih)

/-- **What a search finds.** -/
theorem exists_searchChains :
    ∃ found, Holds found (cut cap (chainsInOrder classes depth entryPoints)) ∧
      searchChains (CallGraph.build classes) ⟨depth, cap⟩ entryPoints =
        if Reached cap (chainsInOrder classes depth entryPoints).length then .error found
        else .ok found := by
  have hopen : Reached cap ([] : List (List String)).length = false := by
    cases cap with
    | none => rfl
    | some k =>
        rw [Reached, Option.any_some, decide_eq_false_iff_not, List.length_nil]
        unfold quota
        omega
  unfold searchChains chainsInOrder
  split
  · refine ⟨∅, ?_, ?_⟩
    · rw [cut_of_not_reached hopen]
      exact .empty
    · rw [hopen]
      rfl
  · have hlong : ∀ p ∈ (offered classes depth entryPoints).filter (fun p => 2 ≤ p.length),
        2 ≤ p.length := fun p hp => by simpa using (List.mem_filter.mp hp).2
    dsimp only
    rw [foldlM_walk, ← takeAll_filter, ← gather_nil]
    exact exists_takeAll hlong .empty hopen

/-- **The chains and notices of a search.** Under a cap the search takes as many chains from the
front as the cap says, but at least one, and it has been stopped if there are that many. -/
theorem callChains_eq :
    callChains classes ⟨depth, cap⟩ entryPoints =
      { chains := (sorted (cut cap (chainsInOrder classes depth entryPoints))).map fun methods =>
          ⟨methods, chainPurpose methods⟩
        notices := if Reached cap (chainsInOrder classes depth entryPoints).length then
            [stoppedNotice (cut cap (chainsInOrder classes depth entryPoints)).length]
          else [] } := by
  obtain ⟨found, hholds, hsearch⟩ := exists_searchChains classes depth cap entryPoints
  have hlisted : sorted found.toList =
      sorted (cut cap (chainsInOrder classes depth entryPoints)) := mergeSort_eq_of_perm hholds.perm
  rw [callChains, hsearch, ← hlisted, ← hholds.size]
  split <;> rfl

end Order

end ClassAtlas.Flow
