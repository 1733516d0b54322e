import Mathlib.Data.Finset.Card
import ClassAtlas.Proofs.Flow.Chain

/-!
# Chains under other limits

A greater depth only lets chains go on that ended at the depth before: each chain
is the beginning of a chain of the next depth, and cut back to the old depth, a
chain of the next depth is a chain again.

A cap only stops the search early. What it has found by then is the front of what
it would have found, and no chain is found twice. The cap is looked at after a chain
has been taken: one chain is taken under a cap of zero, and the search is said to
have been stopped even where the last chain was taken.
-/

namespace ClassAtlas.Flow

open ClassAtlas.Graph (CallGraph)

/-! ## The chains as a set -/

def chainSet (classes : List ClassInfo) (limits : ChainLimits)
    (entryPoints : Option (List String)) : Finset CallChain :=
  (callChains classes limits entryPoints).chains.toFinset

section ChainSet

variable {classes : List ClassInfo} {depth cap : Option Int} {entryPoints : Option (List String)}

theorem mem_chains_callChains_iff {chain : CallChain} :
    chain ∈ (callChains classes ⟨depth, cap⟩ entryPoints).chains ↔
      chain.methods ∈ cut cap (chainsInOrder classes depth entryPoints) ∧
        chain.purpose = chainPurpose chain.methods := by
  rw [callChains_eq, List.mem_map]
  constructor
  · rintro ⟨methods, hmethods, rfl⟩
    exact ⟨mem_sorted.mp hmethods, rfl⟩
  · rintro ⟨hmethods, hpurpose⟩
    refine ⟨chain.methods, mem_sorted.mpr hmethods, ?_⟩
    rw [← hpurpose]

theorem mem_chainSet_iff {chain : CallChain} : chain ∈ chainSet classes ⟨depth, cap⟩ entryPoints ↔
    chain.methods ∈ cut cap (chainsInOrder classes depth entryPoints) ∧
      chain.purpose = chainPurpose chain.methods := by
  rw [chainSet, List.mem_toFinset, mem_chains_callChains_iff]

variable (classes depth cap entryPoints)

theorem length_callChains :
    (callChains classes ⟨depth, cap⟩ entryPoints).chains.length =
      (cut cap (chainsInOrder classes depth entryPoints)).length := by
  rw [callChains_eq, List.length_map]
  exact List.length_mergeSort _

theorem nodup_callChains : (callChains classes ⟨depth, cap⟩ entryPoints).chains.Nodup := by
  have hnodup : (cut cap (chainsInOrder classes depth entryPoints)).Nodup := by
    cases cap with
    | none => exact nodup_chainsInOrder classes depth entryPoints
    | some k => exact (nodup_chainsInOrder classes depth entryPoints).sublist (List.take_sublist _ _)
  rw [callChains_eq]
  refine ((List.mergeSort_perm _ _).nodup_iff.mpr hnodup).map ?_
  intro methods methods' heq
  exact congrArg CallChain.methods heq

theorem card_chainSet : (chainSet classes ⟨depth, cap⟩ entryPoints).card =
    (cut cap (chainsInOrder classes depth entryPoints)).length := by
  rw [chainSet, List.toFinset_card_of_nodup (nodup_callChains classes depth cap entryPoints),
    length_callChains]

end ChainSet

/-! ## One more method -/

section Depth

variable {calls : String → String → Prop} {depth : Int} {p q : List String}

/-- A chain that ended only at the depth goes on with something new, any other chain stays. -/
theorem IsCallChain.exists_longer (h : IsCallChain calls depth p) :
    ∃ q, IsCallChain calls (depth + 1) q ∧ q.take depth.toNat = p := by
  have hseveral := h.several
  have hwithin := h.within
  by_cases hstays : ∃ last ∈ p.getLast?, (∀ m, ¬ calls last m) ∨ ∃ m ∈ p, calls last m
  · refine ⟨p, ⟨hseveral, by omega, h.linked, h.nodup, .inr hstays⟩, ?_⟩
    exact List.take_of_length_le (by omega)
  · have hlength : (p.length : Int) = depth := h.ended.resolve_right hstays
    have hne : p ≠ [] := List.ne_nil_of_length_pos (by omega)
    obtain ⟨last, hlast⟩ : ∃ last, p.getLast? = some last :=
      ⟨p.getLast hne, List.getLast?_eq_some_getLast hne⟩
    push Not at hstays
    obtain ⟨⟨m, hcalls⟩, hback⟩ := hstays last hlast
    have hnew : m ∉ p := fun hm => hback m hm hcalls
    refine ⟨p ++ [m], ⟨?_, ?_, ?_, ?_, .inl ?_⟩, ?_⟩
    · rw [List.length_append]
      omega
    · rw [List.length_append, List.length_singleton]
      omega
    · refine List.isChain_append.mpr ⟨h.linked, List.isChain_singleton m, ?_⟩
      intro x hx y hy
      rw [hlast, Option.mem_some_iff] at hx
      rw [List.head?_cons, Option.mem_some_iff] at hy
      exact hx ▸ hy ▸ hcalls
    · exact List.nodup_append.mpr ⟨h.nodup, List.nodup_singleton m, fun x hx y hy hxy =>
        hnew (List.mem_singleton.mp hy ▸ hxy ▸ hx)⟩
    · rw [List.length_append, List.length_singleton]
      omega
    · exact List.take_left' (by omega)

theorem IsCallChain.take (h : IsCallChain calls (depth + 1) q) (hdepth : 2 ≤ depth) :
    IsCallChain calls depth (q.take depth.toNat) := by
  have hwithin := h.within
  by_cases hlength : (q.length : Int) = depth + 1
  -- cut back by one method, the chain ends at the depth
  · have htake : (q.take depth.toNat).length = depth.toNat := by
      rw [List.length_take]
      omega
    refine ⟨by omega, by omega, h.linked.take _, h.nodup.sublist (List.take_sublist _ _), .inl ?_⟩
    omega
  · rw [List.take_of_length_le (by omega)]
    exact ⟨h.several, by omega, h.linked, h.nodup, .inr (h.ended.resolve_left hlength)⟩

/-- From the same starts, the chains of a depth are the beginnings of those of the next. -/
theorem mem_chainsInOrder_iff_take {classes : List ClassInfo} {entryPoints : Option (List String)}
    (hdepth : 2 ≤ depth) :
    p ∈ chainsInOrder classes (some depth) entryPoints ↔
      ∃ q ∈ chainsInOrder classes (some (depth + 1)) entryPoints, q.take depth.toNat = p := by
  have hhead : ∀ q : List String, (q.take depth.toNat).head? = q.head? := by
    intro q
    rw [List.head?_take, if_neg (by omega)]
  simp only [mem_chainsInOrder_some_iff (show (1 : Int) ≤ depth by omega),
    mem_chainsInOrder_some_iff (show (1 : Int) ≤ depth + 1 by omega)]
  constructor
  · rintro ⟨hstart, hchain⟩
    obtain ⟨q, hq, rfl⟩ := hchain.exists_longer
    exact ⟨q, ⟨hhead q ▸ hstart, hq⟩, rfl⟩
  · rintro ⟨q, ⟨hstart, hq⟩, rfl⟩
    exact ⟨(hhead q).symm ▸ hstart, hq.take hdepth⟩

end Depth

/-- The beginning of a chain. -/
def CallChain.upTo (n : Nat) (chain : CallChain) : CallChain :=
  { chain with methods := chain.methods.take n }

/-- What a chain does is told by its first method. -/
theorem chainPurpose_take {n : Nat} (hn : n ≠ 0) (methods : List String) :
    chainPurpose (methods.take n) = chainPurpose methods := by
  obtain ⟨n, rfl⟩ := Nat.exists_eq_succ_of_ne_zero hn
  cases methods with
  | nil => rfl
  | cons first rest => rfl

/-- **A greater depth refines the chains.** Without a cap on their number, the chains of a depth
are the beginnings, of that many methods, of the chains of the next depth. -/
theorem chainSet_depth_succ (classes : List ClassInfo) {depth : Int} (hdepth : 2 ≤ depth)
    (entryPoints : Option (List String)) :
    chainSet classes ⟨some depth, none⟩ entryPoints =
      (chainSet classes ⟨some (depth + 1), none⟩ entryPoints).image
        (CallChain.upTo depth.toNat) := by
  have hpurpose := chainPurpose_take (show depth.toNat ≠ 0 by omega)
  ext chain
  simp only [Finset.mem_image, mem_chainSet_iff, cut, mem_chainsInOrder_iff_take hdepth]
  constructor
  · rintro ⟨⟨q, hq, htake⟩, hchain⟩
    refine ⟨⟨q, chainPurpose q⟩, ⟨hq, rfl⟩, ?_⟩
    rw [← htake, hpurpose] at hchain
    rw [CallChain.upTo, htake, ← hchain]
  · rintro ⟨longer, ⟨hq, hlonger⟩, rfl⟩
    exact ⟨⟨longer.methods, hq, rfl⟩, hlonger.trans (hpurpose longer.methods).symm⟩

/-- Three methods of a parser that call each other in turn. -/
def sampleGrammar : ClassInfo :=
  { sampleParser with
    methods := [sampleRule "sum" "product", sampleRule "product" "atom", sampleRule "atom" "sum"] }

/-- The chain from the first method through the other two. -/
def sampleDescent : CallChain :=
  ⟨["Parser#sum", "Parser#product", "Parser#atom"], "GENERAL"⟩

theorem sampleDescent_mem : sampleDescent ∈ chainSet [sampleGrammar] ⟨some 3, none⟩ none := by
  have hfirst : CallGraph.Calls [sampleGrammar] "Parser#sum" "Parser#product" :=
    ⟨sampleGrammar, by simp, sampleRule "sum" "product", by simp [sampleGrammar], _,
      List.mem_singleton_self _, by decide, by decide⟩
  have hsecond : CallGraph.Calls [sampleGrammar] "Parser#product" "Parser#atom" :=
    ⟨sampleGrammar, by simp, sampleRule "product" "atom", by simp [sampleGrammar], _,
      List.mem_singleton_self _, by decide, by decide⟩
  refine mem_chainSet_iff.mpr ⟨(mem_chainsInOrder_some_iff (by decide)).mpr ⟨?_, ?_⟩, by decide⟩
  · exact ⟨"Parser#sum", rfl, sampleGrammar, by simp, sampleRule "sum" "product",
      by simp [sampleGrammar], by decide⟩
  · refine ⟨by decide, by decide, ?_, by decide, .inl rfl⟩
    exact List.isChain_cons_cons.mpr ⟨hfirst, List.isChain_cons_cons.mpr
      ⟨hsecond, List.isChain_singleton _⟩⟩

/-- The descent through all three methods is cut back to its first two. -/
theorem chainSet_depth_succ_sample :
    (2 : Int) ≤ 2 ∧
      ⟨["Parser#sum", "Parser#product"], "GENERAL"⟩ ∈ chainSet [sampleGrammar] ⟨some 2, none⟩ none := by
  refine ⟨by decide, ?_⟩
  rw [chainSet_depth_succ [sampleGrammar] (by decide) none]
  exact Finset.mem_image.mpr ⟨sampleDescent, sampleDescent_mem, rfl⟩

/-! ## A cap -/

theorem quota_of_pos {k : Int} (hk : 1 ≤ k) : quota k = k.toNat := by
  unfold quota
  omega

/-- **A cap selects a growing part of the chains.** What is found under a cap is found under any
greater cap and without one, and it is as many chains as the cap says, or all if they are fewer. -/
theorem chainSet_cap_grows (classes : List ClassInfo) (depth : Option Int)
    (entryPoints : Option (List String)) {k k' : Int} (hk : 1 ≤ k) (hle : k ≤ k') :
    chainSet classes ⟨depth, some k⟩ entryPoints ⊆ chainSet classes ⟨depth, some k'⟩ entryPoints ∧
      chainSet classes ⟨depth, some k'⟩ entryPoints ⊆ chainSet classes ⟨depth, none⟩ entryPoints ∧
      ((chainSet classes ⟨depth, some k⟩ entryPoints).card : Int) =
        min k (chainSet classes ⟨depth, none⟩ entryPoints).card := by
  refine ⟨fun chain => ?_, fun chain => ?_, ?_⟩
  · rw [mem_chainSet_iff, mem_chainSet_iff, cut, cut, quota_of_pos hk, quota_of_pos (hk.trans hle)]
    exact And.imp_left fun h => List.take_subset_take_left _ (by omega) h
  · rw [mem_chainSet_iff, mem_chainSet_iff]
    exact And.imp_left mem_of_mem_cut
  · rw [card_chainSet, card_chainSet, cut, cut, quota_of_pos hk, List.length_take]
    omega

/-- One chain under a cap of one. -/
theorem chainSet_cap_grows_sample :
    (1 : Int) ≤ 1 ∧ (1 : Int) ≤ 2 ∧
      chainSet [sampleGrammar] ⟨some 3, some 1⟩ none ⊆ chainSet [sampleGrammar] ⟨some 3, some 2⟩ none ∧
      (chainSet [sampleGrammar] ⟨some 3, some 1⟩ none).card = 1 := by
  have hgrows := chainSet_cap_grows [sampleGrammar] (some 3) none (show (1 : Int) ≤ 1 by decide)
    (show (1 : Int) ≤ 2 by decide)
  have hfound : 0 < (chainSet [sampleGrammar] ⟨some 3, none⟩ none).card :=
    Finset.card_pos.mpr ⟨sampleDescent, sampleDescent_mem⟩
  have hcard := hgrows.2.2
  exact ⟨by decide, by decide, hgrows.1, by omega⟩

/-! ## The notice -/

section Notice

variable (classes : List ClassInfo) (depth : Option Int) (entryPoints : Option (List String))

theorem length_callChains_uncapped :
    (callChains classes ⟨depth, none⟩ entryPoints).chains.length =
      (chainsInOrder classes depth entryPoints).length :=
  length_callChains classes depth none entryPoints

theorem length_callChains_capped (k : Int) :
    (callChains classes ⟨depth, some k⟩ entryPoints).chains.length =
      min (quota k) (callChains classes ⟨depth, none⟩ entryPoints).chains.length := by
  rw [length_callChains, length_callChains_uncapped, cut, List.length_take]

/-- The notice is given as soon as the cap is reached, whether or not something is left. -/
theorem notices_callChains_capped (k : Int) :
    (callChains classes ⟨depth, some k⟩ entryPoints).notices =
      if quota k ≤ (callChains classes ⟨depth, none⟩ entryPoints).chains.length then
        [stoppedNotice (quota k)]
      else [] := by
  rw [callChains_eq, length_callChains_uncapped, cut, List.length_take]
  simp only [Reached, Option.any_some, decide_eq_true_eq]
  split
  · rename_i hreached
    rw [Nat.min_eq_left hreached]
  · rfl

/-- A chain is missing exactly if there are more than the search takes. -/
theorem exists_missing_iff (k : Int) :
    (∃ chain ∈ (callChains classes ⟨depth, none⟩ entryPoints).chains,
      chain ∉ (callChains classes ⟨depth, some k⟩ entryPoints).chains) ↔
      quota k < (callChains classes ⟨depth, none⟩ entryPoints).chains.length := by
  constructor
  -- a search that takes all chains finds what a search without a cap finds
  · rintro ⟨chain, hall, hmissing⟩
    by_contra hfew
    refine hmissing ?_
    rw [length_callChains_uncapped] at hfew
    rw [mem_chains_callChains_iff] at hall ⊢
    rw [cut, List.take_of_length_le (by omega)]
    exact hall
  -- different chains are not more than the ones among which they all are
  · intro hmore
    by_contra hnone
    push Not at hnone
    have hnodup := nodup_callChains classes depth none entryPoints
    have hle := (List.subperm_of_subset hnodup hnone).length_le
    rw [length_callChains_capped] at hle
    omega

end Notice

/-- **When a cap is kept and when its notice is true.** The search looks at the cap after it has
taken a chain. So it takes no more chains than the cap says exactly if the cap is not zero or there
is nothing to take. There is no notice but one that tells the number of chains taken, and it is
given exactly if a chain is missing, unless there are just as many chains as the search takes. -/
theorem callChains_cap_kept_iff (classes : List ClassInfo) (depth : Option Int)
    (entryPoints : Option (List String)) (k : Nat) :
    ((callChains classes ⟨depth, some k⟩ entryPoints).chains.length ≤ k ↔
      k ≠ 0 ∨ (callChains classes ⟨depth, none⟩ entryPoints).chains = []) ∧
    ((callChains classes ⟨depth, some k⟩ entryPoints).notices = [] ∨
      (callChains classes ⟨depth, some k⟩ entryPoints).notices =
        [stoppedNotice (callChains classes ⟨depth, some k⟩ entryPoints).chains.length]) ∧
    (((callChains classes ⟨depth, some k⟩ entryPoints).notices ≠ [] ↔
        ∃ chain ∈ (callChains classes ⟨depth, none⟩ entryPoints).chains,
          chain ∉ (callChains classes ⟨depth, some k⟩ entryPoints).chains) ↔
      (callChains classes ⟨depth, none⟩ entryPoints).chains.length ≠ max 1 k) := by
  rw [← List.length_eq_zero_iff, length_callChains_capped, notices_callChains_capped,
    exists_missing_iff, quota, Int.toNat_natCast]
  refine ⟨by omega, ?_⟩
  split
  · rename_i hreached
    rw [Nat.min_eq_left hreached]
    refine ⟨.inr rfl, ?_⟩
    simp only [ne_eq, List.cons_ne_nil, not_false_eq_true, true_iff]
    omega
  · refine ⟨.inl rfl, ?_⟩
    simp only [ne_eq, not_true_eq_false, false_iff]
    omega

/-- A parser whose one method calls a method that it does not have. -/
def sampleDelegate : ClassInfo :=
  { sampleParser with methods := [sampleRule "term" "factor"] }

theorem chainsInOrder_sampleDelegate :
    chainsInOrder [sampleDelegate] (some 3) none = [["Parser#term", "Parser#factor"]] := by
  decide +kernel

/-- The one chain there is exceeds a cap of zero, and a cap of one is reached by it: the notice is
given and nothing is missing. -/
theorem callChains_cap_not_kept :
    ¬ (callChains [sampleDelegate] ⟨some 3, some 0⟩ none).chains.length ≤ 0 ∧
      (callChains [sampleDelegate] ⟨some 3, some 1⟩ none).notices =
        ["Call-chain enumeration stopped at 1 chains (max_chains)"] ∧
      ¬ ∃ chain ∈ (callChains [sampleDelegate] ⟨some 3, none⟩ none).chains,
        chain ∉ (callChains [sampleDelegate] ⟨some 3, some 1⟩ none).chains := by
  have htotal : (callChains [sampleDelegate] ⟨some 3, none⟩ none).chains.length = 1 := by
    rw [length_callChains_uncapped, chainsInOrder_sampleDelegate, List.length_singleton]
  refine ⟨?_, ?_, ?_⟩
  · rw [length_callChains_capped, htotal]
    decide
  · rw [notices_callChains_capped, htotal]
    decide
  · rw [exists_missing_iff, htotal]
    decide

end ClassAtlas.Flow
