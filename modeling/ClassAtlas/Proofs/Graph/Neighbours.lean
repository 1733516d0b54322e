import ClassAtlas.Proofs.Graph.References
import ClassAtlas.Proofs.Graph.Reordering

/-!
# Pairs put together by their first parts

Pairs are sorted before those with one first part are put together, so that they
stand next to each other; otherwise a node would have several groups, of which a
look-up finds the first. The groups of sorted pairs are a map: its keys ascend,
and under each key stand the second parts of its pairs, in ascending order and
without repetitions. Every pair is in one group, so that the sizes of the groups
add up to the number of pairs.
-/

namespace ClassAtlas.Graph.Neighbours

/-- Pairs are compared as a whole, the first part first. -/
local instance pairOrd : Ord (String × String) := ⟨compareLex (compareOn Prod.fst) (compareOn Prod.snd)⟩

local instance transOrd_pair : Std.TransOrd (String × String) :=
  inferInstanceAs (Std.TransCmp (compareLex (compareOn Prod.fst) (compareOn Prod.snd)))

local instance lawfulEqOrd_pair : Std.LawfulEqOrd (String × String) := lawfulEqCmp_pair

/-! ## Groups of pairs -/

/-- No pair has a lesser first part than one before it. -/
def Grouped (pairs : List (String × String)) : Prop :=
  pairs.Pairwise fun p q => (compare p.1 q.1).isLE = true

theorem of_cons (e : String × List String) (ns : Neighbours) (node : String) :
    of (e :: ns) node = if e.1 = node then e.2 else of ns node := by
  unfold of
  by_cases h : e.1 = node
  · rw [List.find?_cons_of_pos (by simpa using h), if_pos h]
    rfl
  · rw [List.find?_cons_of_neg (by simpa using h), if_neg h]

/-- The first group is that of the first pair. -/
theorem ofPairs_cons (a b : String) (rest : List (String × String)) :
    ∃ bs groups, ofPairs ((a, b) :: rest) = (a, b :: bs) :: groups := by
  rw [ofPairs]
  split
  · split
    · exact ⟨_, _, rfl⟩
    · exact ⟨_, _, rfl⟩
  · exact ⟨[], [], rfl⟩

/-- Where a grouped list has gone on to another node, no later pair is of the node before. -/
theorem Grouped.filter_eq_nil {a a' b : String} {rest : List (String × String)} (hne : a ≠ a')
    (hle : (compare a a').isLE = true) (h : Grouped ((a', b) :: rest)) :
    ((a', b) :: rest).filter (fun p => p.1 = a) = [] := by
  rw [List.filter_eq_nil_iff]
  intro p hp hpa
  have hpa : p.1 = a := of_decide_eq_true hpa
  have hback : (compare a' p.1).isLE = true := by
    rcases List.mem_cons.mp hp with rfl | hp
    · exact Std.ReflCmp.isLE_rfl
    · exact (List.pairwise_cons.mp h).1 p hp
  rw [hpa] at hback
  exact hne (Std.LawfulEqCmp.eq_of_compare (Std.OrientedCmp.isLE_antisymm hle hback))

/-- A look-up in the groups gives the second parts of the pairs with the first part asked for. -/
theorem of_ofPairs {pairs : List (String × String)} (h : Grouped pairs) (node : String) :
    (ofPairs pairs).of node = (pairs.filter fun p => p.1 = node).map Prod.snd := by
  induction pairs with
  | nil => rfl
  | cons pair rest ih =>
      obtain ⟨a, b⟩ := pair
      have hrest := ih h.tail
      have hfilter : (((a, b) :: rest).filter fun p => p.1 = node).map Prod.snd =
          if a = node then b :: (rest.filter fun p => p.1 = node).map Prod.snd
          else (rest.filter fun p => p.1 = node).map Prod.snd := by
        by_cases ha : a = node
        · rw [List.filter_cons_of_pos (by simpa using ha), if_pos ha, List.map_cons]
        · rw [List.filter_cons_of_neg (by simpa using ha), if_neg ha]
      rw [hfilter, ← hrest]
      cases rest with
      | nil => exact of_cons (a, [b]) [] node
      | cons pair' rest =>
          obtain ⟨a', b'⟩ := pair'
          obtain ⟨bs, groups, hgroups⟩ := ofPairs_cons a' b' rest
          rw [ofPairs, hgroups]
          dsimp only
          by_cases hfirst : a = a'
          -- the pair joins the first group
          · subst hfirst
            rw [if_pos rfl, of_cons, of_cons]
            by_cases ha : a = node
            · rw [if_pos ha, if_pos ha, if_pos ha]
            · rw [if_neg ha, if_neg ha, if_neg ha]
          -- the pair opens a group, and no other pair belongs to it
          · rw [if_neg hfirst, of_cons]
            by_cases ha : a = node
            · have hle := (List.pairwise_cons.mp h).1 (a', b') List.mem_cons_self
              have hnone := Grouped.filter_eq_nil hfirst hle h.tail
              rw [ha] at hnone
              rw [if_pos ha, if_pos ha, ← hgroups, hrest, hnone]
              rfl
            · rw [if_neg ha, if_neg ha]

theorem strictlyAscending_keys {pairs : List (String × String)} (h : Grouped pairs) :
    StrictlyAscending ((ofPairs pairs).map Prod.fst) := by
  fun_induction ofPairs pairs with
  | case1 => exact List.Pairwise.nil
  | case2 b rest a bs groups hrest ih =>
      have hkeys := ih h.tail
      rw [hrest] at hkeys
      exact hkeys
  | case3 a b rest a' bs groups hrest hne ih =>
      have hkeys := ih h.tail
      rw [hrest] at hkeys
      -- the first group of the rest is that of a pair of the rest, which is not before `a`
      have hfirst : compare a a' = .lt := by
        have hgroup : (a', bs) ∈ ofPairs rest := hrest ▸ List.mem_cons_self
        obtain ⟨hbs, hpairs⟩ := of_mem_ofPairs hgroup
        obtain ⟨b', hb'⟩ := List.exists_mem_of_ne_nil bs hbs
        exact lt_of_isLE_of_ne ((List.pairwise_cons.mp h).1 _ (hpairs b' hb')) hne
      refine List.pairwise_cons.mpr ⟨fun key hkey => ?_, hkeys⟩
      rcases List.mem_cons.mp hkey with rfl | hlater
      · exact hfirst
      · exact Std.TransCmp.lt_trans hfirst ((List.pairwise_cons.mp hkeys).1 key hlater)
  | case4 a b rest hrest ih => exact List.pairwise_singleton _ a

/-- Every pair is in one group: the sizes of the groups add up to the number of pairs. -/
theorem total_length_ofPairs (pairs : List (String × String)) :
    total ((ofPairs pairs).map fun e => e.2.length) = pairs.length := by
  fun_induction ofPairs pairs with
  | case1 => rfl
  | case2 b rest a bs groups hrest ih =>
      rw [hrest] at ih
      simp only [List.map_cons, total_cons, List.length_cons] at ih ⊢
      omega
  | case3 a b rest a' bs groups hrest hne ih =>
      rw [hrest] at ih
      simp only [List.map_cons, total_cons, List.length_cons, List.length_nil] at ih ⊢
      omega
  | case4 a b rest hrest ih =>
      rw [hrest] at ih
      simp only [List.map_cons, total_cons, List.length_cons, List.length_nil] at ih ⊢
      omega

/-! ## Groups as a map -/

theorem of_eq_of_mem {ns : Neighbours} (hkeys : StrictlyAscending (ns.map Prod.fst))
    {e : String × List String} (he : e ∈ ns) : ns.of e.1 = e.2 := by
  rw [of, Table.find?_of_mem hkeys.nodup he]
  rfl

/-- The keys ascend, under each key stands a list that is not empty, and it ascends. -/
structure Tidy (ns : Neighbours) : Prop where
  keys : StrictlyAscending (ns.map Prod.fst)
  nonempty : ∀ e ∈ ns, e.2 ≠ []
  ascending : ∀ e ∈ ns, StrictlyAscending e.2

/-- The entries are the nodes that have neighbours, each with all of them. -/
theorem Tidy.mem_iff {ns : Neighbours} (h : ns.Tidy) {e : String × List String} :
    e ∈ ns ↔ e.2 = ns.of e.1 ∧ e.2 ≠ [] := by
  constructor
  · intro he
    exact ⟨(of_eq_of_mem h.keys he).symm, h.nonempty e he⟩
  · rintro ⟨heq, hne⟩
    rw [heq] at hne
    obtain ⟨b, hb⟩ := List.exists_mem_of_ne_nil _ hne
    obtain ⟨bs, hmem, -⟩ := exists_mem_of_mem_of hb
    have hentry : e = (e.1, bs) := Prod.ext rfl (heq.trans (of_eq_of_mem h.keys hmem))
    rwa [hentry]

/-! ## Pairs in order -/

/-- Pairs in ascending order, each once. -/
def arranged (pairs : List (String × String)) : List (String × String) :=
  squeeze (pairs.mergeSort pairOrder)

theorem mem_arranged {pairs : List (String × String)} {p : String × String} :
    p ∈ arranged pairs ↔ p ∈ pairs :=
  mem_squeeze.trans (List.mergeSort_perm pairs _).mem_iff

theorem strictlyAscending_arranged (pairs : List (String × String)) :
    StrictlyAscending (arranged pairs) :=
  strictlyAscending_squeeze (pairwise_mergeSort_isLE pairs)

theorem nodup_arranged (pairs : List (String × String)) : (arranged pairs).Nodup :=
  (strictlyAscending_arranged pairs).nodup

/-- Pairs that all differ are only put in another order. -/
theorem length_arranged {pairs : List (String × String)} (h : pairs.Nodup) :
    (arranged pairs).length = pairs.length := by
  apply List.Perm.length_eq
  exact (List.perm_ext_iff_of_nodup (nodup_arranged pairs) h).mpr fun _ => mem_arranged

/-- A pair before another has a lesser first part, or the same one and a lesser second part. -/
theorem lt_of_compare_pair {p q : String × String} (h : compare p q = .lt) :
    compare p.1 q.1 = .lt ∨ compare p.1 q.1 = .eq ∧ compare p.2 q.2 = .lt :=
  Ordering.then_eq_lt.mp h

theorem grouped_arranged (pairs : List (String × String)) : Grouped (arranged pairs) := by
  refine List.Pairwise.imp ?_ (strictlyAscending_arranged pairs)
  intro p q hlt
  rcases lt_of_compare_pair hlt with hfirst | ⟨hfirst, -⟩
  · rw [hfirst]
    rfl
  · rw [hfirst]
    rfl

theorem mem_of_arranged_iff {pairs : List (String × String)} {a b : String} :
    b ∈ (ofPairs (arranged pairs)).of a ↔ (a, b) ∈ pairs := by
  rw [of_ofPairs (grouped_arranged pairs), ← mem_arranged]
  simp

theorem strictlyAscending_of_arranged (pairs : List (String × String)) (node : String) :
    StrictlyAscending ((ofPairs (arranged pairs)).of node) := by
  rw [of_ofPairs (grouped_arranged pairs)]
  have hpairs := (strictlyAscending_arranged pairs).filter fun p => p.1 = node
  refine List.pairwise_map.mpr (List.Pairwise.imp_of_mem ?_ hpairs)
  intro p q hp hq hlt
  have hp : p.1 = node := of_decide_eq_true (List.mem_filter.mp hp).2
  have hq : q.1 = node := of_decide_eq_true (List.mem_filter.mp hq).2
  rcases lt_of_compare_pair hlt with hfirst | ⟨-, hsecond⟩
  · have hself : compare node node = .eq := Std.ReflCmp.compare_self
    rw [hp, hq, hself] at hfirst
    cases hfirst
  · exact hsecond

theorem tidy_arranged (pairs : List (String × String)) : (ofPairs (arranged pairs)).Tidy where
  keys := strictlyAscending_keys (grouped_arranged pairs)
  nonempty _ he := (of_mem_ofPairs he).1
  ascending e he := by
    rw [← of_eq_of_mem (strictlyAscending_keys (grouped_arranged pairs)) he]
    exact strictlyAscending_of_arranged pairs e.1

end ClassAtlas.Graph.Neighbours
