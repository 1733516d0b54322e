import Mathlib.Data.List.Induction
import Mathlib.Data.List.Nodup
import ClassAtlas.Number.Arithmetic
import ClassAtlas.Proofs.Order.Ascending
import ClassAtlas.Proofs.Order.Table

/-!
# Groups by a key

A list is grouped by going through it once and adding each element to the group
of its key. What comes out has a form that needs no table: the keys in order of
first appearance, each with the elements that have it, in their order. One more
element at the end is one more member of one group.

So groups are a partition of the list, and stay one when they are put in the
order of their keys. Counting the keys is grouping with only the size of each
group kept.
-/

namespace ClassAtlas

theorem distinct_concat {α : Type} [DecidableEq α] (xs : List α) (x : α) :
    distinct (xs ++ [x]) = if x ∈ xs then distinct xs else distinct xs ++ [x] := by
  have hfold : distinct (xs ++ [x]) =
      if x ∈ distinct xs then distinct xs else distinct xs ++ [x] := by
    rw [distinct, List.foldl_append]
    rfl
  rw [hfold]
  simp only [mem_distinct]

namespace Table

variable {κ ν α : Type} [DecidableEq κ]

theorem keys_insert (t : Table κ ν) (k : κ) (v : ν) :
    (t.insert k v).keys = if k ∈ t.keys then t.keys else t.keys ++ [k] := by
  by_cases h : k ∈ t.keys
  · rw [if_pos h]
    exact map_fst_write_of_mem h
  · rw [if_neg h]
    have hentries : (t.insert k v).entries = t.entries ++ [(k, v)] := write_of_notMem h
    rw [keys, hentries, List.map_append]
    rfl

section GroupBy

variable (key : α → κ)

theorem groupBy_concat (xs : List α) (x : α) :
    groupBy key (xs ++ [x]) = (groupBy key xs).update (key x) [] (· ++ [x]) := by
  rw [groupBy, List.foldl_append]
  rfl

theorem keys_groupBy (xs : List α) : (groupBy key xs).keys = distinct (xs.map key) := by
  induction xs using List.reverseRecOn with
  | nil => rfl
  | append_singleton xs x ih =>
      rw [groupBy_concat, update, keys_insert, ih, List.map_append, List.map_singleton,
        distinct_concat]
      simp only [mem_distinct]

theorem getD_get?_groupBy (xs : List α) (k : κ) :
    ((groupBy key xs).get? k).getD [] = xs.filter fun x => key x = k := by
  induction xs using List.reverseRecOn with
  | nil => rfl
  | append_singleton xs x ih =>
      rw [groupBy_concat, update, get?_insert, List.filter_append]
      by_cases hk : key x = k
      · rw [if_pos hk, hk, ih, List.filter_cons_of_pos (by simpa using hk)]
        rfl
      · rw [if_neg hk, ih, List.filter_cons_of_neg (by simpa using hk), List.filter_nil,
          List.append_nil]

/-- **Each key has the elements that have it, and keys come in order of first appearance.** -/
theorem entries_groupBy (xs : List α) : (groupBy key xs).entries =
    (distinct (xs.map key)).map fun k => (k, xs.filter fun x => key x = k) := by
  have hentry : ∀ e ∈ (groupBy key xs).entries, (e.1, xs.filter fun x => key x = e.1) = e := by
    intro e he
    rw [← getD_get?_groupBy, get?_of_mem he, Option.getD_some]
  rw [← keys_groupBy, keys, List.map_map]
  exact ((List.map_congr_left hentry).trans (List.map_id' _)).symm

end GroupBy

/-! ## Counting -/

section Counts

variable {μ : Type}

theorem map_write (f : ν → μ) (k : κ) (v : ν) (es : List (κ × ν)) :
    (write k v es).map (fun e => (e.1, f e.2)) = write k (f v) (es.map fun e => (e.1, f e.2)) := by
  induction es with
  | nil => rfl
  | cons e rest ih =>
      by_cases he : e.1 = k
      · simp [write, he]
      · simp [write, he, ih]

theorem get?_map (f : ν → μ) (t : Table κ ν) (k : κ) : (t.map f).get? k = (t.get? k).map f := by
  simp only [get?, map, List.find?_map, Option.map_map]
  rfl

/-- A change of one value is the same change behind a view of the values. -/
theorem map_update {f : ν → μ} {g : ν → ν} {g' : μ → μ} (h : ∀ v, f (g v) = g' (f v))
    (t : Table κ ν) (k : κ) (init : ν) :
    (t.update k init g).map f = (t.map f).update k (f init) g' := by
  apply ext_entries
  have hvalue : f (g ((t.get? k).getD init)) = g' (((t.map f).get? k).getD (f init)) := by
    rw [get?_map, h, Option.getD_map]
  rw [update, update, ← hvalue]
  exact map_write f k _ t.entries

/-- Counting keys is grouping by them with only the sizes kept. -/
theorem counts_map (key : α → κ) (xs : List α) :
    counts (xs.map key) = (groupBy key xs).map List.length := by
  induction xs using List.reverseRecOn with
  | nil => rfl
  | append_singleton xs x ih =>
      have hcounts : counts ((xs ++ [x]).map key) =
          (counts (xs.map key)).update (key x) 0 (· + 1) := by
        rw [List.map_append, counts, List.foldl_append]
        rfl
      have hsize : ∀ group : List α, (group ++ [x]).length = group.length + 1 := by simp
      rw [hcounts, ih, groupBy_concat, map_update hsize]
      rfl

end Counts

end Table

/-! ## Partitions -/

section Partitions

variable {α β κ : Type} [DecidableEq κ] [Ord β]

/-- The groups divide a list by a key. The keys differ and come in the order of their ranks, no group
is empty, each has exactly the elements with its key in their order, and none is lost. -/
structure Partitions (rank : κ → β) (key : α → κ) (xs : List α) (groups : List (κ × List α)) :
    Prop where
  keys_nodup : (groups.map Prod.fst).Nodup
  keys_ordered : StrictlyAscending (groups.map fun g => rank g.1)
  nonempty : ∀ g ∈ groups, g.2 ≠ []
  group_eq : ∀ g ∈ groups, g.2 = xs.filter fun x => key x = g.1
  perm : (groups.flatMap Prod.snd).Perm xs

/-- The elements with one key, then those with the next, are all elements. -/
theorem flatMap_filter_perm {key : α → κ} {keys : List κ} {xs : List α} (hkeys : keys.Nodup)
    (hcover : ∀ x ∈ xs, key x ∈ keys) :
    (keys.flatMap fun k => xs.filter fun x => key x = k).Perm xs := by
  induction keys generalizing xs with
  | nil =>
      have hnone : xs = [] := List.eq_nil_iff_forall_not_mem.mpr fun x hx => by simpa using hcover x hx
      rw [hnone]
      rfl
  | cons k keys ih =>
      obtain ⟨hk, hkeys⟩ := List.nodup_cons.mp hkeys
      -- what has another key than the first one is left to the other keys
      let others := xs.filter fun x => !decide (key x = k)
      have hothers : (keys.flatMap fun k' => others.filter fun x => key x = k').Perm others := by
        refine ih hkeys fun x hx => ?_
        obtain ⟨hx, hne⟩ := List.mem_filter.mp hx
        exact (List.mem_cons.mp (hcover x hx)).resolve_left (by simpa using hne)
      have hsame : ∀ k' ∈ keys, (others.filter fun x => key x = k') =
          xs.filter fun x => key x = k' := by
        intro k' hk'
        have hne : k' ≠ k := fun heq => hk (heq ▸ hk')
        rw [List.filter_filter]
        apply List.filter_congr
        intro x _
        by_cases hx : key x = k'
        · simp [hx, hne]
        · simp [hx]
      rw [List.flatMap_congr hsame] at hothers
      rw [List.flatMap_cons]
      exact (hothers.append_left _).trans (List.filter_append_perm _ xs)

theorem Partitions.total_sizes {rank : κ → β} {key : α → κ} {xs : List α}
    {groups : List (κ × List α)} (h : Partitions rank key xs groups) :
    total (groups.map fun g => g.2.length) = xs.length := by
  rw [← h.perm.length_eq]
  clear h
  induction groups with
  | nil => rfl
  | cons g rest ih => rw [List.map_cons, total_cons, ih, List.flatMap_cons, List.length_append]

/-- Figures in the order of the keys are the sizes of the groups in that order. -/
theorem sortedBy_counts (rank : κ → β) (key : α → κ) (xs : List α) :
    sortedBy (fun e => rank e.1) (Table.counts (xs.map key)).entries =
      (sortedBy (fun g => rank g.1) (Table.groupBy key xs).entries).map
        fun g => (g.1, g.2.length) := by
  rw [Table.counts_map]
  symm
  exact List.map_mergeSort fun _ _ _ _ => rfl

/-- Figures in order of first appearance are the sizes of the groups in another order. -/
theorem counts_perm_sortedBy (rank : κ → β) (key : α → κ) (xs : List α) :
    (Table.counts (xs.map key)).entries.Perm
      ((sortedBy (fun g => rank g.1) (Table.groupBy key xs).entries).map
        fun g => (g.1, g.2.length)) := by
  rw [Table.counts_map]
  exact ((List.mergeSort_perm _ _).map _).symm

variable [Std.TransOrd β] [Std.LawfulEqOrd β]

/-- Groups in the order of their keys are a partition. -/
theorem partitions_groupBy {rank : κ → β} (hrank : Function.Injective rank) (key : α → κ)
    (xs : List α) :
    Partitions rank key xs (sortedBy (fun g => rank g.1) (Table.groupBy key xs).entries) := by
  have hperm := List.mergeSort_perm (Table.groupBy key xs).entries
    fun a b => (compare (rank a.1) (rank b.1)).isLE
  have hentries := Table.entries_groupBy key xs
  have hmem : ∀ g ∈ sortedBy (fun g => rank g.1) (Table.groupBy key xs).entries,
      g.1 ∈ distinct (xs.map key) ∧ g.2 = xs.filter fun x => key x = g.1 := by
    intro g hg
    have hg := hperm.mem_iff.mp hg
    rw [hentries] at hg
    obtain ⟨k, hk, rfl⟩ := List.mem_map.mp hg
    exact ⟨hk, rfl⟩
  refine ⟨?_, ?_, fun g hg => ?_, fun g hg => (hmem g hg).2, ?_⟩
  · exact ((hperm.map Prod.fst).nodup_iff).mpr (Table.groupBy key xs).nodup
  · rw [map_sortedBy]
    apply strictlyAscending_sorted
    have hnodup := List.Nodup.map hrank (Table.groupBy key xs).nodup
    rwa [List.map_map] at hnodup
  · obtain ⟨hkey, hgroup⟩ := hmem g hg
    obtain ⟨x, hx, hxkey⟩ := List.mem_map.mp (mem_distinct.mp hkey)
    rw [hgroup]
    exact List.ne_nil_of_mem (List.mem_filter.mpr ⟨hx, by simpa using hxkey⟩)
  · refine (hperm.flatMap_right Prod.snd).trans ?_
    rw [hentries, List.flatMap_map]
    exact flatMap_filter_perm (nodup_distinct _) fun x hx =>
      mem_distinct.mpr (List.mem_map_of_mem hx)

end Partitions

end ClassAtlas
