import ClassAtlas.Order.Ascending

/-!
# What ascending lists keep

Sorting keeps the elements of a list and forgets the order in which they came.
It forgets it entirely where only equal elements compare as equal, which is the
case for texts and for what is compared by all of its texts. There an ascending
list is the one strictly ascending list of its elements: two of them are equal
as soon as they have the same elements.
-/

namespace ClassAtlas

variable {α : Type}

/-! ## Elements -/

theorem mem_sorted [Ord α] {x : α} {xs : List α} : x ∈ sorted xs ↔ x ∈ xs :=
  (List.mergeSort_perm xs _).mem_iff

section Squeeze

variable [DecidableEq α]

theorem mem_squeeze {x : α} {xs : List α} : x ∈ squeeze xs ↔ x ∈ xs := by
  fun_induction squeeze xs with
  | case1 => exact Iff.rfl
  | case2 y => exact Iff.rfl
  | case3 y rest ih =>
      rw [ih]
      simp
  | case4 y z rest hne ih => rw [List.mem_cons, ih, List.mem_cons (l := z :: rest)]

theorem mem_ascending [Ord α] {x : α} {xs : List α} : x ∈ ascending xs ↔ x ∈ xs :=
  mem_squeeze.trans mem_sorted

theorem mem_distinct {x : α} {xs : List α} : x ∈ distinct xs ↔ x ∈ xs := by
  suffices h : ∀ seen, x ∈ xs.foldl (fun seen y => if y ∈ seen then seen else seen ++ [y]) seen ↔
      x ∈ seen ∨ x ∈ xs by simpa [distinct] using h []
  induction xs with
  | nil => simp
  | cons y rest ih =>
      intro seen
      rw [List.foldl_cons, ih]
      by_cases hy : y ∈ seen
      · rw [if_pos hy, List.mem_cons]
        constructor
        · rintro (h | h)
          · exact .inl h
          · exact .inr (.inr h)
        · rintro (h | rfl | h)
          · exact .inl h
          · exact .inl hy
          · exact .inr h
      · rw [if_neg hy, List.mem_append, List.mem_singleton, List.mem_cons, or_assoc]

theorem nodup_distinct (xs : List α) : (distinct xs).Nodup := by
  suffices h : ∀ seen : List α, seen.Nodup →
      (xs.foldl (fun seen y => if y ∈ seen then seen else seen ++ [y]) seen).Nodup from
    h [] List.nodup_nil
  induction xs with
  | nil => exact fun _ hseen => hseen
  | cons y rest ih =>
      intro seen hseen
      rw [List.foldl_cons]
      apply ih
      by_cases hy : y ∈ seen
      · rwa [if_pos hy]
      · rw [if_neg hy, List.nodup_append]
        refine ⟨hseen, by simp, ?_⟩
        rintro a ha b hb rfl
        exact hy (List.mem_singleton.mp hb ▸ ha)

end Squeeze

/-! ## Order -/

theorem pairwise_mergeSort_isLE {cmp : α → α → Ordering} [Std.TransCmp cmp] (xs : List α) :
    (xs.mergeSort fun a b => (cmp a b).isLE).Pairwise fun a b => (cmp a b).isLE = true := by
  refine List.pairwise_mergeSort (fun _ _ _ => Std.TransCmp.isLE_trans) (fun a b => ?_) xs
  have hswap : cmp b a = (cmp a b).swap := Std.OrientedCmp.eq_swap
  rw [hswap]
  cases cmp a b <;> rfl

/-- Sorted by a key, the keys are sorted. -/
theorem map_sortedBy {β : Type} [Ord β] (key : α → β) (xs : List α) :
    (sortedBy key xs).map key = sorted (xs.map key) :=
  List.map_mergeSort fun _ _ _ _ => rfl

/-- Lists with the same elements are sorted to the same list. -/
theorem mergeSort_eq_of_perm {cmp : α → α → Ordering} [Std.TransCmp cmp] [Std.LawfulEqCmp cmp]
    {xs ys : List α} (h : xs.Perm ys) :
    xs.mergeSort (fun a b => (cmp a b).isLE) = ys.mergeSort fun a b => (cmp a b).isLE := by
  refine List.Perm.eq_of_pairwise (fun a b _ _ hab hba => ?_) (pairwise_mergeSort_isLE xs)
    (pairwise_mergeSort_isLE ys) ?_
  · exact Std.LawfulEqCmp.eq_of_compare (Std.OrientedCmp.isLE_antisymm hab hba)
  · exact (List.mergeSort_perm xs _).trans (h.trans (List.mergeSort_perm ys _).symm)

/-! ## Strictly ascending lists -/

/-- Each element is less than every later one. -/
def StrictlyAscending [Ord α] (xs : List α) : Prop := xs.Pairwise fun a b => compare a b = .lt

section Strict

variable [Ord α] {xs ys : List α}

theorem StrictlyAscending.filter (h : StrictlyAscending xs) (p : α → Bool) :
    StrictlyAscending (xs.filter p) :=
  List.Pairwise.filter p h

variable [Std.TransOrd α]

theorem StrictlyAscending.nodup (h : StrictlyAscending xs) : xs.Nodup := by
  refine List.Pairwise.imp ?_ h
  rintro a _ hlt rfl
  have hself : compare a a = .eq := Std.ReflCmp.compare_self
  rw [hself] at hlt
  cases hlt

/-- Two strictly ascending lists with the same elements are one list. -/
theorem StrictlyAscending.eq_of_mem_iff (hx : StrictlyAscending xs) (hy : StrictlyAscending ys)
    (h : ∀ a, a ∈ xs ↔ a ∈ ys) : xs = ys := by
  have hperm : xs.Perm ys := (List.perm_ext_iff_of_nodup hx.nodup hy.nodup).mpr h
  refine hperm.eq_of_pairwise (fun a b _ _ hab hba => ?_) hx hy
  exact absurd hba (Std.OrientedCmp.not_lt_of_lt hab)

variable [Std.LawfulEqOrd α]

omit [Std.TransOrd α] in
theorem lt_of_isLE_of_ne {a b : α} (hle : (compare a b).isLE = true) (hne : a ≠ b) :
    compare a b = .lt := by
  cases hcmp : compare a b with
  | lt => rfl
  | eq => exact absurd (Std.LawfulEqCmp.eq_of_compare hcmp) hne
  | gt =>
      rw [hcmp] at hle
      cases hle

/-- Sorting puts elements that all differ in strictly ascending order. -/
theorem strictlyAscending_sorted (h : xs.Nodup) : StrictlyAscending (sorted xs) := by
  have hnodup : (sorted xs).Nodup := (List.mergeSort_perm xs _).nodup_iff.mpr h
  exact List.Pairwise.imp₂ (fun _ _ => lt_of_isLE_of_ne) (pairwise_mergeSort_isLE xs) hnodup

variable [DecidableEq α]

theorem strictlyAscending_squeeze (h : xs.Pairwise fun a b => (compare a b).isLE = true) :
    StrictlyAscending (squeeze xs) := by
  fun_induction squeeze xs with
  | case1 => exact List.Pairwise.nil
  | case2 x => exact List.pairwise_singleton _ x
  | case3 x rest ih => exact ih h.tail
  | case4 x y rest hne ih =>
      obtain ⟨hx, hrest⟩ := List.pairwise_cons.mp h
      refine List.pairwise_cons.mpr ⟨fun z hz => ?_, ih hrest⟩
      -- `x` is less than its neighbour, which is at most any later element
      have hxy : compare x y = .lt := lt_of_isLE_of_ne (hx y List.mem_cons_self) hne
      rcases List.mem_cons.mp (mem_squeeze.mp hz) with rfl | hz
      · exact hxy
      · exact Std.TransCmp.lt_of_lt_of_isLE hxy ((List.pairwise_cons.mp hrest).1 z hz)

theorem strictlyAscending_ascending (xs : List α) : StrictlyAscending (ascending xs) :=
  strictlyAscending_squeeze (pairwise_mergeSort_isLE xs)

theorem ascending_eq_of_mem_iff (h : ∀ a, a ∈ xs ↔ a ∈ ys) : ascending xs = ascending ys := by
  refine (strictlyAscending_ascending xs).eq_of_mem_iff (strictlyAscending_ascending ys) fun a => ?_
  rw [mem_ascending, mem_ascending, h]

theorem ascending_eq_of_perm (h : xs.Perm ys) : ascending xs = ascending ys :=
  ascending_eq_of_mem_iff fun _ => h.mem_iff

end Strict

end ClassAtlas
