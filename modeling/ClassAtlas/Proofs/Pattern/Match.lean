import ClassAtlas.Pattern.Match
import ClassAtlas.Proofs.Order.Ascending

/-!
# Where a match can end

A place in a text is the length of the part before it. The lemmas say, with the
text written as that part and the rest, at which places a match of one pattern
can end: behind one character, behind a sequence, and behind a run of any
characters, which is followed as a walk of single steps.
-/

namespace ClassAtlas.Pattern

variable {step : Nat → List Nat} {places : List Nat} {i j k n : Nat}

theorem mem_image_iff : j ∈ image step places ↔ ∃ i ∈ places, j ∈ step i := by
  rw [image, mem_ascending, List.mem_flatMap]

/-- A walk from one place to another in `k` steps. -/
inductive Walk (step : Nat → List Nat) : (k i j : Nat) → Prop
  | stay (i : Nat) : Walk step 0 i i
  | go {k i m j : Nat} (first : m ∈ step i) (rest : Walk step k m j) : Walk step (k + 1) i j

/-- A walk does not leave places that no step leaves. -/
theorem Walk.mem_of_closed (hwalk : Walk step k i j)
    (hclosed : ∀ i ∈ places, ∀ m ∈ step i, m ∈ places) (hi : i ∈ places) : j ∈ places := by
  induction hwalk with
  | stay i => exact hi
  | go first rest ih => exact ih (hclosed _ hi _ first)

/-- The closure holds the places that walks of bounded length reach. -/
theorem mem_closure_iff : j ∈ closure step n places ↔ ∃ i ∈ places, ∃ k ≤ n, Walk step k i j := by
  induction n generalizing places with
  | zero =>
      constructor
      · exact fun hj => ⟨j, hj, 0, Nat.le_refl 0, .stay j⟩
      · rintro ⟨i, hi, k, hk, hwalk⟩
        obtain rfl := Nat.le_zero.mp hk
        cases hwalk
        exact hi
  | succ n ih =>
      have hnext : ∀ m, m ∈ ascending (places ++ image step places) ↔
          m ∈ places ∨ ∃ i ∈ places, m ∈ step i := by
        intro m
        rw [mem_ascending, List.mem_append, mem_image_iff]
      rw [closure]
      split
      case isTrue hstop =>
        -- nothing new was reached, so the places are closed under steps
        have hclosed : ∀ i ∈ places, ∀ m ∈ step i, m ∈ places := by
          intro i hi m hm
          rw [← hstop]
          exact (hnext m).mpr (.inr ⟨i, hi, hm⟩)
        constructor
        · exact fun hj => ⟨j, hj, 0, Nat.zero_le _, .stay j⟩
        · rintro ⟨i, hi, k, -, hwalk⟩
          exact hwalk.mem_of_closed hclosed hi
      case isFalse =>
        rw [ih]
        constructor
        · rintro ⟨m, hm, k, hk, hwalk⟩
          obtain hm | ⟨i, hi, hstep⟩ := (hnext m).mp hm
          · exact ⟨m, hm, k, Nat.le_succ_of_le hk, hwalk⟩
          · exact ⟨i, hi, k + 1, Nat.succ_le_succ hk, .go hstep hwalk⟩
        · rintro ⟨i, hi, k, hk, hwalk⟩
          cases hwalk with
          | stay => exact ⟨j, (hnext j).mpr (.inl hi), 0, Nat.zero_le n, .stay j⟩
          | go first rest =>
              exact ⟨_, (hnext _).mpr (.inr ⟨i, hi, first⟩), _, Nat.le_of_succ_le_succ hk, rest⟩

section Subject

variable {before after : Text.Points} {test : Nat → Bool}

theorem mem_oneChar_iff : j ∈ oneChar (before ++ after).toArray before.length test ↔
    ∃ c rest, after = c :: rest ∧ test c = true ∧ j = (before ++ [c]).length := by
  have hhead : (before ++ after).toArray[before.length]? = after.head? := by
    rw [List.getElem?_toArray, List.getElem?_append_right (Nat.le_refl _), Nat.sub_self,
      List.head?_eq_getElem?]
  rw [oneChar, hhead]
  cases after with
  | nil => simp
  | cons c rest =>
      by_cases htest : test c = true
      · simp [htest]
      · simp [htest]

/-- A run of `k` characters other than a line break. -/
theorem walk_any_iff : Walk (ends (before ++ after).toArray .any) k before.length j ↔
    ∃ w rest, after = w ++ rest ∧ w.length = k ∧ '\n'.toNat ∉ w ∧ j = (before ++ w).length := by
  induction k generalizing before after with
  | zero =>
      constructor
      · intro hwalk
        cases hwalk
        exact ⟨[], after, rfl, rfl, List.not_mem_nil, by rw [List.append_nil]⟩
      · rintro ⟨w, rest, rfl, hw, -, rfl⟩
        obtain rfl := List.eq_nil_of_length_eq_zero hw
        rw [List.append_nil]
        exact .stay _
  | succ k ih =>
      constructor
      · intro hwalk
        cases hwalk with
        | go first further =>
            obtain ⟨c, after, rfl, hc, rfl⟩ := mem_oneChar_iff.mp first
            rw [List.append_cons] at further
            obtain ⟨w, rest, rfl, hlength, hw, rfl⟩ := ih.mp further
            have hbreak : '\n'.toNat ∉ c :: w := by
              rw [List.mem_cons, not_or]
              exact ⟨Ne.symm (bne_iff_ne.mp hc), hw⟩
            refine ⟨c :: w, rest, rfl, by rw [List.length_cons, hlength], hbreak, ?_⟩
            rw [← List.append_cons]
      · rintro ⟨w, rest, rfl, hlength, hw, rfl⟩
        obtain ⟨c, w, rfl⟩ := List.exists_cons_of_length_eq_add_one hlength
        rw [List.mem_cons, not_or] at hw
        refine .go (mem_oneChar_iff.mpr ⟨c, w ++ rest, rfl, bne_iff_ne.mpr (Ne.symm hw.1), rfl⟩) ?_
        rw [List.cons_append, List.append_cons, ih]
        exact ⟨w, rest, rfl, Nat.succ.inj hlength, hw.2, by rw [List.append_cons]⟩

/-- A run of any characters ends at each place up to the first line break. -/
theorem mem_ends_anyRun_iff :
    j ∈ ends (before ++ after).toArray (.rep .any 0 none) before.length ↔
      ∃ w rest, after = w ++ rest ∧ '\n'.toNat ∉ w ∧ j = (before ++ w).length := by
  have hbound : min ((none.map (· - 0)).getD ((before ++ after).toArray.size + 1))
      ((before ++ after).toArray.size + 1) = (before ++ after).length + 1 := by simp
  rw [ends, hbound, iterate, mem_closure_iff]
  constructor
  · rintro ⟨i, hi, k, -, hwalk⟩
    obtain rfl := List.mem_singleton.mp hi
    obtain ⟨w, rest, htext, -, hw, hj⟩ := walk_any_iff.mp hwalk
    exact ⟨w, rest, htext, hw, hj⟩
  · rintro ⟨w, rest, htext, hw, hj⟩
    have hlength : w.length ≤ (before ++ after).length + 1 := by
      rw [htext, List.length_append, List.length_append]
      omega
    exact ⟨_, List.mem_singleton_self _, w.length, hlength,
      walk_any_iff.mpr ⟨w, rest, htext, rfl, hw, hj⟩⟩

end Subject

end ClassAtlas.Pattern
