import ClassAtlas.Proofs.ClassFile.Rows

/-!
# The line of a place in the code

The line table is sorted when it is decoded, by where lines start and then by
line, and a look-up passes over it up to the first entry behind the place. In a
sorted table the entries at or before a place come first, so the last one passed
is the greatest of them, whatever the order in which the entries were written
and however often one of them was.
-/

namespace ClassAtlas.ClassFile.Code

/-! ## Sorted entries -/

/-- Where a property of an element holds of all elements before it, passing over elements as long as
they have it meets all that have it. -/
theorem takeWhile_eq_filter {α : Type} {p : α → Bool} {xs : List α}
    (h : xs.Pairwise fun a b => p b = true → p a = true) : xs.takeWhile p = xs.filter p := by
  induction xs with
  | nil => rfl
  | cons x rest ih =>
      obtain ⟨hx, hrest⟩ := List.pairwise_cons.mp h
      cases hp : p x with
      | true => rw [List.takeWhile_cons_of_pos hp, List.filter_cons_of_pos hp, ih hrest]
      | false =>
          have hnone : rest.filter p = [] := by
            rw [List.filter_eq_nil_iff]
            intro y hy hpy
            have hpx := hx y hy hpy
            rw [hp] at hpx
            cases hpx
          rw [List.takeWhile_cons_of_neg (by simp [hp]), List.filter_cons_of_neg (by simp [hp]),
            hnone]

theorem lineOrder_iff {a b : Nat × Nat} :
    lineOrder a b = true ↔ a.1 < b.1 ∨ a.1 = b.1 ∧ a.2 ≤ b.2 := by
  simp [lineOrder]

theorem pairwise_mergeSort_lineOrder (entries : List (Nat × Nat)) :
    (entries.mergeSort lineOrder).Pairwise fun a b => lineOrder a b = true := by
  refine List.pairwise_mergeSort ?_ ?_ entries
  · intro a b c hab hbc
    rw [lineOrder_iff] at hab hbc ⊢
    omega
  · intro a b
    rw [Bool.or_eq_true, lineOrder_iff, lineOrder_iff]
    omega

/-- The last element of a sorted list is at least as great as each. -/
theorem lineOrder_getLast {lines : List (Nat × Nat)} {last : Nat × Nat}
    (h : lines.Pairwise fun a b => lineOrder a b = true) (hlast : lines.getLast? = some last) :
    ∀ e ∈ lines, lineOrder e last = true := by
  obtain ⟨front, rfl⟩ := List.getLast?_eq_some_iff.mp hlast
  intro e he
  rcases List.mem_append.mp he with hfront | hself
  · exact (List.pairwise_append.mp h).2.2 e hfront last (by simp)
  · rw [List.mem_singleton.mp hself, lineOrder_iff]
    omega

/-! ## The entry of a place -/

/-- Of the entries at or before the place, the greatest by start and line. -/
structure Nearest (entries : List (Nat × Nat)) (pc : Int) (e : Nat × Nat) : Prop where
  mem : e ∈ entries
  before : (e.1 : Int) ≤ pc
  greatest : ∀ e' ∈ entries, (e'.1 : Int) ≤ pc → e'.1 < e.1 ∨ e'.1 = e.1 ∧ e'.2 ≤ e.2

variable {entries entries' : List (Nat × Nat)} {pc : Int} {e e' : Nat × Nat}

theorem Nearest.unique (h : Nearest entries pc e) (h' : Nearest entries pc e') : e = e' := by
  have hle := h.greatest e' h'.mem h'.before
  have hge := h'.greatest e h.mem h.before
  apply Prod.ext
  · omega
  · omega

theorem Nearest.congr (h : ∀ e, e ∈ entries ↔ e ∈ entries') :
    Nearest entries pc e ↔ Nearest entries' pc e := by
  constructor
  · rintro ⟨hmem, hbefore, hgreatest⟩
    exact ⟨(h e).mp hmem, hbefore, fun e' he' => hgreatest e' ((h e').mpr he')⟩
  · rintro ⟨hmem, hbefore, hgreatest⟩
    exact ⟨(h e).mpr hmem, hbefore, fun e' he' => hgreatest e' ((h e').mp he')⟩

/-- The entries that a look-up passes over. -/
def passed (entries : List (Nat × Nat)) (pc : Int) : List (Nat × Nat) :=
  (entries.mergeSort lineOrder).takeWhile fun e => (e.1 : Int) ≤ pc

theorem passed_eq (entries : List (Nat × Nat)) (pc : Int) :
    passed entries pc = (entries.mergeSort lineOrder).filter fun e => (e.1 : Int) ≤ pc := by
  refine takeWhile_eq_filter ((pairwise_mergeSort_lineOrder entries).imp ?_)
  intro a b hab hb
  rw [lineOrder_iff] at hab
  rw [decide_eq_true_eq] at hb ⊢
  omega

theorem mem_passed_iff : e ∈ passed entries pc ↔ e ∈ entries ∧ (e.1 : Int) ≤ pc := by
  rw [passed_eq, List.mem_filter, List.mem_mergeSort, decide_eq_true_eq]

/-- The last entry passed is the nearest. -/
theorem getLast?_passed_iff : (passed entries pc).getLast? = some e ↔ Nearest entries pc e := by
  have hnearest : ∀ last, (passed entries pc).getLast? = some last → Nearest entries pc last := by
    intro last hlast
    have hsorted : (passed entries pc).Pairwise fun a b => lineOrder a b = true := by
      rw [passed_eq]
      exact (pairwise_mergeSort_lineOrder entries).filter _
    obtain ⟨hmem, hbefore⟩ := mem_passed_iff.mp (List.mem_of_getLast? hlast)
    refine ⟨hmem, hbefore, fun e' he' hbefore' => ?_⟩
    exact lineOrder_iff.mp (lineOrder_getLast hsorted hlast e' (mem_passed_iff.mpr ⟨he', hbefore'⟩))
  refine ⟨hnearest e, fun h => ?_⟩
  cases hlast : (passed entries pc).getLast? with
  | none =>
      rw [List.getLast?_eq_none_iff] at hlast
      have hpassed := mem_passed_iff.mpr ⟨h.mem, h.before⟩
      rw [hlast] at hpassed
      cases hpassed
  | some last => rw [(hnearest last hlast).unique h]

section LineAt

variable {code : Code} (hlines : code.lines = entries.mergeSort lineOrder)

include hlines

theorem lineAt_eq : code.lineAt pc = (passed entries pc).getLast?.map Prod.snd := by
  rw [lineAt, hlines, passed]

theorem lineAt_eq_some_iff {line : Nat} :
    code.lineAt pc = some line ↔ ∃ start, Nearest entries pc (start, line) := by
  rw [lineAt_eq hlines, Option.map_eq_some_iff]
  constructor
  · rintro ⟨⟨start, _⟩, hlast, rfl⟩
    exact ⟨start, getLast?_passed_iff.mp hlast⟩
  · rintro ⟨start, hnearest⟩
    exact ⟨(start, line), getLast?_passed_iff.mpr hnearest, rfl⟩

theorem lineAt_eq_none_iff :
    code.lineAt pc = none ↔ ∀ e ∈ entries, ¬ (e.1 : Int) ≤ pc := by
  rw [lineAt_eq hlines, Option.map_eq_none_iff, List.getLast?_eq_none_iff,
    List.eq_nil_iff_forall_not_mem]
  simp only [mem_passed_iff, not_and]

/-- The line of a place rests on which entries there are. -/
theorem lineAt_congr {code' : Code} (hlines' : code'.lines = entries'.mergeSort lineOrder)
    (h : ∀ e, e ∈ entries ↔ e ∈ entries') (pc : Int) : code.lineAt pc = code'.lineAt pc := by
  apply Option.ext
  intro line
  rw [lineAt_eq_some_iff hlines, lineAt_eq_some_iff hlines']
  simp only [Nearest.congr h]

end LineAt

end ClassAtlas.ClassFile.Code
