/-!
# Arithmetic of natural numbers

Powers of the two bases that number formats are built on, and totals.
-/

namespace ClassAtlas

/-- Powers of two. -/
def pow2 (n : Nat) : Nat := Nat.pow 2 n

/-- Powers of ten. -/
def pow10 (n : Nat) : Nat := Nat.pow 10 n

/-- The sum of all numbers of a list. -/
def total (xs : List Nat) : Nat := xs.foldl (· + ·) 0

theorem total_cons (x : Nat) (xs : List Nat) : total (x :: xs) = x + total xs := by
  simp only [total, ← List.sum_eq_foldl_nat, List.sum_cons]

theorem total_eq_of_perm {xs ys : List Nat} (h : xs.Perm ys) : total xs = total ys := by
  simpa only [total, ← List.sum_eq_foldl_nat] using h.sum_nat

end ClassAtlas
