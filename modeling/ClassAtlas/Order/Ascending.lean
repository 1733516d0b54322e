/-!
# Ascending lists

Sets are reported as strictly ascending lists. `ascending` sorts and keeps one
of each group of equal elements. Text is ordered by code point, lists and pairs
lexicographically.
-/

namespace ClassAtlas

variable {α : Type}

/-- Stable ascending sort. -/
def sorted [Ord α] (xs : List α) : List α :=
  xs.mergeSort fun a b => (compare a b).isLE

/-- Stable ascending sort by a key. -/
def sortedBy {β : Type} [Ord β] (key : α → β) (xs : List α) : List α :=
  xs.mergeSort fun a b => (compare (key a) (key b)).isLE

/-- Drops every element that equals the one before it. -/
def squeeze [DecidableEq α] : List α → List α
  | [] => []
  | [x] => [x]
  | x :: y :: rest => if x = y then squeeze (y :: rest) else x :: squeeze (y :: rest)

/-- The elements of `xs` in strictly ascending order. -/
def ascending [Ord α] [DecidableEq α] (xs : List α) : List α := squeeze (sorted xs)

/-- The elements of `xs` without repetitions, each at its first place. -/
def distinct [DecidableEq α] (xs : List α) : List α :=
  xs.foldl (fun seen x => if x ∈ seen then seen else seen ++ [x]) []

end ClassAtlas
