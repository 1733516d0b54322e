import Mathlib.Data.List.TakeWhile
import ClassAtlas.Text.Split

/-!
# Cutting text and joining it again

A text that is joined at a character is cut there again, as long as the character
does not stand in the part that a cut goes over. The parts of a cut, joined at the
character, are the text.
-/

namespace ClassAtlas.Text

/-! ## The text up to a character -/

section Chars

variable {c x : Char} {before after cs : List Char}

theorem dropWhile_ne_append (h : c ∉ before) :
    (before ++ c :: after).dropWhile (· ≠ c) = c :: after := by
  have hbefore : ∀ d ∈ before, (d ≠ c) = True := fun d hd => eq_true fun heq => h (heq ▸ hd)
  rw [List.dropWhile_append_of_pos (by simpa using hbefore)]
  simp

theorem takeWhile_ne_append (h : c ∉ before) :
    (before ++ c :: after).takeWhile (· ≠ c) = before := by
  have hbefore : ∀ d ∈ before, (d ≠ c) = True := fun d hd => eq_true fun heq => h (heq ▸ hd)
  rw [List.takeWhile_append_of_pos (by simpa using hbefore)]
  simp

theorem notMem_takeWhile_ne : c ∉ cs.takeWhile (· ≠ c) := by
  intro h
  simpa using List.mem_takeWhile_imp h

/-- What is left from the first `c` on begins with it. -/
theorem eq_of_dropWhile_ne (h : cs.dropWhile (· ≠ c) = x :: after) :
    cs = cs.takeWhile (· ≠ c) ++ c :: after := by
  have hhead := List.head?_dropWhile_not (· ≠ c) cs
  rw [h] at hhead
  have hx : x = c := by simpa using hhead
  rw [hx] at h
  rw [← h, List.takeWhile_append_dropWhile]

end Chars

/-! ## Cuts -/

variable {sep : Char} {s front last : String}

theorem splitFirst_append (h : sep ∉ front.toList) (last : String) :
    splitFirst sep (front ++ String.singleton sep ++ last) = (front, last) := by
  have hchars : (front ++ String.singleton sep ++ last).toList =
      front.toList ++ sep :: last.toList := by simp
  rw [splitFirst, hchars, takeWhile_ne_append h, dropWhile_ne_append h, List.drop_one,
    List.tail_cons, String.ofList_toList, String.ofList_toList]

theorem splitLast?_append (h : sep ∉ last.toList) (front : String) :
    splitLast? sep (front ++ String.singleton sep ++ last) = some (front, last) := by
  have hchars : (front ++ String.singleton sep ++ last).toList.reverse =
      last.toList.reverse ++ sep :: front.toList.reverse := by simp
  have hlast : sep ∉ last.toList.reverse := mt List.mem_reverse.mp h
  rw [splitLast?, hchars, dropWhile_ne_append hlast, takeWhile_ne_append hlast]
  dsimp only
  rw [List.reverse_reverse, List.reverse_reverse, String.ofList_toList, String.ofList_toList]

theorem splitLast?_eq_none_iff : splitLast? sep s = none ↔ sep ∉ s.toList := by
  have hdrop : s.toList.reverse.dropWhile (· ≠ sep) = [] ↔ sep ∉ s.toList := by
    rw [List.dropWhile_eq_nil_iff]
    constructor
    · intro h hmem
      simpa using h sep (List.mem_reverse.mpr hmem)
    · intro h c hc
      simpa using fun heq : c = sep => h (heq ▸ List.mem_reverse.mp hc)
  rw [← hdrop, splitLast?]
  cases s.toList.reverse.dropWhile (· ≠ sep) <;> simp

/-- A text that is cut at its last separator can be put together again. -/
theorem eq_of_splitLast?_eq_some (h : splitLast? sep s = some (front, last)) :
    s = front ++ String.singleton sep ++ last ∧ sep ∉ last.toList := by
  unfold splitLast? at h
  dsimp only at h
  split at h
  · cases h
  · next c rest hdrop =>
    cases h
    constructor
    · apply String.toList_injective
      have hs := congrArg List.reverse (eq_of_dropWhile_ne hdrop)
      rw [List.reverse_reverse, List.reverse_append, List.reverse_cons] at hs
      simpa using hs
    · rw [String.toList_ofList, List.mem_reverse]
      exact notMem_takeWhile_ne

end ClassAtlas.Text
