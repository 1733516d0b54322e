import ClassAtlas.Pattern.Parser

/-!
# Quoted characters in a pattern

Quoting puts a backslash before each character that the notation of patterns
gives a meaning, and before some that it gives none. Each lemma is one step of
reading: a quoted character gives the piece that stands for it, and `.*` a run
of any characters. The sequence that comes out is the pattern.
-/

namespace ClassAtlas.Pattern

open ClassAtlas.Text (Reader)

/-- The characters that are quoted with a backslash. -/
def quotedSigns : List Char := "()[]\x7b\x7d?*+-|^$\\.&~# \t\n\r\x0b\x0c".toList

def quotedChar (c : Char) : List Char := if c ∈ quotedSigns then ['\\', c] else [c]

/-- How the pattern is written that only the text itself matches. -/
def quote (text : String) : String := String.ofList (text.toList.flatMap quotedChar)

variable {c : Char} {fuel : Nat} {piece : Piece} {pieces : List Piece} {cs rest : List Char}

/-! ## One piece -/

/-- Only before a letter or a digit can a backslash mean something else. -/
theorem escapedItem_eq (hc : c.isAlphanum = false) : escapedItem c = pure (.char c) := by
  have hplain : (isAsciiLetter c || c.isDigit) = false := hc
  unfold escapedItem
  split
  case h_17 =>
      rw [hplain]
      rfl
  all_goals exact absurd hc (by decide)

theorem run_escape (hc : c.isAlphanum = false) : escape.run (c :: rest) = some (.char c, rest) := by
  have hnext : Reader.next.run (c :: rest) = some (some c, rest) := rfl
  rw [escape, StateT.run_bind, hnext, Option.bind_eq_bind, Option.bind_some]
  split
  case h_1 hd => exact nomatch hd
  case h_6 d _ _ _ _ hd =>
      obtain rfl := Option.some.inj hd
      rw [escapedItem_eq hc]
      rfl
  all_goals
    rename_i hd
    obtain rfl := Option.some.inj hd
    exact absurd hc (by decide)

theorem run_atom_backslash (hc : c.isAlphanum = false) :
    (atom (fuel + 1) '\\').run (c :: rest) = some (⟨.char c, true⟩, rest) := by
  have hread : (atom (fuel + 1) '\\').run (c :: rest) =
      (escape.run (c :: rest)).bind fun r => some (.ofPattern r.1, r.2) := by
    rw [atom]
    rfl
  rw [hread, run_escape hc]
  rfl

theorem run_atom_char (hc : c ∉ quotedSigns) :
    (atom (fuel + 1) c).run rest = some (⟨.char c, true⟩, rest) := by
  rw [atom]
  · rfl
  all_goals
    rintro rfl
    exact hc (by decide)

/-! ## One step of a sequence -/

theorem run_sequence_nil : (sequence (fuel + 1) pieces).run [] = some (pieces, []) := by
  rw [sequence]
  rfl

theorem run_sequence_atom (hcount : isCountSign c = false) (hbar : c ≠ '|') (hclose : c ≠ ')')
    (hatom : (atom fuel c).run cs = some (piece, rest)) :
    (sequence (fuel + 1) pieces).run (c :: cs) = (sequence fuel (piece :: pieces)).run rest := by
  have hpeek : Reader.peek.run (c :: cs) = some (some c, c :: cs) := rfl
  have hnext : Reader.next.run (c :: cs) = some (some c, cs) := rfl
  rw [sequence, StateT.run_bind, hpeek, Option.bind_eq_bind, Option.bind_some]
  split
  case h_1 hd => exact nomatch hd
  case h_2 hd => exact absurd (Option.some.inj hd) hbar
  case h_3 hd => exact absurd (Option.some.inj hd) hclose
  case h_4 d _ _ hd =>
      obtain rfl := Option.some.inj hd
      rw [StateT.run_bind, hnext, Option.bind_eq_bind, Option.bind_some, hcount,
        if_neg Bool.false_ne_true, StateT.run_bind, hatom, Option.bind_eq_bind, Option.bind_some]

/-- A star repeats the piece before it. A question mark behind it would be read as well. -/
theorem run_sequence_star {p : Pattern} (hrest : rest.head? ≠ some '?') :
    (sequence (fuel + 1) (⟨p, true⟩ :: pieces)).run ('*' :: rest) =
      (sequence fuel (⟨.rep p 0 none, false⟩ :: pieces)).run rest := by
  have hread : (sequence (fuel + 1) (⟨p, true⟩ :: pieces)).run ('*' :: rest) =
      ((Reader.accept '?').run rest).bind fun r =>
        (sequence fuel (⟨.rep p 0 none, false⟩ :: pieces)).run r.2 := by
    rw [sequence]
    rfl
  have haccept : (Reader.accept '?').run rest = some (false, rest) := by
    cases rest with
    | nil => rfl
    | cons c rest => exact if_neg fun h => hrest (congrArg some h.symm)
  rw [hread, haccept]
  rfl

theorem run_sequence_anyRun (hrest : rest.head? ≠ some '?') :
    (sequence (fuel + 3) pieces).run ('.' :: '*' :: rest) =
      (sequence (fuel + 1) (⟨.rep .any 0 none, false⟩ :: pieces)).run rest := by
  have hdot : (atom (fuel + 2) '.').run ('*' :: rest) = some (⟨.any, true⟩, '*' :: rest) := by
    rw [atom]
    rfl
  rw [run_sequence_atom (by decide) (by decide) (by decide) hdot, run_sequence_star hrest]

theorem mem_quotedSigns_of_isCountSign (hc : isCountSign c = true) : c ∈ quotedSigns := by
  have hsigns : "*+?\x7b".toList.all quotedSigns.contains = true := by decide
  exact List.contains_iff_mem.mp (List.all_eq_true.mp hsigns c (List.contains_iff_mem.mp hc))

/-- **A quoted character is read as itself.** -/
theorem run_sequence_quotedChar : (sequence (fuel + 2) pieces).run (quotedChar c ++ rest) =
    (sequence (fuel + 1) (⟨.char c, true⟩ :: pieces)).run rest := by
  unfold quotedChar
  split
  case isTrue hc =>
      have hsigns : quotedSigns.any Char.isAlphanum = false := by decide
      have hplain : c.isAlphanum = false := by simpa using List.any_eq_false.mp hsigns c hc
      exact run_sequence_atom (by decide) (by decide) (by decide) (run_atom_backslash hplain)
  case isFalse hc =>
      refine run_sequence_atom ?_ ?_ ?_ (run_atom_char hc)
      · exact Bool.eq_false_iff.mpr fun hcount => hc (mem_quotedSigns_of_isCountSign hcount)
      · rintro rfl
        exact hc (by decide)
      · rintro rfl
        exact hc (by decide)

theorem head?_quotedChar_append_ne : (quotedChar c ++ rest).head? ≠ some '?' := by
  unfold quotedChar
  split
  case isTrue => simp
  case isFalse hc =>
      intro hhead
      obtain rfl := Option.some.inj hhead
      exact hc (by decide)

/-! ## The whole text -/

theorem joinPieces_concat :
    joinPieces (pieces ++ [piece]) = .seq piece.pattern (joinPieces pieces) := by
  rw [joinPieces, List.foldl_append]
  rfl

/-- A sequence that takes the whole text is the pattern. -/
theorem parse?_of_sequence {text : String}
    (hread : (sequence (3 * text.toList.length + 2) []).run text.toList = some (pieces, [])) :
    parse? text = some (joinPieces pieces) := by
  have halternatives : (alternatives (3 * text.toList.length + 3)).run text.toList =
      some (joinPieces pieces, []) := by
    rw [alternatives, StateT.run_bind, hread]
    rfl
  rw [parse?, halternatives]

end ClassAtlas.Pattern
