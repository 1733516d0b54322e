import ClassAtlas.Endpoint.Detect
import ClassAtlas.Proofs.Pattern.Match
import ClassAtlas.Proofs.Pattern.Quoted

/-!
# Paths that fit a pattern

A pattern becomes a path when each of its stars is replaced by a text without a
line break; the replacements need not be the same. All other characters stand
for themselves. Matching tries, at each star, to leave it empty and to give it
one more character.

The same search can be written in the notation of patterns for names: `.*` for
each star, and the parts between the stars quoted. It can always be read, and
it finds the same paths.

Main statement: `withPath_fits`.
-/

namespace ClassAtlas

namespace Path

open ClassAtlas.Text (Points)

/-- The pattern with its stars replaced, in order. -/
def substitute : (pattern : List Char) → (fillings : List Points) → Points
  | [], _ => []
  | '*' :: pattern, fillings => fillings.headD [] ++ substitute pattern fillings.tail
  | c :: pattern, fillings => c.toNat :: substitute pattern fillings

/-- The text is the pattern with a text without line break for each star. -/
def Fits (pattern : List Char) (text : Points) : Prop :=
  ∃ fillings : List Points, fillings.length = pattern.count '*' ∧
    (∀ w ∈ fillings, '\n'.toNat ∉ w) ∧ substitute pattern fillings = text

section Fits

variable {pattern : List Char} {text : Points} {c : Char} {n : Nat}

theorem fits_nil_iff : Fits [] text ↔ text = [] := by
  constructor
  · rintro ⟨fillings, -, -, rfl⟩
    rfl
  · rintro rfl
    exact ⟨[], rfl, by simp, rfl⟩

theorem substitute_cons (hc : c ≠ '*') (pattern : List Char) (fillings : List Points) :
    substitute (c :: pattern) fillings = c.toNat :: substitute pattern fillings := by
  rw [substitute]
  exact hc

/-- A star stands for the beginning of the text, up to a place before the first line break. -/
theorem fits_star_iff :
    Fits ('*' :: pattern) text ↔ ∃ w rest, '\n'.toNat ∉ w ∧ text = w ++ rest ∧ Fits pattern rest := by
  constructor
  · rintro ⟨fillings, hlength, hfillings, rfl⟩
    rw [List.count_cons_self] at hlength
    obtain ⟨w, fillings, rfl⟩ := List.exists_cons_of_length_eq_add_one hlength
    obtain ⟨hw, hrest⟩ := List.forall_mem_cons.mp hfillings
    exact ⟨w, _, hw, rfl, fillings, Nat.succ.inj hlength, hrest, rfl⟩
  · rintro ⟨w, _, hw, rfl, fillings, hlength, hfillings, rfl⟩
    refine ⟨w :: fillings, ?_, List.forall_mem_cons.mpr ⟨hw, hfillings⟩, rfl⟩
    rw [List.count_cons_self, List.length_cons, hlength]

theorem fits_char_iff (hc : c ≠ '*') :
    Fits (c :: pattern) text ↔ ∃ rest, text = c.toNat :: rest ∧ Fits pattern rest := by
  constructor
  · rintro ⟨fillings, hlength, hfillings, rfl⟩
    rw [List.count_cons_of_ne hc] at hlength
    exact ⟨_, substitute_cons hc pattern fillings, fillings, hlength, hfillings, rfl⟩
  · rintro ⟨_, rfl, fillings, hlength, hfillings, rfl⟩
    refine ⟨fillings, ?_, hfillings, substitute_cons hc pattern fillings⟩
    rw [List.count_cons_of_ne hc, hlength]

/-- A star is left empty, or takes one more character. -/
theorem fits_star_cons_iff : Fits ('*' :: pattern) (n :: text) ↔
    Fits pattern (n :: text) ∨ n ≠ '\n'.toNat ∧ Fits ('*' :: pattern) text := by
  rw [fits_star_iff, fits_star_iff]
  constructor
  · rintro ⟨w, rest, hw, htext, hrest⟩
    cases w with
    | nil =>
        rw [htext]
        exact .inl hrest
    | cons d w =>
        obtain ⟨rfl, rfl⟩ := List.cons.inj htext
        rw [List.mem_cons, not_or] at hw
        exact .inr ⟨Ne.symm hw.1, w, rest, hw.2, rfl, hrest⟩
  · rintro (hfits | ⟨hc, w, rest, hw, rfl, hrest⟩)
    · exact ⟨[], n :: text, List.not_mem_nil, rfl, hfits⟩
    · refine ⟨n :: w, rest, ?_, rfl, hrest⟩
      rw [List.mem_cons, not_or]
      exact ⟨Ne.symm hc, hw⟩

theorem fits_star_nil_iff : Fits ('*' :: pattern) [] ↔ Fits pattern [] := by
  rw [fits_star_iff]
  constructor
  · rintro ⟨w, rest, -, htext, hrest⟩
    obtain ⟨-, rfl⟩ := List.append_eq_nil_iff.mp htext.symm
    exact hrest
  · exact fun hfits => ⟨[], [], List.not_mem_nil, rfl, hfits⟩

end Fits

/-- **Matching finds out whether stars can be replaced so that the text results.** -/
theorem wildcardMatch_iff (pattern : List Char) (text : Points) :
    wildcardMatch pattern text = true ↔ Fits pattern text := by
  fun_induction wildcardMatch pattern text with
  | case1 text => rw [List.isEmpty_iff, fits_nil_iff]
  | case2 pattern ih => rw [ih, fits_star_nil_iff]
  | case3 pattern c text ih_empty ih_longer =>
      rw [Bool.or_eq_true, Bool.and_eq_true, bne_iff_ne, ih_empty, ih_longer, fits_star_cons_iff]
  | case4 p pattern hp =>
      rw [fits_char_iff (by simpa using hp)]
      simp
  | case5 p pattern c text hp ih =>
      rw [Bool.and_eq_true, beq_iff_eq, ih, fits_char_iff (by simpa using hp)]
      constructor
      · rintro ⟨rfl, hfits⟩
        exact ⟨text, rfl, hfits⟩
      · rintro ⟨rest, htext, hfits⟩
        obtain ⟨rfl, rfl⟩ := List.cons.inj htext
        exact ⟨rfl, hfits⟩

instance (pattern : List Char) (text : Points) : Decidable (Fits pattern text) :=
  decidable_of_iff _ (wildcardMatch_iff pattern text)

/-! ## The pattern in the notation of patterns for names -/

/-- The parts between the stars quoted, with `.*` for each star. -/
def expression (pattern : String) : String :=
  ".*".intercalate ((Text.splitAll '*' pattern).map Pattern.quote)

/-- How one character of the pattern is written. -/
def sign (c : Char) : List Char := if c = '*' then ['.', '*'] else Pattern.quotedChar c

/-- What one character of the pattern is read as. -/
def piece (c : Char) : Pattern.Piece :=
  if c = '*' then ⟨.rep .any 0 none, false⟩ else ⟨.char c, true⟩

theorem splitChars_ne_nil (sep : Char) (cs : List Char) : Text.splitChars sep cs ≠ [] := by
  fun_cases Text.splitChars sep cs <;> simp

theorem intercalate_splitChars (cs : List Char) :
    ['.', '*'].intercalate ((Text.splitChars '*' cs).map (·.flatMap Pattern.quotedChar)) =
      cs.flatMap sign := by
  induction cs with
  | nil => rfl
  | cons c cs ih =>
      rw [List.flatMap_cons, ← ih, Text.splitChars, sign]
      split
      case isTrue =>
        have hparts : (Text.splitChars '*' cs).map (·.flatMap Pattern.quotedChar) ≠ [] :=
          fun h => splitChars_ne_nil '*' cs (List.map_eq_nil_iff.mp h)
        rw [List.map_cons, List.flatMap_nil, List.intercalate_cons_of_ne_nil hparts,
          List.nil_append]
      case isFalse =>
        split
        case h_1 h => exact absurd h (splitChars_ne_nil '*' cs)
        case h_2 part parts h =>
          rw [h, List.map_cons, List.map_cons, List.flatMap_cons, Pattern.quotedChar]
          split <;> simp only [List.cons_append, List.nil_append, List.intercalate_cons_cons_left]

theorem toList_expression (pattern : String) :
    (expression pattern).toList = pattern.toList.flatMap sign := by
  rw [← intercalate_splitChars, expression, String.toList_intercalate, Text.splitAll]
  simp [Pattern.quote, Function.comp_def]

theorem length_le_length_signs (cs : List Char) : cs.length ≤ (cs.flatMap sign).length := by
  induction cs with
  | nil => exact Nat.le_refl 0
  | cons c cs ih =>
      have hsign : 1 ≤ (sign c).length := by
        unfold sign Pattern.quotedChar
        split
        · decide
        · split <;> simp
      rw [List.flatMap_cons, List.length_append, List.length_cons]
      omega

theorem head?_signs_ne (cs : List Char) : (cs.flatMap sign).head? ≠ some '?' := by
  cases cs with
  | nil => simp
  | cons c cs =>
      rw [List.flatMap_cons, sign]
      split
      · simp
      · exact Pattern.head?_quotedChar_append_ne

/-- Each sign is read as one piece; a star takes two steps. -/
theorem run_sequence_signs {fuel : Nat} (cs : List Char) (pieces : List Pattern.Piece)
    (hfuel : 2 * cs.length < fuel) :
    (Pattern.sequence fuel pieces).run (cs.flatMap sign) =
      some ((cs.map piece).reverse ++ pieces, []) := by
  induction cs generalizing fuel pieces with
  | nil =>
      obtain ⟨fuel, rfl⟩ := Nat.exists_eq_add_one.mpr hfuel
      exact Pattern.run_sequence_nil
  | cons c cs ih =>
      rw [List.length_cons] at hfuel
      obtain ⟨fuel, rfl⟩ := Nat.exists_eq_add_of_le' (show 3 ≤ fuel by omega)
      rw [List.flatMap_cons, List.map_cons, List.reverse_cons, List.append_assoc, sign, piece]
      split
      case isTrue =>
        rw [List.cons_append, List.cons_append, List.nil_append,
          Pattern.run_sequence_anyRun (head?_signs_ne cs), ih _ (by omega)]
        rfl
      case isFalse =>
        rw [Pattern.run_sequence_quotedChar, ih _ (by omega)]
        rfl

theorem parse?_expression (pattern : String) : Pattern.parse? (expression pattern) =
    some (Pattern.joinPieces (pattern.toList.map piece).reverse) := by
  apply Pattern.parse?_of_sequence
  have hlength := length_le_length_signs pattern.toList
  rw [toList_expression, run_sequence_signs _ _ (by omega), List.append_nil]

/-- From any place on, the pieces match the rest of the text exactly if it fits. -/
theorem mem_ends_iff (pattern : List Char) (before text : Points) :
    (before ++ text).length ∈ Pattern.ends (before ++ text).toArray
      (Pattern.joinPieces (pattern.map piece).reverse) before.length ↔ Fits pattern text := by
  induction pattern generalizing before text with
  | nil =>
      rw [fits_nil_iff]
      show (before ++ text).length ∈ [before.length] ↔ text = []
      simp
  | cons c pattern ih =>
      rw [List.map_cons, List.reverse_cons, Pattern.joinPieces_concat, Pattern.ends,
        Pattern.mem_image_iff, piece]
      split
      case isTrue hc =>
        rw [hc, fits_star_iff]
        constructor
        · rintro ⟨j, hj, hend⟩
          obtain ⟨w, rest, rfl, hw, rfl⟩ := Pattern.mem_ends_anyRun_iff.mp hj
          rw [← List.append_assoc] at hend
          exact ⟨w, rest, hw, rfl, (ih _ _).mp hend⟩
        · rintro ⟨w, rest, hw, rfl, hfits⟩
          refine ⟨_, Pattern.mem_ends_anyRun_iff.mpr ⟨w, rest, rfl, hw, rfl⟩, ?_⟩
          rw [← List.append_assoc]
          exact (ih _ _).mpr hfits
      case isFalse hc =>
        rw [fits_char_iff hc]
        constructor
        · rintro ⟨j, hj, hend⟩
          obtain ⟨d, rest, rfl, hd, rfl⟩ := Pattern.mem_oneChar_iff.mp hj
          obtain rfl := beq_iff_eq.mp hd
          rw [List.append_cons] at hend
          exact ⟨rest, rfl, (ih _ _).mp hend⟩
        · rintro ⟨rest, rfl, hfits⟩
          refine ⟨_, Pattern.mem_oneChar_iff.mpr ⟨c.toNat, rest, rfl, beq_self_eq_true c.toNat, rfl⟩, ?_⟩
          rw [List.append_cons]
          exact (ih _ _).mpr hfits

theorem matchesWhole_iff (pattern : List Char) (text : Points) :
    (Pattern.joinPieces (pattern.map piece).reverse).matchesWhole text = true ↔
      Fits pattern text := by
  rw [← mem_ends_iff pattern [] text, Pattern.matchesWhole, List.contains_iff_mem]
  rfl

end Path

/-- **A search by pattern is exact.** It finds the paths that the pattern can become, in their
order, and these are the paths that the expression matches. -/
theorem Endpoint.withPath_fits (pattern : String) (endpoints : List Endpoint) :
    withPath pattern endpoints =
        endpoints.filter (fun e => Path.Fits pattern.toList e.path) ∧
      ∃ p : Pattern, Pattern.parse? (Path.expression pattern) = some p ∧
        withPath pattern endpoints = endpoints.filter fun e => p.matchesWhole e.path := by
  refine ⟨?_, _, Path.parse?_expression pattern, ?_⟩
  · apply List.filter_congr
    intro e _
    rw [Bool.eq_iff_iff, Path.wildcardMatch_iff, decide_eq_true_iff]
  · apply List.filter_congr
    intro e _
    rw [Bool.eq_iff_iff, Path.wildcardMatch_iff, Path.matchesWhole_iff]

end ClassAtlas
