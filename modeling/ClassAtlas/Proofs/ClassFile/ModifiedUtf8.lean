import ClassAtlas.ClassFile.ModifiedUtf8
import ClassAtlas.Proofs.Text.Codec

/-!
# The byte forms of text constants

`Spells` gives the format without a decoder: a text is spelled character by
character, each in its shortest UTF-8 form or in one of the two further forms.

Between the bytes and the text stand the code points that are decoded from the
bytes once NUL is in its plain form, surrogates included. `Points` is what the
bytes have to do with them. Putting NUL in its plain form neither makes nor
breaks a form of another code point, and the way through UTF-16 turns the code
points into the characters that have the same units. Main statement: decoding
succeeds exactly on the spellings of a text.
-/

namespace ClassAtlas.ClassFile.ModifiedUtf8

open ClassAtlas.Noted (exists_of_bind_eq_ok mapError_eq_ok_iff)
open ClassAtlas.Text (isValidChar_iff isValidChar_toNat toNat_ofNat ofPoints
  isSurrogate_iff)
open ClassAtlas.Text.Utf8 (threeBytes pointBytes pointBytes_char pointBytes_of_surrogate)
open ClassAtlas.Text.Utf16 (units units_of_lt units_of_le)

/-- The first of the two surrogates of a character. -/
def highSurrogate (c : Char) : Nat := 0xD800 + (c.toNat - 0x10000) / 1024

/-- The second of the two surrogates of a character. -/
def lowSurrogate (c : Char) : Nat := 0xDC00 + (c.toNat - 0x10000) % 1024

/-- The forms that one character may take. -/
inductive Form : Char → Bytes → Prop where
  | shortest (c : Char) : Form c (String.utf8EncodeChar c)
  | longNul : Form (Char.ofNat 0) [0xC0, 0x80]
  | surrogates {c : Char} : 0x10000 ≤ c.toNat →
      Form c (threeBytes (highSurrogate c) ++ threeBytes (lowSurrogate c))

/-- The bytes spell the characters one after the other, each in one of its forms. -/
inductive Spells : List Char → Bytes → Prop where
  | nil : Spells [] []
  | cons {c : Char} {form : Bytes} {cs : List Char} {raw : Bytes} :
      Form c form → Spells cs raw → Spells (c :: cs) (form ++ raw)

/-! ## NUL in its plain form -/

theorem plainNul_longNul (raw : Bytes) : plainNul (0xC0 :: 0x80 :: raw) = 0 :: plainNul raw := rfl

theorem plainNul_cons {b : UInt8} (hb : b ≠ 0xC0) (raw : Bytes) :
    plainNul (b :: raw) = b :: plainNul raw := by
  rw [plainNul]
  rintro rest rfl -
  exact hb rfl

theorem plainNul_append {form : Bytes} (hform : ∀ b ∈ form, b ≠ 0xC0) (raw : Bytes) :
    plainNul (form ++ raw) = form ++ plainNul raw := by
  induction form with
  | nil => rfl
  | cons b form ih =>
      rw [List.forall_mem_cons] at hform
      rw [List.cons_append, plainNul_cons hform.1, ih hform.2, List.cons_append]

theorem plainNul_eq_nil {raw : Bytes} (h : plainNul raw = []) : raw = [] := by
  unfold plainNul at h
  split at h
  · cases h
  · cases h
  · rfl

/-- Where a byte stands afterwards, the byte itself or a long NUL stood before. -/
theorem plainNul_eq_cons {raw rest : Bytes} {b : UInt8} (h : plainNul raw = b :: rest) :
    ∃ raw', plainNul raw' = rest ∧ (raw = b :: raw' ∨ b = 0 ∧ raw = 0xC0 :: 0x80 :: raw') := by
  unfold plainNul at h
  split at h
  · rename_i raw'
    obtain ⟨rfl, rfl⟩ := List.cons.inj h
    exact ⟨raw', rfl, .inr ⟨rfl, rfl⟩⟩
  · rename_i raw' _
    obtain ⟨rfl, rfl⟩ := List.cons.inj h
    exact ⟨raw', rfl, .inl rfl⟩
  · cases h

theorem plainNul_eq_append {form raw rest : Bytes} (hform : ∀ b ∈ form, b ≠ 0)
    (h : plainNul raw = form ++ rest) : ∃ raw', plainNul raw' = rest ∧ raw = form ++ raw' := by
  induction form generalizing raw with
  | nil => exact ⟨raw, h, rfl⟩
  | cons b form ih =>
      rw [List.forall_mem_cons] at hform
      obtain ⟨behind, hbehind, hraw⟩ := plainNul_eq_cons h
      obtain rfl := hraw.resolve_right fun hnul => hform.1 hnul.1
      obtain ⟨raw', hrest, rfl⟩ := ih hform.2 hbehind
      exact ⟨raw', hrest, rfl⟩

/-! ## Code points of the bytes -/

/-- The bytes are forms of the code points one after the other, surrogates included. -/
inductive Points : List Nat → Bytes → Prop where
  | nil : Points [] []
  | shortest {n : Nat} {ns : List Nat} {raw : Bytes} :
      n ≤ 0x10FFFF → Points ns raw → Points (n :: ns) (pointBytes n ++ raw)
  | longNul {ns : List Nat} {raw : Bytes} :
      Points ns raw → Points (0 :: ns) ([0xC0, 0x80] ++ raw)

/-- No shortest form holds a byte `C0`, and only that of NUL holds one that is zero. -/
theorem toNat_of_mem_pointBytes {n : Nat} (hn : n ≤ 0x10FFFF) :
    ∀ b ∈ pointBytes n, b.toNat ≠ 0xC0 ∧ (n ≠ 0 → b.toNat ≠ 0) := by
  rw [pointBytes, threeBytes]
  split
  · simp only [List.forall_mem_cons, List.not_mem_nil, false_imp_iff, implies_true, and_true,
      UInt8.toNat_ofNat']
    omega
  split
  · simp only [List.forall_mem_cons, List.not_mem_nil, false_imp_iff, implies_true, and_true,
      UInt8.toNat_ofNat']
    omega
  split
  · simp only [List.forall_mem_cons, List.not_mem_nil, false_imp_iff, implies_true, and_true,
      UInt8.toNat_ofNat']
    omega
  · simp only [List.forall_mem_cons, List.not_mem_nil, false_imp_iff, implies_true, and_true,
      UInt8.toNat_ofNat']
    omega

theorem plainNul_pointBytes_append {n : Nat} (hn : n ≤ 0x10FFFF) (raw : Bytes) :
    plainNul (pointBytes n ++ raw) = pointBytes n ++ plainNul raw :=
  plainNul_append (fun b hb heq => (toNat_of_mem_pointBytes hn b hb).1 (congrArg UInt8.toNat heq)) raw

/-- The code points of the bytes are those that are decoded once NUL is in its plain form. -/
theorem points_iff {ns : List Nat} {raw : Bytes} :
    Points ns raw ↔ plainNul raw = ns.flatMap pointBytes ∧ ∀ n ∈ ns, n ≤ 0x10FFFF := by
  constructor
  · intro h
    induction h with
    | nil => exact ⟨rfl, by simp⟩
    | shortest hn _ ih =>
        refine ⟨?_, List.forall_mem_cons.mpr ⟨hn, ih.2⟩⟩
        rw [plainNul_pointBytes_append hn, ih.1, List.flatMap_cons]
    | longNul _ ih =>
        refine ⟨?_, List.forall_mem_cons.mpr ⟨Nat.zero_le _, ih.2⟩⟩
        rw [List.cons_append, List.cons_append, List.nil_append, plainNul_longNul, ih.1]
        rfl
  · rintro ⟨h, hmax⟩
    induction ns generalizing raw with
    | nil =>
        obtain rfl := plainNul_eq_nil h
        exact .nil
    | cons n ns ih =>
        rw [List.forall_mem_cons] at hmax
        rw [List.flatMap_cons] at h
        by_cases hn : n = 0
        · subst hn
          obtain ⟨raw', hrest, hraw⟩ := plainNul_eq_cons h
          have hpoints := ih hrest hmax.2
          rcases hraw with rfl | ⟨-, rfl⟩
          · exact .shortest hmax.1 hpoints
          · exact .longNul hpoints
        · have hform : ∀ b ∈ pointBytes n, b ≠ 0 := fun b hb heq =>
            (toNat_of_mem_pointBytes hmax.1 b hb).2 hn (congrArg UInt8.toNat heq)
          obtain ⟨raw', hrest, rfl⟩ := plainNul_eq_append hform h
          exact .shortest hmax.1 (ih hrest hmax.2)

/-! ## Spellings and their code points -/

theorem units_char {c : Char} (hc : 0x10000 ≤ c.toNat) :
    units c.toNat = [highSurrogate c, lowSurrogate c] := units_of_le hc

theorem surrogates_of_char {c : Char} (hc : 0x10000 ≤ c.toNat) :
    (0xD800 ≤ highSurrogate c ∧ highSurrogate c < 0xDC00) ∧
      (0xDC00 ≤ lowSurrogate c ∧ lowSurrogate c < 0xE000) := by
  have hmax := (isValidChar_iff.mp (isValidChar_toNat c)).1
  rw [highSurrogate, lowSurrogate]
  omega

/-- A spelling has code points with the units of the characters. -/
theorem exists_points_of_spells {cs : List Char} {raw : Bytes} (h : Spells cs raw) :
    ∃ ns, Points ns raw ∧ ns.flatMap units = (cs.map Char.toNat).flatMap units := by
  induction h with
  | nil => exact ⟨[], .nil, rfl⟩
  | @cons c form cs raw hform _ ih =>
      obtain ⟨ns, hpoints, hunits⟩ := ih
      cases hform with
      | shortest =>
          refine ⟨c.toNat :: ns, ?_, by rw [List.map_cons, List.flatMap_cons, List.flatMap_cons, hunits]⟩
          rw [← pointBytes_char]
          exact .shortest (isValidChar_iff.mp (isValidChar_toNat c)).1 hpoints
      | longNul =>
          exact ⟨0 :: ns, .longNul hpoints, by rw [List.flatMap_cons, hunits]; rfl⟩
      | surrogates hc =>
          obtain ⟨hhigh, hlow⟩ := surrogates_of_char hc
          refine ⟨highSurrogate c :: lowSurrogate c :: ns, ?_, ?_⟩
          · rw [List.append_assoc, ← pointBytes_of_surrogate (isSurrogate_iff.mpr (by omega)),
              ← pointBytes_of_surrogate (isSurrogate_iff.mpr (by omega))]
            exact .shortest (by omega) (.shortest (by omega) hpoints)
          · rw [List.flatMap_cons, List.flatMap_cons, units_of_lt (by omega), units_of_lt (by omega),
              hunits, List.map_cons, List.flatMap_cons, units_char hc]
            rfl

/-- A surrogate has one form only. -/
theorem Points.surrogate {n : Nat} {ns : List Nat} {raw : Bytes} (h : Points (n :: ns) raw)
    (hlo : 0xD800 ≤ n) (hhi : n < 0xE000) : ∃ rest, raw = threeBytes n ++ rest ∧ Points ns rest := by
  cases h with
  | shortest _ hrest =>
      exact ⟨_, by rw [pointBytes_of_surrogate (isSurrogate_iff.mpr ⟨hlo, hhi⟩)], hrest⟩
  | longNul => omega

/-- A character has its shortest form and NUL the long one too. -/
theorem Points.char {c : Char} {ns : List Nat} {raw : Bytes} (h : Points (c.toNat :: ns) raw) :
    ∃ form rest, raw = form ++ rest ∧ Form c form ∧ Points ns rest := by
  generalize hn : c.toNat = n at h
  cases h with
  | @shortest _ _ rest _ hrest =>
      refine ⟨pointBytes n, rest, rfl, ?_, hrest⟩
      rw [← hn, pointBytes_char]
      exact .shortest c
  | @longNul _ rest hrest =>
      have hc : c = Char.ofNat 0 := by rw [← hn, Char.ofNat_toNat]
      exact ⟨_, rest, rfl, hc ▸ .longNul, hrest⟩

theorem eq_nil_of_flatMap_units {ns : List Nat} (h : ns.flatMap units = []) : ns = [] := by
  cases ns with
  | nil => rfl
  | cons n ns =>
      rw [List.flatMap_cons, units] at h
      split at h <;> cases h

/-- Code points whose units begin with a low surrogate begin with it: the units of a character begin
with none. -/
theorem eq_cons_of_flatMap_units_low {ns rest : List Nat} {low : Nat}
    (hmax : ∀ n ∈ ns, n ≤ 0x10FFFF) (hlow : 0xDC00 ≤ low ∧ low < 0xE000)
    (h : ns.flatMap units = low :: rest) : ∃ ns', ns = low :: ns' ∧ ns'.flatMap units = rest := by
  cases ns with
  | nil => cases h
  | cons n ns =>
      have hn := hmax n List.mem_cons_self
      rw [List.flatMap_cons] at h
      by_cases hsmall : n < 0x10000
      · rw [units_of_lt hsmall] at h
        obtain ⟨rfl, rfl⟩ := List.cons.inj h
        exact ⟨ns, rfl, rfl⟩
      · rw [units_of_le (by omega)] at h
        have heq := (List.cons.inj h).1
        omega

/-- Code points whose units begin with those of a character begin with the character itself or with
its two surrogates. -/
theorem eq_cons_of_flatMap_units {c : Char} {ns rest : List Nat} (hmax : ∀ n ∈ ns, n ≤ 0x10FFFF)
    (h : ns.flatMap units = units c.toNat ++ rest) :
    (∃ ns', ns = c.toNat :: ns' ∧ ns'.flatMap units = rest) ∨
      (0x10000 ≤ c.toNat ∧
        ∃ ns', ns = highSurrogate c :: lowSurrogate c :: ns' ∧ ns'.flatMap units = rest) := by
  obtain ⟨hchar, hgap⟩ := isValidChar_iff.mp (isValidChar_toNat c)
  cases ns with
  | nil =>
      rw [List.flatMap_nil, units] at h
      split at h <;> cases h
  | cons n ns =>
      obtain ⟨hn, hothers⟩ := List.forall_mem_cons.mp hmax
      rw [List.flatMap_cons] at h
      by_cases hsmall : n < 0x10000 <;> by_cases hc : c.toNat < 0x10000
      · rw [units_of_lt hsmall, units_of_lt hc] at h
        obtain ⟨rfl, rfl⟩ := List.cons.inj h
        exact .inl ⟨ns, rfl, rfl⟩
      · rw [units_of_lt hsmall, units_char (by omega)] at h
        have hlow := (surrogates_of_char (Nat.not_lt.mp hc)).2
        obtain ⟨rfl, hbehind⟩ := List.cons.inj h
        obtain ⟨others, rfl, hrest⟩ := eq_cons_of_flatMap_units_low hothers hlow hbehind
        exact .inr ⟨Nat.not_lt.mp hc, others, rfl, hrest⟩
      · -- the first unit of `n` is a surrogate, which a character is not
        rw [units_of_le (by omega), units_of_lt hc] at h
        have heq := (List.cons.inj h).1
        omega
      · rw [units_of_le (by omega), units_of_le (by omega)] at h
        obtain ⟨hhigh, h⟩ := List.cons.inj h
        obtain ⟨hlow, rfl⟩ := List.cons.inj h
        exact .inl ⟨ns, by rw [show n = c.toNat by omega], rfl⟩

/-- Code points with the units of characters spell them. -/
theorem spells_of_points {cs : List Char} {ns : List Nat} {raw : Bytes} (h : Points ns raw)
    (hunits : ns.flatMap units = (cs.map Char.toNat).flatMap units) : Spells cs raw := by
  induction cs generalizing ns raw with
  | nil =>
      obtain rfl := eq_nil_of_flatMap_units hunits
      cases h
      exact .nil
  | cons c cs ih =>
      rw [List.map_cons, List.flatMap_cons] at hunits
      rcases eq_cons_of_flatMap_units (points_iff.mp h).2 hunits with
        ⟨ns, rfl, hrest⟩ | ⟨hc, ns, rfl, hrest⟩
      · obtain ⟨form, raw, rfl, hform, h⟩ := h.char
        exact .cons hform (ih h hrest)
      · obtain ⟨hhigh, hlow⟩ := surrogates_of_char hc
        obtain ⟨behind, rfl, hbehind⟩ := h.surrogate (by omega) (by omega)
        obtain ⟨after, rfl, hafter⟩ := hbehind.surrogate (by omega) (by omega)
        rw [← List.append_assoc]
        exact .cons (.surrogates hc) (ih hafter hrest)

/-! ## The format -/

theorem map_toNat_map_ofNat {points : List Nat} (h : ∀ n ∈ points, n.isValidChar) :
    (points.map Char.ofNat).map Char.toNat = points := by
  rw [List.map_map]
  exact (List.map_congr_left fun n hn => toNat_ofNat (h n hn)).trans (List.map_id points)

theorem ofPoints_map_toNat (text : String) : ofPoints (text.toList.map Char.toNat) = text := by
  rw [ofPoints, List.map_map]
  have hid : text.toList.map (Char.ofNat ∘ Char.toNat) = text.toList :=
    (List.map_congr_left fun c _ => Char.ofNat_toNat c).trans (List.map_id _)
  rw [hid, String.ofList_toList]

/-- The second attempt alone reads every spelling, and nothing else. -/
theorem decodeExtended_eq_ok_iff {raw : Bytes} {text : String} :
    decodeExtended raw = .ok text ↔ Spells text.toList raw := by
  constructor
  · intro h
    obtain ⟨points, hpoints, h⟩ := exists_of_bind_eq_ok h
    obtain ⟨chars, hchars, h⟩ := exists_of_bind_eq_ok h
    cases h
    have hpoints := points_iff.mpr (Text.Utf8.decode_eq_ok_iff.mp hpoints)
    obtain ⟨hunits, hvalid⟩ :=
      (Text.Utf16.decode_encode_eq_ok_iff (points_iff.mp hpoints).2).mp hchars
    rw [ofPoints, String.toList_ofList]
    exact spells_of_points hpoints (by rw [map_toNat_map_ofNat hvalid, hunits])
  · intro h
    obtain ⟨points, hpoints, hunits⟩ := exists_points_of_spells h
    have hvalid : ∀ n ∈ text.toList.map Char.toNat, n.isValidChar := by
      intro n hn
      obtain ⟨c, -, rfl⟩ := List.mem_map.mp hn
      exact isValidChar_toNat c
    have hutf8 : Text.Utf8.decode .surrogatePass (plainNul raw) = .ok points :=
      Text.Utf8.decode_eq_ok_iff.mpr (points_iff.mp hpoints)
    have hutf16 : Text.Utf16.decode (Text.Utf16.encode points) =
        .ok (text.toList.map Char.toNat) :=
      (Text.Utf16.decode_encode_eq_ok_iff (points_iff.mp hpoints).2).mpr ⟨hunits, hvalid⟩
    calc decodeExtended raw = .ok (ofPoints (text.toList.map Char.toNat)) := by
          rw [decodeExtended, hutf8]
          show (Text.Utf16.decode (Text.Utf16.encode points) >>= fun chars => pure (ofPoints chars)) = _
          rw [hutf16]
          rfl
      _ = .ok text := by rw [ofPoints_map_toNat]

/-- Plain UTF-8 spells its text, so that the first attempt finds nothing that the second would not
find. -/
theorem decode_eq (raw : Bytes) : decode raw = (decodeExtended raw).mapError .invalidText := by
  unfold decode
  split
  · rename_i points hpoints
    obtain ⟨rfl, hvalid⟩ := Text.Utf8.decode_eq_ok_iff.mp hpoints
    have hspells : Spells (ofPoints points).toList (points.flatMap pointBytes) := by
      rw [ofPoints, String.toList_ofList]
      clear hpoints
      induction points with
      | nil => exact .nil
      | cons n points ih =>
          rw [List.forall_mem_cons] at hvalid
          have hform := Form.shortest (Char.ofNat n)
          rw [← pointBytes_char, toNat_ofNat hvalid.1] at hform
          exact .cons hform (ih hvalid.2)
    rw [decodeExtended_eq_ok_iff.mpr hspells]
    rfl
  · rfl

theorem decode_eq_ok_iff {raw : Bytes} {text : String} :
    decode raw = .ok text ↔ Spells text.toList raw := by
  rw [decode_eq, mapError_eq_ok_iff, decodeExtended_eq_ok_iff]

/-- **Decoding accepts exactly the spellings.** Bytes are decoded to a text exactly if they spell it
character by character, each in one of its forms, and they are refused exactly if they spell none. -/
theorem decode_reads_spellings (raw : Bytes) :
    (∀ text : String, decode raw = .ok text ↔ Spells text.toList raw) ∧
      ((∃ cause, decode raw = .error (.invalidText cause)) ↔
        ∀ text : String, ¬ Spells text.toList raw) := by
  refine ⟨fun text => decode_eq_ok_iff, ?_⟩
  constructor
  · rintro ⟨cause, hcause⟩ text hspells
    rw [decode_eq_ok_iff.mpr hspells] at hcause
    cases hcause
  · intro hnone
    cases hextended : decodeExtended raw with
    | ok text => exact absurd (decodeExtended_eq_ok_iff.mp hextended) (hnone text)
    | error cause => exact ⟨cause, by rw [decode_eq, hextended]; rfl⟩

-- a high surrogate does not pair with the first half of a character in its four-byte form
example : decode [0xED, 0xA0, 0xBD, 0xF0, 0x9F, 0x98, 0x80] = .error (.invalidText
    { codec := "utf-16-le", position := 2, malformed := [0x3D, 0xD8],
      reason := "illegal UTF-16 surrogate" }) := by
  cbv

-- a byte-order mark that belongs to the text stays
example : decode [0xEF, 0xBB, 0xBF, 0xC0, 0x80] = .ok "\uFEFF\x00" := by cbv

end ClassAtlas.ClassFile.ModifiedUtf8
