import ClassAtlas.Proofs.Notices
import ClassAtlas.Text.Codec

/-!
# What the codecs accept

A code point has one form in UTF-8 (`pointBytes`) and one in UTF-16
(`Utf16.units`). The decoders invert them: for each the statement about one code
point at the front gives by induction the one about the whole input, which is
accepted exactly if it is made up of forms of code points that the handler
allows.
-/

namespace ClassAtlas.Text

open ClassAtlas.Noted (map_eq_ok_iff mapError_eq_ok_iff)

/-! ## Code points -/

theorem isHighSurrogate_iff {n : Nat} : isHighSurrogate n = true ↔ 0xD800 ≤ n ∧ n < 0xDC00 := by
  simp [isHighSurrogate]

theorem isLowSurrogate_iff {n : Nat} : isLowSurrogate n = true ↔ 0xDC00 ≤ n ∧ n < 0xE000 := by
  simp [isLowSurrogate]

theorem isSurrogate_iff {n : Nat} : isSurrogate n = true ↔ 0xD800 ≤ n ∧ n < 0xE000 := by
  rw [isSurrogate, Bool.or_eq_true, isHighSurrogate_iff, isLowSurrogate_iff]
  omega

theorem isValidChar_iff {n : Nat} :
    n.isValidChar ↔ n ≤ 0x10FFFF ∧ (n < 0xD800 ∨ 0xDFFF < n) := by
  simp only [Nat.isValidChar]
  omega

theorem isValidChar_toNat (c : Char) : c.toNat.isValidChar := c.valid

theorem toNat_ofNat {n : Nat} (h : n.isValidChar) : (Char.ofNat n).toNat = n := by
  rw [Char.ofNat, dif_pos h]
  rfl

/-- The code points that a codec takes. -/
def Handler.Accepts (handler : Handler) (n : Nat) : Prop :=
  match handler with
  | .strict => n.isValidChar
  | .surrogatePass => n ≤ 0x10FFFF

theorem Handler.accepts_of_isValidChar {n : Nat} (h : n.isValidChar) (handler : Handler) :
    handler.Accepts n := by
  cases handler with
  | strict => exact h
  | surrogatePass => exact (isValidChar_iff.mp h).1

/-! ## Forms of UTF-8 -/

namespace Utf8

/-- The three-byte form of a number below `10000`; surrogates have one too. -/
def threeBytes (n : Nat) : List UInt8 :=
  [UInt8.ofNat (n / 4096 % 16 + 0xE0), UInt8.ofNat (n / 64 % 64 + 0x80), UInt8.ofNat (n % 64 + 0x80)]

/-- The shortest form of a number; surrogates have one too. -/
def pointBytes (n : Nat) : List UInt8 :=
  if n < 0x80 then [UInt8.ofNat n]
  else if n < 0x800 then [UInt8.ofNat (n / 64 % 32 + 0xC0), UInt8.ofNat (n % 64 + 0x80)]
  else if n < 0x10000 then threeBytes n
  else [UInt8.ofNat (n / 262144 % 8 + 0xF0), UInt8.ofNat (n / 4096 % 64 + 0x80),
    UInt8.ofNat (n / 64 % 64 + 0x80), UInt8.ofNat (n % 64 + 0x80)]

theorem pointBytes_char (c : Char) : pointBytes c.toNat = String.utf8EncodeChar c := by
  simp only [pointBytes, threeBytes, String.utf8EncodeChar, Char.toNat_val, Nat.lt_iff_add_one_le,
    Nat.reduceLeDiff]

theorem pointBytes_of_surrogate {n : Nat} (h : isSurrogate n = true) :
    pointBytes n = threeBytes n := by
  rw [isSurrogate_iff] at h
  rw [pointBytes, if_neg (by omega), if_neg (by omega), if_pos (by omega)]

/-! ### Bytes -/

theorem isContinuation_iff {b : UInt8} :
    isContinuation b = true ↔ 0x80 ≤ b.toNat ∧ b.toNat < 0xC0 := by
  simp [isContinuation, UInt8.le_iff_toNat_le, UInt8.lt_iff_toNat_lt]

theorem payload_lt (b : UInt8) : payload b < 64 := Nat.mod_lt _ (by decide)

theorem maySecond_iff {lead b : UInt8} :
    maySecond lead b = true ↔ isContinuation b = true ∧ (lead.toNat = 0xE0 → 0x20 ≤ payload b) ∧
      (lead.toNat = 0xED → payload b < 0x20) ∧ (lead.toNat = 0xF0 → 0x10 ≤ payload b) ∧
      (lead.toNat = 0xF4 → payload b < 0x10) := by
  have hlead : ∀ k : UInt8, lead = k ↔ lead.toNat = k.toNat := fun k => UInt8.toNat_inj.symm
  by_cases hb : isContinuation b = true
  · have hbounds := isContinuation_iff.mp hb
    simp only [maySecond, hb, payload, Bool.true_and, Bool.and_eq_true, Bool.or_eq_true,
      bne_iff_ne, ne_eq, hlead, decide_eq_true_eq, UInt8.le_iff_toNat_le, UInt8.lt_iff_toNat_lt,
      UInt8.reduceToNat, true_and]
    omega
  · simp [maySecond, hb]

/-- A continuation byte with six given payload bits. -/
theorem continuation_ofNat (n : Nat) :
    isContinuation (UInt8.ofNat (n % 64 + 0x80)) = true ∧
      payload (UInt8.ofNat (n % 64 + 0x80)) = n % 64 := by
  have hnat : (UInt8.ofNat (n % 64 + 0x80)).toNat = n % 64 + 0x80 := by
    rw [UInt8.toNat_ofNat']
    omega
  rw [isContinuation_iff, payload, hnat]
  omega

/-- A continuation byte is known by its payload. -/
theorem ofNat_payload {b : UInt8} (hb : isContinuation b = true) {n : Nat}
    (hn : n % 64 = payload b) : UInt8.ofNat (n % 64 + 0x80) = b := by
  rw [isContinuation_iff] at hb
  rw [UInt8.ofNat_eq_iff_mod_eq_toNat, hn, payload]
  omega

theorem pointBytes_two {a b : UInt8} (ha : 0xC2 ≤ a.toNat) (ha' : a.toNat < 0xE0)
    (hb : isContinuation b = true) : pointBytes (a.toNat % 32 * 64 + payload b) = [a, b] := by
  have hpayload := payload_lt b
  have hlead : UInt8.ofNat ((a.toNat % 32 * 64 + payload b) / 64 % 32 + 0xC0) = a := by
    rw [UInt8.ofNat_eq_iff_mod_eq_toNat]
    omega
  rw [pointBytes, if_neg (by omega), if_pos (by omega), hlead, ofNat_payload hb (by omega)]

theorem pointBytes_three {a b c : UInt8} (ha : 0xE0 ≤ a.toNat) (ha' : a.toNat < 0xF0)
    (hb : isContinuation b = true) (hc : isContinuation c = true)
    (hn : a.toNat = 0xE0 → 0x20 ≤ payload b) :
    pointBytes ((a.toNat % 16 * 64 + payload b) * 64 + payload c) = [a, b, c] := by
  have hpayload := payload_lt b
  have hpayload' := payload_lt c
  have hlead : UInt8.ofNat
      (((a.toNat % 16 * 64 + payload b) * 64 + payload c) / 4096 % 16 + 0xE0) = a := by
    rw [UInt8.ofNat_eq_iff_mod_eq_toNat]
    omega
  rw [pointBytes, if_neg (by omega), if_neg (by omega), if_pos (by omega), threeBytes, hlead,
    ofNat_payload hb (by omega), ofNat_payload hc (by omega)]

theorem pointBytes_four {a b c d : UInt8} (ha : 0xF0 ≤ a.toNat) (ha' : a.toNat < 0xF8)
    (hb : isContinuation b = true) (hc : isContinuation c = true) (hd : isContinuation d = true)
    (hn : a.toNat = 0xF0 → 0x10 ≤ payload b) :
    pointBytes (((a.toNat % 8 * 64 + payload b) * 64 + payload c) * 64 + payload d) =
      [a, b, c, d] := by
  have hpayload := payload_lt b
  have hpayload' := payload_lt c
  have hpayload'' := payload_lt d
  have hlead : UInt8.ofNat ((((a.toNat % 8 * 64 + payload b) * 64 + payload c) * 64 +
      payload d) / 262144 % 8 + 0xF0) = a := by
    rw [UInt8.ofNat_eq_iff_mod_eq_toNat]
    omega
  rw [pointBytes, if_neg (by omega), if_neg (by omega), if_neg (by omega), hlead,
    ofNat_payload hb (by omega), ofNat_payload hc (by omega), ofNat_payload hd (by omega)]

/-! ### One code point -/

theorem readTail_zero_eq_ok_iff {input behind : List UInt8} {fits : UInt8 → Bool}
    {taken n m width : Nat} :
    readTail input fits 0 taken n behind = .ok (m, width) ↔ n = m ∧ taken = width := by
  simp [readTail]

theorem readTail_succ_eq_ok_iff {input behind : List UInt8} {fits : UInt8 → Bool}
    {lacking taken n m width : Nat} :
    readTail input fits (lacking + 1) taken n behind = .ok (m, width) ↔
      ∃ b rest, behind = b :: rest ∧ fits b = true ∧
        readTail input isContinuation lacking (taken + 1) (n * 64 + payload b) rest =
          .ok (m, width) := by
  cases behind with
  | nil => simp [readTail]
  | cons b behind =>
      rw [readTail]
      constructor
      · intro h
        split at h
        · exact ⟨b, behind, rfl, ‹_›, h⟩
        · cases h
      · rintro ⟨_, _, ⟨⟩, hb, h⟩
        rw [if_pos hb]
        exact h

theorem front_eq (lead : UInt8) (behind : List UInt8) :
    front lead behind =
      if lead.toNat < 0x80 then .ok (lead.toNat, 1)
      else if lead.toNat < 0xC2 then .error ⟨lead :: behind, 1, "invalid start byte"⟩
      else if lead.toNat < 0xE0 then
        readTail (lead :: behind) (maySecond lead) 1 1 (lead.toNat % 32) behind
      else if lead.toNat < 0xF0 then
        readTail (lead :: behind) (maySecond lead) 2 1 (lead.toNat % 16) behind
      else if lead.toNat < 0xF5 then
        readTail (lead :: behind) (maySecond lead) 3 1 (lead.toNat % 8) behind
      else .error ⟨lead :: behind, 1, "invalid start byte"⟩ := by
  simp only [front, UInt8.lt_iff_toNat_lt, UInt8.reduceToNat]

/-- What is read at the front is the form of a character. -/
theorem eq_pointBytes_of_front {lead : UInt8} {behind : List UInt8} {n width : Nat}
    (h : front lead behind = .ok (n, width)) :
    lead :: behind = pointBytes n ++ behind.drop (width - 1) ∧ n.isValidChar := by
  rw [front_eq] at h
  rw [isValidChar_iff]
  split at h
  · cases h
    rw [pointBytes, if_pos ‹_›, UInt8.ofNat_toNat]
    exact ⟨rfl, by omega⟩
  split at h
  · cases h
  split at h
  · obtain ⟨b, behind, rfl, hb, h⟩ := readTail_succ_eq_ok_iff.mp h
    obtain ⟨rfl, rfl⟩ := readTail_zero_eq_ok_iff.mp h
    obtain ⟨hb, -⟩ := maySecond_iff.mp hb
    have hpayload := payload_lt b
    rw [pointBytes_two (by omega) (by omega) hb]
    exact ⟨rfl, by omega⟩
  split at h
  · obtain ⟨b, behind, rfl, hb, h⟩ := readTail_succ_eq_ok_iff.mp h
    obtain ⟨c, behind, rfl, hc, h⟩ := readTail_succ_eq_ok_iff.mp h
    obtain ⟨rfl, rfl⟩ := readTail_zero_eq_ok_iff.mp h
    obtain ⟨hb, hmin, hgap, -⟩ := maySecond_iff.mp hb
    have hpayload := payload_lt b
    have hpayload' := payload_lt c
    rw [pointBytes_three (by omega) (by omega) hb hc hmin]
    exact ⟨rfl, by omega⟩
  split at h
  · obtain ⟨b, behind, rfl, hb, h⟩ := readTail_succ_eq_ok_iff.mp h
    obtain ⟨c, behind, rfl, hc, h⟩ := readTail_succ_eq_ok_iff.mp h
    obtain ⟨d, behind, rfl, hd, h⟩ := readTail_succ_eq_ok_iff.mp h
    obtain ⟨rfl, rfl⟩ := readTail_zero_eq_ok_iff.mp h
    obtain ⟨hb, -, -, hmin, hmax⟩ := maySecond_iff.mp hb
    have hpayload := payload_lt b
    have hpayload' := payload_lt c
    have hpayload'' := payload_lt d
    rw [pointBytes_four (by omega) (by omega) hb hc hd hmin]
    exact ⟨rfl, by omega⟩
  · cases h

/-- The form of a character is read back. -/
theorem front_pointBytes {n : Nat} (h : n.isValidChar) (rest : List UInt8) :
    ∃ lead behind width, pointBytes n ++ rest = lead :: behind ∧
      front lead behind = .ok (n, width) ∧ behind.drop (width - 1) = rest := by
  rw [isValidChar_iff] at h
  obtain ⟨hb, hb'⟩ := continuation_ofNat (n / 4096)
  obtain ⟨hc, hc'⟩ := continuation_ofNat (n / 64)
  obtain ⟨hd, hd'⟩ := continuation_ofNat n
  rw [pointBytes]
  split
  · have hlead : (UInt8.ofNat n).toNat = n := by
      rw [UInt8.toNat_ofNat']
      omega
    refine ⟨_, _, 1, rfl, ?_, rfl⟩
    rw [front_eq, hlead, if_pos (by omega)]
  split
  · have hlead : (UInt8.ofNat (n / 64 % 32 + 0xC0)).toNat = n / 64 % 32 + 0xC0 := by
      rw [UInt8.toNat_ofNat']
      omega
    refine ⟨_, _, 2, rfl, ?_, rfl⟩
    rw [front_eq, hlead, if_neg (by omega), if_neg (by omega), if_pos (by omega)]
    refine readTail_succ_eq_ok_iff.mpr ⟨_, _, rfl, maySecond_iff.mpr ⟨hd, by omega⟩, ?_⟩
    exact readTail_zero_eq_ok_iff.mpr ⟨by omega, rfl⟩
  split
  · have hlead : (UInt8.ofNat (n / 4096 % 16 + 0xE0)).toNat = n / 4096 % 16 + 0xE0 := by
      rw [UInt8.toNat_ofNat']
      omega
    refine ⟨_, _, 3, rfl, ?_, rfl⟩
    rw [front_eq, hlead, if_neg (by omega), if_neg (by omega), if_neg (by omega), if_pos (by omega)]
    refine readTail_succ_eq_ok_iff.mpr ⟨_, _, rfl, maySecond_iff.mpr ⟨hc, by omega⟩, ?_⟩
    refine readTail_succ_eq_ok_iff.mpr ⟨_, _, rfl, hd, ?_⟩
    exact readTail_zero_eq_ok_iff.mpr ⟨by omega, rfl⟩
  · have hlead : (UInt8.ofNat (n / 262144 % 8 + 0xF0)).toNat = n / 262144 % 8 + 0xF0 := by
      rw [UInt8.toNat_ofNat']
      omega
    refine ⟨_, _, 4, rfl, ?_, rfl⟩
    rw [front_eq, hlead, if_neg (by omega), if_neg (by omega), if_neg (by omega), if_neg (by omega),
      if_pos (by omega)]
    refine readTail_succ_eq_ok_iff.mpr ⟨_, _, rfl, maySecond_iff.mpr ⟨hb, by omega⟩, ?_⟩
    refine readTail_succ_eq_ok_iff.mpr ⟨_, _, rfl, hc, ?_⟩
    refine readTail_succ_eq_ok_iff.mpr ⟨_, _, rfl, hd, ?_⟩
    exact readTail_zero_eq_ok_iff.mpr ⟨by omega, rfl⟩

/-- The form of a surrogate is no form of a character. -/
theorem front_of_surrogate {n : Nat} (h : isSurrogate n = true) {lead : UInt8}
    {behind rest : List UInt8} (hform : threeBytes n ++ rest = lead :: behind) :
    ∃ m, front lead behind = .error m := by
  cases hfront : front lead behind with
  | error m => exact ⟨m, rfl⟩
  | ok found =>
      -- the lead of a surrogate is `ED`, and `ED` wants a lesser byte behind it
      obtain ⟨hlead, hbehind⟩ := List.cons.inj hform
      rw [isSurrogate_iff] at h
      have hlead : lead.toNat = 0xED := by
        rw [← hlead, UInt8.toNat_ofNat']
        omega
      rw [front_eq, hlead] at hfront
      obtain ⟨b, behind', hcons, hfit, -⟩ := readTail_succ_eq_ok_iff.mp hfront
      rw [hcons] at hbehind
      obtain ⟨hb, -⟩ := List.cons.inj hbehind
      have hpayload := (maySecond_iff.mp hfit).2.2.1 hlead
      rw [← hb, (continuation_ofNat (n / 64)).2] at hpayload
      omega

theorem eq_threeBytes_of_surrogate? {data : List UInt8} {n : Nat} (h : surrogate? data = some n) :
    data = threeBytes n ++ data.drop 3 ∧ isSurrogate n = true := by
  unfold surrogate? at h
  split at h
  · rename_i a b c rest
    dsimp only at h
    split at h
    · rename_i hcond
      cases h
      simp only [Bool.and_eq_true, decide_eq_true_eq, UInt8.le_iff_toNat_le,
        UInt8.lt_iff_toNat_lt, UInt8.reduceToNat] at hcond
      obtain ⟨⟨⟨⟨ha, ha'⟩, hb⟩, hc⟩, hn⟩ := hcond
      refine ⟨?_, hn⟩
      rw [← pointBytes_of_surrogate hn]
      have hpayload := payload_lt b
      have hpayload' := payload_lt c
      rw [isSurrogate_iff] at hn
      rw [pointBytes_three ha ha' hb hc (by omega)]
      rfl
    · cases h
  · cases h

theorem surrogate?_threeBytes {n : Nat} (hn : isSurrogate n = true) (rest : List UInt8) :
    surrogate? (threeBytes n ++ rest) = some n := by
  have hbounds := isSurrogate_iff.mp hn
  obtain ⟨hb, hb'⟩ := continuation_ofNat (n / 64)
  obtain ⟨hc, hc'⟩ := continuation_ofNat n
  have hlead : (UInt8.ofNat (n / 4096 % 16 + 0xE0)).toNat = n / 4096 % 16 + 0xE0 := by
    rw [UInt8.toNat_ofNat']
    omega
  have hpoint : ((n / 4096 % 16 + 0xE0) % 16 * 64 + n / 64 % 64) * 64 + n % 64 = n := by omega
  have hmin : 0xE0 ≤ n / 4096 % 16 + 0xE0 := Nat.le_add_left _ _
  have hmax : n / 4096 % 16 + 0xE0 < 0xF0 := by omega
  simp only [threeBytes, List.cons_append, List.nil_append, surrogate?, UInt8.le_iff_toNat_le,
    UInt8.lt_iff_toNat_lt, UInt8.reduceToNat, hlead, hb, hb', hc, hc', hpoint, hn, hmin, hmax,
    decide_true, Bool.and_self, if_true]

/-- What is read is the form of a code point that the handler allows. -/
theorem eq_pointBytes_of_next {handler : Handler} {lead : UInt8} {behind : List UInt8}
    {n width : Nat} (h : next handler lead behind = .ok (n, width)) :
    lead :: behind = pointBytes n ++ behind.drop (width - 1) ∧ handler.Accepts n := by
  unfold next at h
  split at h
  · rename_i hfront
    cases h
    obtain ⟨hform, hvalid⟩ := eq_pointBytes_of_front hfront
    exact ⟨hform, handler.accepts_of_isValidChar hvalid⟩
  · split at h
    · rename_i hrecover
      cases h
      cases handler with
      | strict => cases hrecover
      | surrogatePass =>
          obtain ⟨_, hsurrogate, heq⟩ := Option.map_eq_some_iff.mp hrecover
          cases heq
          obtain ⟨hform, hn⟩ := eq_threeBytes_of_surrogate? hsurrogate
          rw [← pointBytes_of_surrogate hn] at hform
          rw [isSurrogate_iff] at hn
          exact ⟨hform, show n ≤ 0x10FFFF by omega⟩
    · cases h

/-- The form of a code point that the handler allows is read back. -/
theorem next_pointBytes {handler : Handler} {n : Nat} (h : handler.Accepts n) (rest : List UInt8) :
    ∃ lead behind width, pointBytes n ++ rest = lead :: behind ∧
      next handler lead behind = .ok (n, width) ∧ behind.drop (width - 1) = rest := by
  by_cases hvalid : n.isValidChar
  · obtain ⟨lead, behind, width, hform, hfront, hrest⟩ := front_pointBytes hvalid rest
    exact ⟨lead, behind, width, hform, by rw [next, hfront], hrest⟩
  cases handler with
  | strict => exact absurd h hvalid
  | surrogatePass =>
      have hn : isSurrogate n = true := by
        have hmax : n ≤ 0x10FFFF := h
        rw [isValidChar_iff] at hvalid
        rw [isSurrogate_iff]
        omega
      have hrecover : recover? .surrogatePass (threeBytes n ++ rest) = some (n, 3) := by
        rw [recover?, surrogate?_threeBytes hn, Option.map_some]
      have hdrop : (threeBytes n ++ rest).drop 3 = rest := rfl
      obtain ⟨lead, behind, hform⟩ : ∃ lead behind, threeBytes n ++ rest = lead :: behind :=
        ⟨_, _, rfl⟩
      obtain ⟨m, hfront⟩ := front_of_surrogate hn hform
      rw [hform] at hrecover hdrop
      exact ⟨lead, behind, 3, by rw [pointBytes_of_surrogate hn, hform],
        by simp only [next, hfront, hrecover], hdrop⟩

/-! ### Whole inputs -/

theorem scan_skip (handler : Handler) (skip : Nat) (data : List UInt8) :
    scan handler skip data = scan handler 0 (data.drop skip) := by
  induction skip generalizing data with
  | zero => rfl
  | succ skip ih =>
      cases data with
      | nil => simp [scan]
      | cons b rest => rw [scan, ih, List.drop_succ_cons]

theorem eq_flatMap_of_scan {handler : Handler} {skip : Nat} {data : List UInt8} {points : List Nat}
    (h : scan handler skip data = .ok points) :
    data.drop skip = points.flatMap pointBytes ∧ ∀ n ∈ points, handler.Accepts n := by
  -- along the recursion of the reader
  fun_induction scan handler skip data generalizing points with
  | case1 skip =>
      cases h
      exact ⟨List.drop_nil, by simp⟩
  | case2 skip b rest ih =>
      rw [List.drop_succ_cons]
      exact ih h
  | case3 lead behind n width hnext ih =>
      obtain ⟨points, hpoints, rfl⟩ := map_eq_ok_iff.mp h
      obtain ⟨hform, haccepts⟩ := eq_pointBytes_of_next hnext
      obtain ⟨hrest, hothers⟩ := ih hpoints
      refine ⟨?_, List.forall_mem_cons.mpr ⟨haccepts, hothers⟩⟩
      rw [List.drop_zero, hform, hrest, List.flatMap_cons]
  | case4 => cases h

/-- **UTF-8 is read back.** The input is accepted exactly if it is made up of the forms of code
points that the handler allows, and these are the result. -/
theorem scan_eq_ok_iff {handler : Handler} {data : List UInt8} {points : List Nat} :
    scan handler 0 data = .ok points ↔
      data = points.flatMap pointBytes ∧ ∀ n ∈ points, handler.Accepts n := by
  refine ⟨eq_flatMap_of_scan, ?_⟩
  rintro ⟨rfl, haccepts⟩
  induction points with
  | nil => rfl
  | cons n points ih =>
      obtain ⟨hn, hothers⟩ := List.forall_mem_cons.mp haccepts
      obtain ⟨lead, behind, width, hform, hnext, hrest⟩ :=
        next_pointBytes hn (points.flatMap pointBytes)
      rw [List.flatMap_cons, hform, scan, hnext]
      dsimp only
      rw [scan_skip, hrest, ih hothers]
      rfl

theorem decode_eq_ok_iff {handler : Handler} {data : List UInt8} {points : List Nat} :
    decode handler data = .ok points ↔
      data = points.flatMap pointBytes ∧ ∀ n ∈ points, handler.Accepts n := by
  rw [decode, mapError_eq_ok_iff, scan_eq_ok_iff]

end Utf8

/-! ## Forms of UTF-16 -/

namespace Utf16

theorem units_of_lt {n : Nat} (h : n < 0x10000) : units n = [n] := if_pos h

theorem units_of_le {n : Nat} (h : 0x10000 ≤ n) :
    units n = [0xD800 + (n - 0x10000) / 1024, 0xDC00 + (n - 0x10000) % 1024] :=
  if_neg (Nat.not_lt.mpr h)

theorem units_lt {n u : Nat} (hn : n ≤ 0x10FFFF) (hu : u ∈ units n) : u < 0x10000 := by
  by_cases h : n < 0x10000
  · rw [units_of_lt h] at hu
    obtain rfl := List.mem_singleton.mp hu
    exact h
  · rw [units_of_le (Nat.not_lt.mp h)] at hu
    simp only [List.mem_cons, List.not_mem_nil, or_false] at hu
    omega

/-- Two surrogates that are joined are those of the code point. -/
theorem units_join {high low : Nat} (hhigh : isHighSurrogate high = true)
    (hlow : isLowSurrogate low = true) :
    units (join high low) = [high, low] ∧ (join high low).isValidChar := by
  rw [isHighSurrogate_iff] at hhigh
  rw [isLowSurrogate_iff] at hlow
  have hjoin : join high low = 0x10000 + (high - 0xD800) * 1024 + (low - 0xDC00) := rfl
  have hhigh' : 0xD800 + (join high low - 0x10000) / 1024 = high := by omega
  have hlow' : 0xDC00 + (join high low - 0x10000) % 1024 = low := by omega
  refine ⟨by rw [units_of_le (by omega), hhigh', hlow'], ?_⟩
  rw [isValidChar_iff]
  omega

theorem unit_lt (a b : UInt8) : unit false a b < 0x10000 := by
  have ha := a.toNat_lt
  have hb := b.toNat_lt
  rw [unit, if_neg Bool.false_ne_true]
  omega

theorem unitBytes_unit (a b : UInt8) : unitBytes (unit false a b) = [a, b] := by
  have ha := a.toNat_lt
  have hb := b.toNat_lt
  have hfirst : UInt8.ofNat (a.toNat + b.toNat * 256) = a := by
    rw [UInt8.ofNat_eq_iff_mod_eq_toNat]
    omega
  have hsecond : UInt8.ofNat ((a.toNat + b.toNat * 256) / 256) = b := by
    rw [UInt8.ofNat_eq_iff_mod_eq_toNat]
    omega
  rw [unit, if_neg Bool.false_ne_true, unitBytes, hfirst, hsecond]

theorem unit_unitBytes {u : Nat} (h : u < 0x10000) :
    unit false (UInt8.ofNat u) (UInt8.ofNat (u / 256)) = u := by
  rw [unit, if_neg Bool.false_ne_true, UInt8.toNat_ofNat', UInt8.toNat_ofNat']
  omega

theorem unitBytes_flatMap_injective {us vs : List Nat} (hus : ∀ u ∈ us, u < 0x10000)
    (hvs : ∀ v ∈ vs, v < 0x10000) (h : us.flatMap unitBytes = vs.flatMap unitBytes) : us = vs := by
  induction us generalizing vs with
  | nil =>
      cases vs with
      | nil => rfl
      | cons v vs => cases h
  | cons u us ih =>
      cases vs with
      | nil => cases h
      | cons v vs =>
          rw [List.forall_mem_cons] at hus hvs
          obtain ⟨hfirst, h⟩ := List.cons.inj h
          obtain ⟨hsecond, h⟩ := List.cons.inj h
          have huv : u = v := by
            rw [← unit_unitBytes hus.1, ← unit_unitBytes hvs.1, hfirst, hsecond]
          rw [huv, ih hus.2 hvs.2 h]

/-! ### Whole inputs -/

/-- The units of a character are read back. -/
theorem scan_units_append {n : Nat} (h : n.isValidChar) (rest : List UInt8) :
    scan false ((units n).flatMap unitBytes ++ rest) = (scan false rest).map (n :: ·) := by
  have hunits : ∀ u ∈ units n, u < 0x10000 := fun u => units_lt (isValidChar_iff.mp h).1
  rw [isValidChar_iff] at h
  by_cases hn : n < 0x10000
  · have hhigh : ¬ isHighSurrogate n = true := by
      rw [isHighSurrogate_iff]
      omega
    have hlow : ¬ isLowSurrogate n = true := by
      rw [isLowSurrogate_iff]
      omega
    rw [units_of_lt hn]
    show scan false (UInt8.ofNat n :: UInt8.ofNat (n / 256) :: rest) = _
    rw [scan.eq_def]
    dsimp only
    rw [unit_unitBytes hn, if_neg hhigh, if_neg hlow]
  · rw [units_of_le (by omega)] at hunits ⊢
    obtain ⟨hmax, hmax', -⟩ := List.forall_mem_cons.mp hunits |>.imp_right List.forall_mem_cons.mp
    generalize hu : 0xD800 + (n - 0x10000) / 1024 = u at hmax
    generalize hv : 0xDC00 + (n - 0x10000) % 1024 = v at hmax'
    have hhigh : isHighSurrogate u = true := by
      rw [isHighSurrogate_iff]
      omega
    have hlow : isLowSurrogate v = true := by
      rw [isLowSurrogate_iff]
      omega
    have hjoin : join u v = n := by
      have heq : join u v = 0x10000 + (u - 0xD800) * 1024 + (v - 0xDC00) := rfl
      omega
    show scan false (UInt8.ofNat u :: UInt8.ofNat (u / 256) :: UInt8.ofNat v ::
      UInt8.ofNat (v / 256) :: rest) = _
    rw [scan.eq_def]
    dsimp only
    rw [unit_unitBytes hmax, unit_unitBytes hmax', if_pos hhigh, if_pos hlow, hjoin]

/-- **UTF-16 is read back.** The input, the lesser byte of each unit first, is accepted exactly if
it is made up of the units of characters, and these are the result. -/
theorem scan_eq_ok_iff {data : List UInt8} {points : List Nat} :
    scan false data = .ok points ↔
      data = (points.flatMap units).flatMap unitBytes ∧ ∀ n ∈ points, n.isValidChar := by
  constructor
  · intro h
    fun_induction scan false data generalizing points with
    | case1 =>
        cases h
        exact ⟨rfl, by simp⟩
    | case3 a b u hhigh c d rest v hlow =>
        rename_i ih
        obtain ⟨points, hpoints, rfl⟩ := map_eq_ok_iff.mp h
        obtain ⟨hunits, hvalid⟩ := units_join hhigh hlow
        obtain ⟨rfl, hall⟩ := ih hpoints
        have hu : unitBytes u = [a, b] := unitBytes_unit a b
        have hv : unitBytes v = [c, d] := unitBytes_unit c d
        refine ⟨?_, List.forall_mem_cons.mpr ⟨hvalid, hall⟩⟩
        rw [List.flatMap_cons, hunits, List.flatMap_append, List.flatMap_cons, hu,
          List.flatMap_cons, hv]
        rfl
    | case7 a b rest u hhigh hlow =>
        rename_i ih
        obtain ⟨points, hpoints, rfl⟩ := map_eq_ok_iff.mp h
        obtain ⟨rfl, hall⟩ := ih hpoints
        have hu : unitBytes u = [a, b] := unitBytes_unit a b
        have hmax : u < 0x10000 := unit_lt a b
        have hvalid : u.isValidChar := by
          rw [isHighSurrogate_iff] at hhigh
          rw [isLowSurrogate_iff] at hlow
          rw [isValidChar_iff]
          omega
        refine ⟨?_, List.forall_mem_cons.mpr ⟨hvalid, hall⟩⟩
        rw [List.flatMap_cons, units_of_lt hmax, List.flatMap_append, List.flatMap_cons, hu]
        rfl
    | _ => cases h
  · rintro ⟨rfl, hvalid⟩
    induction points with
    | nil => rfl
    | cons n points ih =>
        have hrest := ih fun m hm => hvalid m (List.mem_cons_of_mem _ hm)
        rw [List.flatMap_cons, List.flatMap_append,
          scan_units_append (hvalid n List.mem_cons_self), hrest]
        rfl

theorem flatMap_units_lt {points : List Nat} (h : ∀ n ∈ points, n ≤ 0x10FFFF) :
    ∀ u ∈ points.flatMap units, u < 0x10000 := by
  intro u hu
  obtain ⟨n, hn, hu⟩ := List.mem_flatMap.mp hu
  exact units_lt (h n hn) hu

/-- **The way through UTF-16 joins surrogates.** Code points are written and read back as the
characters that have the same units. -/
theorem decode_encode_eq_ok_iff {points chars : List Nat} (h : ∀ n ∈ points, n ≤ 0x10FFFF) :
    decode (encode points) = .ok chars ↔
      points.flatMap units = chars.flatMap units ∧ ∀ n ∈ chars, n.isValidChar := by
  have hmark : byteOrder (encode points) = (false, (points.flatMap units).flatMap unitBytes) := rfl
  rw [decode, hmark]
  dsimp only
  rw [mapError_eq_ok_iff, scan_eq_ok_iff, and_congr_left_iff]
  intro hvalid
  have hmax : ∀ n ∈ chars, n ≤ 0x10FFFF := fun n hn => (isValidChar_iff.mp (hvalid n hn)).1
  exact ⟨unitBytes_flatMap_injective (flatMap_units_lt h) (flatMap_units_lt hmax),
    congrArg (List.flatMap unitBytes)⟩

end Utf16

end ClassAtlas.Text
