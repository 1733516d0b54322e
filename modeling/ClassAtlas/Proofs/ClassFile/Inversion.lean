import ClassAtlas.Proofs.ClassFile.Layout

/-!
# What a decoder can have used up

The converse of the consumption lemmas. Of a local decoder that consumes `used`
it can be said what `used` is: for a sequence the bytes of the first step and
those of the second, for a number its digits, for a counted table the layout of
a list of items. So the bytes that were decoded as something are the written
form of an image of it.
-/

namespace ClassAtlas.ClassFile

/-! ## Digits -/

theorem bigEndian_lt (bs : Bytes) : bigEndian bs < 256 ^ bs.length := by
  induction bs with
  | nil => simp [bigEndian]
  | cons b bs ih =>
      have hb := b.toNat_lt
      rw [bigEndian_cons, List.length_cons]
      calc b.toNat * 256 ^ bs.length + bigEndian bs
          < b.toNat * 256 ^ bs.length + 256 ^ bs.length := by omega
        _ = (b.toNat + 1) * 256 ^ bs.length := by ring
        _ ≤ 256 * 256 ^ bs.length := Nat.mul_le_mul_right _ hb
        _ = 256 ^ (bs.length + 1) := by ring

theorem bigEndianBytes_add_mul (width n k : Nat) :
    bigEndianBytes width (k * 256 ^ width + n) = bigEndianBytes width n := by
  induction width generalizing k with
  | zero => rfl
  | succ width ih =>
      have hpos : 0 < 256 ^ width := Nat.pow_pos (by decide)
      have hsplit : k * 256 ^ (width + 1) + n = n + k * 256 * 256 ^ width := by ring
      have hdigit : UInt8.ofNat ((n + k * 256 * 256 ^ width) / 256 ^ width) =
          UInt8.ofNat (n / 256 ^ width) := by
        rw [Nat.add_mul_div_right _ _ hpos, ← UInt8.toNat_inj]
        simp only [UInt8.toNat_ofNat', Nat.reducePow, Nat.add_mul_mod_self_right]
      rw [bigEndianBytes, bigEndianBytes, hsplit, hdigit, Nat.add_comm, ih]

theorem bigEndianBytes_bigEndian (bs : Bytes) : bigEndianBytes bs.length (bigEndian bs) = bs := by
  induction bs with
  | nil => rfl
  | cons b bs ih =>
      have hpos : 0 < 256 ^ bs.length := Nat.pow_pos (by decide)
      have hdigit : (b.toNat * 256 ^ bs.length + bigEndian bs) / 256 ^ bs.length = b.toNat := by
        rw [Nat.mul_comm, Nat.mul_add_div hpos, Nat.div_eq_of_lt (bigEndian_lt bs), Nat.add_zero]
      rw [List.length_cons, bigEndianBytes, bigEndian_cons, hdigit, UInt8.ofNat_toNat,
        bigEndianBytes_add_mul, ih]

theorem twosComplement_signed {bits n : Nat} (h : n < 2 ^ (bits + 1)) :
    twosComplement (bits + 1) (signed (bits + 1) n) = n := by
  have hpow : pow2 (bits + 1) = 2 ^ (bits + 1) := rfl
  have hmod : (n : Int) % 2 ^ (bits + 1) = n := Int.emod_eq_of_lt (by omega) (by exact_mod_cast h)
  rw [twosComplement, signed, hpow]
  split
  · rw [hmod, Int.toNat_natCast]
  · rw [Nat.cast_pow, Nat.cast_ofNat, Int.sub_emod_right, hmod, Int.toNat_natCast]

theorem signed_bounds {bits n : Nat} (h : n < 2 ^ (bits + 1)) :
    -2 ^ bits ≤ signed (bits + 1) n ∧ signed (bits + 1) n < 2 ^ bits := by
  have hpow : pow2 bits = 2 ^ bits ∧ pow2 (bits + 1) = 2 ^ (bits + 1) := ⟨rfl, rfl⟩
  have hdouble : (2 : Int) ^ (bits + 1) = 2 * 2 ^ bits := by ring
  zify at h
  rw [signed, Nat.add_sub_cancel, hpow.1, hpow.2]
  zify
  split <;> omega

namespace Decoder

variable {α β : Type}

/-! ## Sequencing -/

/-- The cursor in front of the given bytes alone. -/
def before (used : Bytes) : Cursor where
  subject := ""
  position := 0
  rest := used

theorem Consumes.run_before {d : Decoder α} {used : Bytes} {a : α} (h : d.Consumes used a) :
    d.run (before used) = .ok (a, (before used).advance used.length) :=
  h.accepts (before used) [] rfl (List.append_nil used).symm

/-- A local decoder that stops at the end of the given bytes consumes them. -/
theorem Local.consumes_of_run_before {d : Decoder α} (hd : d.Local) {used : Bytes} {a : α}
    (h : d.run (before used) = .ok (a, (before used).advance used.length)) : d.Consumes used a := by
  obtain ⟨read, more, hrest, hstop, hread⟩ := hd _ _ _ rfl h
  have hused : used = read ++ more := hrest
  have hposition := congrArg Cursor.position hstop
  simp only [Cursor.advance_position, hused, List.length_append] at hposition
  have hnone : more = [] := List.eq_nil_of_length_eq_zero (by omega)
  rwa [hused, hnone, List.append_nil]

/-- What a decoder consumes is the only part in front that it consumes. -/
theorem Consumes.unique {d : Decoder α} {used used' more more' : Bytes} {a a' : α}
    (h : d.Consumes used a) (h' : d.Consumes used' a') (heq : used ++ more = used' ++ more') :
    a = a' ∧ used = used' ∧ more = more' := by
  have hrun := h.accepts (before (used ++ more)) more rfl rfl
  rw [h'.accepts (before (used ++ more)) more' rfl heq] at hrun
  obtain ⟨ha, hstop⟩ := Prod.mk.inj (Except.ok.inj hrun)
  have hposition := congrArg Cursor.position hstop
  simp only [Cursor.advance_position] at hposition
  exact ⟨ha.symm, List.append_inj heq (by omega)⟩

/-- A sequence consumes what its steps consume. -/
theorem Consumes.exists_of_bind {d : Decoder α} {f : α → Decoder β} {used : Bytes} {b : β}
    (hd : d.Local) (hf : ∀ a, (f a).Local) (h : (d >>= f).Consumes used b) :
    ∃ a used₁ used₂, d.Consumes used₁ a ∧ (f a).Consumes used₂ b ∧ used = used₁ ++ used₂ := by
  obtain ⟨a, c₁, hfirst, hsecond⟩ := run_bind_eq_ok h.run_before
  obtain ⟨used₁, more₁, hrest₁, rfl, hcons₁⟩ := hd _ _ _ rfl hfirst
  obtain ⟨used₂, more₂, hrest₂, hstop, hcons₂⟩ := hf a _ _ _ rfl hsecond
  have hused : used = used₁ ++ more₁ := hrest₁
  have hmore : more₁ = used₂ ++ more₂ := by
    rw [← hrest₂, Cursor.advance_rest, hrest₁, List.drop_left]
  -- both ways of reading stop at the same place, so nothing is left behind the second step
  have hposition := congrArg Cursor.position hstop
  simp only [Cursor.advance_position, hused, hmore, List.length_append] at hposition
  have hnone : more₂ = [] := List.eq_nil_of_length_eq_zero (by omega)
  refine ⟨a, used₁, used₂, hcons₁, hcons₂, ?_⟩
  rw [hused, hmore, hnone, List.append_nil]

theorem Consumes.of_pure {a b : α} {used : Bytes} (h : (Pure.pure a : Decoder α).Consumes used b) :
    b = a ∧ used = [] := by
  have hrun := h.run_before
  have hposition : (0 : Nat) = 0 + used.length :=
    congrArg (fun p => p.2.position) (Except.ok.inj hrun)
  exact ⟨(congrArg Prod.fst (Except.ok.inj hrun)).symm,
    List.eq_nil_of_length_eq_zero (by omega)⟩

theorem Consumes.of_map {d : Decoder α} {f : α → β} {used : Bytes} {b : β} (hd : d.Local)
    (h : (do return f (← d) : Decoder β).Consumes used b) : ∃ a, d.Consumes used a ∧ b = f a := by
  obtain ⟨a, used₁, used₂, ha, hpure, rfl⟩ := h.exists_of_bind hd fun a => Local.pure (f a)
  obtain ⟨rfl, rfl⟩ := hpure.of_pure
  exact ⟨a, by rwa [List.append_nil], rfl⟩

theorem Consumes.of_lift_bind {x : Except Fault α} {f : α → Decoder β} {used : Bytes} {b : β}
    (h : (Decoder.lift x >>= f).Consumes used b) : ∃ a, x = .ok a ∧ (f a).Consumes used b := by
  cases x with
  | ok a => exact ⟨a, rfl, h⟩
  | error fault => cases h.run_before

/-! ## Single reads -/

theorem Consumes.of_take {n : Nat} {used bs : Bytes} (h : (Decoder.take n).Consumes used bs) :
    used = bs ∧ bs.length = n := by
  have hrun := h.run_before
  by_cases hn : n ≤ used.length
  · rw [run_take rfl hn] at hrun
    obtain ⟨hbytes, hstop⟩ := Prod.mk.inj (Except.ok.inj hrun)
    have hposition : 0 + n = 0 + used.length := congrArg Cursor.position hstop
    have hwhole : used.take n = used := List.take_of_length_le (by omega)
    have hbs : bs = used := hbytes.symm.trans hwhole
    exact ⟨hbs.symm, by rw [hbs]; omega⟩
  · rw [run_take_short (Nat.lt_of_not_le hn)] at hrun
    cases hrun

theorem Consumes.of_unsigned {n v : Nat} {used : Bytes}
    (h : (Decoder.unsigned n).Consumes used v) : v < 256 ^ n ∧ used = bigEndianBytes n v := by
  rw [unsigned_eq] at h
  obtain ⟨bs, hbs, rfl⟩ := h.of_map (Local.take n)
  obtain ⟨rfl, rfl⟩ := hbs.of_take
  exact ⟨bigEndian_lt used, (bigEndianBytes_bigEndian used).symm⟩

theorem Consumes.of_u1 {v : Nat} {used : Bytes} (h : Decoder.u1.Consumes used v) :
    v < 2 ^ 8 ∧ used = bigEndianBytes 1 v :=
  Consumes.of_unsigned h

theorem Consumes.of_u2 {v : Nat} {used : Bytes} (h : Decoder.u2.Consumes used v) :
    v < 2 ^ 16 ∧ used = bigEndianBytes 2 v :=
  Consumes.of_unsigned h

theorem Consumes.of_u4 {v : Nat} {used : Bytes} (h : Decoder.u4.Consumes used v) :
    v < 2 ^ 32 ∧ used = bigEndianBytes 4 v :=
  Consumes.of_unsigned h

/-- A signed number that was read is in range, and its two's complement is what was there. -/
theorem Consumes.of_signed {width bits : Nat} (hbits : 256 ^ width = 2 ^ (bits + 1)) {v : Int}
    {used : Bytes}
    (h : (do return signed (bits + 1) (← Decoder.unsigned width) : Decoder Int).Consumes used v) :
    (-2 ^ bits ≤ v ∧ v < 2 ^ bits) ∧
      used = bigEndianBytes width (twosComplement (bits + 1) v) := by
  obtain ⟨n, hn, rfl⟩ := h.of_map (Local.unsigned width)
  obtain ⟨hlt, rfl⟩ := hn.of_unsigned
  rw [hbits] at hlt
  exact ⟨signed_bounds hlt, by rw [twosComplement_signed hlt]⟩

theorem Consumes.of_s4 {v : Int} {used : Bytes} (h : Decoder.s4.Consumes used v) :
    (-2 ^ 31 ≤ v ∧ v < 2 ^ 31) ∧ used = bigEndianBytes 4 (twosComplement 32 v) := by
  rw [s4_eq] at h
  exact Consumes.of_signed (by norm_num) h

theorem Consumes.of_s8 {v : Int} {used : Bytes} (h : Decoder.s8.Consumes used v) :
    (-2 ^ 63 ≤ v ∧ v < 2 ^ 63) ∧ used = bigEndianBytes 8 (twosComplement 64 v) := by
  rw [s8_eq] at h
  exact Consumes.of_signed (by norm_num) h

/-! ## Repeated reads -/

section Repeated

variable {ι : Type} {d : Decoder α} {written : ι → Bytes} {stands : ι → α → Prop}

theorem Consumes.of_times (hd : d.Local)
    (hread : ∀ used v, d.Consumes used v → ∃ i, stands i v ∧ used = written i) {n : Nat}
    {used : Bytes} {values : List α} (h : (Decoder.times n d).Consumes used values) :
    ∃ items, List.Forall₂ stands items values ∧ items.length = n ∧ used = items.flatMap written := by
  induction n generalizing used values with
  | zero =>
      obtain ⟨rfl, rfl⟩ := h.of_pure
      exact ⟨[], .nil, rfl, rfl⟩
  | succ n ih =>
      obtain ⟨v, used₁, used₂, hv, hmap, rfl⟩ :=
        h.exists_of_bind hd fun a => (hd.times n).map (a :: ·)
      obtain ⟨rest, hrest, rfl⟩ := hmap.of_map (hd.times n)
      obtain ⟨i, hi, rfl⟩ := hread used₁ v hv
      obtain ⟨items, hitems, rfl, rfl⟩ := ih hrest
      exact ⟨i :: items, .cons hi hitems, rfl, List.flatMap_cons.symm⟩

theorem Consumes.of_counted (hd : d.Local)
    (hread : ∀ used v, d.Consumes used v → ∃ i, stands i v ∧ used = written i)
    {used : Bytes} {values : List α} (h : (Decoder.counted d).Consumes used values) :
    ∃ items, items.length < 2 ^ 16 ∧ List.Forall₂ stands items values ∧
      used = tableLayout written items := by
  obtain ⟨n, used₁, used₂, hn, htimes, rfl⟩ := h.exists_of_bind Local.u2 hd.times
  obtain ⟨hlt, rfl⟩ := hn.of_u2
  obtain ⟨items, hitems, rfl, rfl⟩ := Consumes.of_times hd hread htimes
  exact ⟨items, hlt, hitems, rfl⟩

end Repeated

end Decoder

end ClassAtlas.ClassFile
