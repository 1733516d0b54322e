import ClassAtlas.Proofs.ClassFile.Inversion
import ClassAtlas.Proofs.ClassFile.Truncation

/-!
# The slots of a decoded pool

A pool that was decoded has the number of slots that it announced. Its constants
fill them in order, and a wide one leaves the slot behind it empty, unless there
is none; slot zero is empty as well. So the empty slots can be told from the
constants, and these, written one behind the other, are the bytes that were
decoded. Only for a text the bytes say more than the constant: its spelling.
-/

namespace ClassAtlas.ClassFile

open Decoder

/-! ## Single constants -/

namespace Constant

theorem of_pair {f : Nat → Nat → Constant} {used : Bytes} {c : Constant}
    (h : (do return f (← Decoder.u2) (← Decoder.u2) : Decoder Constant).Consumes used c) :
    ∃ i j, c = f i j ∧ used = bigEndianBytes 2 i ++ bigEndianBytes 2 j := by
  obtain ⟨i, used₁, used₂, hi, hrest, rfl⟩ := h.exists_of_bind Local.u2 fun i => Local.u2.map (f i)
  obtain ⟨j, hj, rfl⟩ := hrest.of_map Local.u2
  exact ⟨i, j, rfl, by rw [hi.of_u2.2, hj.of_u2.2]⟩

theorem of_text {used : Bytes} {c : Constant}
    (h : (do
      let size ← Decoder.u2
      let raw ← Decoder.take size
      return utf8 (← Decoder.lift (ModifiedUtf8.decode raw)) : Decoder Constant).Consumes used c) :
    ∃ text spelling, c = utf8 text ∧ used = bigEndianBytes 2 spelling.length ++ spelling := by
  have hlocal : ∀ raw, (do return utf8 (← Decoder.lift (ModifiedUtf8.decode raw)) :
      Decoder Constant).Local := fun raw => (Local.lift _).map utf8
  obtain ⟨size, used₁, used₂, hsize, hrest, rfl⟩ :=
    h.exists_of_bind Local.u2 fun size => (Local.take size).bind hlocal
  obtain ⟨raw, used₃, used₄, hraw, htext, rfl⟩ := hrest.exists_of_bind (Local.take size) hlocal
  obtain ⟨rfl, rfl⟩ := hraw.of_take
  obtain ⟨text, -, hpure⟩ := htext.of_lift_bind
  obtain ⟨rfl, rfl⟩ := hpure.of_pure
  exact ⟨text, used₃, rfl, by rw [hsize.of_u2.2, List.append_nil]⟩

/-- What stands behind a tag is the payload of a constant with this tag. -/
theorem exists_payload {slot tag : Nat} {used : Bytes} {c : Constant}
    (h : (payloadDecoder slot tag).Consumes used c) :
    c.tag = tag ∧ ∃ spelling, used = c.payload spelling := by
  have hreference : ∀ f : Nat → Constant,
      (do return f (← Decoder.u2) : Decoder Constant).Consumes used c →
      ∃ i, c = f i ∧ used = bigEndianBytes 2 i := by
    intro f hf
    obtain ⟨i, hi, rfl⟩ := hf.of_map Local.u2
    exact ⟨i, rfl, hi.of_u2.2⟩
  unfold payloadDecoder at h
  split at h
  · obtain ⟨text, spelling, rfl, rfl⟩ := of_text h
    exact ⟨rfl, spelling, rfl⟩
  · obtain ⟨v, hv, rfl⟩ := h.of_map Local.s4
    exact ⟨rfl, [], hv.of_s4.2⟩
  · obtain ⟨n, hn, rfl⟩ := h.of_map Local.u4
    obtain ⟨hlt, rfl⟩ := hn.of_u4
    exact ⟨rfl, [], by rw [payload, UInt32.toNat_ofNat_of_lt' hlt]⟩
  · obtain ⟨v, hv, rfl⟩ := h.of_map Local.s8
    exact ⟨rfl, [], hv.of_s8.2⟩
  · obtain ⟨n, hn, rfl⟩ := h.of_map (Local.unsigned 8)
    obtain ⟨hlt, rfl⟩ := hn.of_unsigned
    exact ⟨rfl, [], by rw [payload, UInt64.toNat_ofNat_of_lt' hlt]⟩
  · obtain ⟨i, rfl, rfl⟩ := hreference classRef h
    exact ⟨rfl, [], rfl⟩
  · obtain ⟨i, rfl, rfl⟩ := hreference stringRef h
    exact ⟨rfl, [], rfl⟩
  · obtain ⟨i, j, rfl, rfl⟩ := of_pair h
    exact ⟨rfl, [], rfl⟩
  · obtain ⟨i, j, rfl, rfl⟩ := of_pair h
    exact ⟨rfl, [], rfl⟩
  · obtain ⟨i, j, rfl, rfl⟩ := of_pair h
    exact ⟨rfl, [], rfl⟩
  · obtain ⟨i, j, rfl, rfl⟩ := of_pair h
    exact ⟨rfl, [], rfl⟩
  · obtain ⟨kind, used₁, used₂, hkind, hrest, rfl⟩ :=
      h.exists_of_bind Local.u1 fun kind => Local.u2.map (methodHandle kind)
    obtain ⟨i, hi, rfl⟩ := hrest.of_map Local.u2
    exact ⟨rfl, [], by rw [hkind.of_u1.2, hi.of_u2.2, payload]⟩
  · obtain ⟨i, rfl, rfl⟩ := hreference methodType h
    exact ⟨rfl, [], rfl⟩
  · obtain ⟨i, j, rfl, rfl⟩ := of_pair h
    exact ⟨rfl, [], rfl⟩
  · obtain ⟨i, j, rfl, rfl⟩ := of_pair h
    exact ⟨rfl, [], rfl⟩
  · obtain ⟨i, rfl, rfl⟩ := hreference moduleRef h
    exact ⟨rfl, [], rfl⟩
  · obtain ⟨i, rfl, rfl⟩ := hreference packageRef h
    exact ⟨rfl, [], rfl⟩
  · cases h.run_before

/-- The bytes of a constant that was decoded are its layout, in some spelling. -/
theorem exists_image {slot : Nat} {used : Bytes} {c : Constant}
    (h : (decoder slot).Consumes used c) :
    ∃ image : ConstantImage, image.constant = c ∧ used = image.layout := by
  obtain ⟨tag, used₁, used₂, htag, hpayload, rfl⟩ :=
    h.exists_of_bind Local.u1 (local_payloadDecoder slot)
  obtain ⟨rfl, spelling, rfl⟩ := exists_payload hpayload
  exact ⟨⟨c, spelling⟩, rfl, by rw [htag.of_u1.2]; rfl⟩

/-- Only a text has more than one spelling. -/
theorem layout_eq_of_notText {c : Constant} (h : c.tag ≠ 1) (spelling : Bytes) :
    c.layout spelling = c.layout [] := by
  cases c with
  | utf8 text => exact absurd rfl h
  | _ => rfl

end Constant

/-! ## Slots -/

/-- The constants fill the slots in order. A wide one leaves the slot behind it empty, unless it
takes the last one. -/
inductive Fills : List Constant → List (Option Constant) → Prop
  | nil : Fills [] []
  | narrow {c : Constant} {cs : List Constant} {slots : List (Option Constant)} :
      c.isWide = false → Fills cs slots → Fills (c :: cs) (some c :: slots)
  | wide {c : Constant} {cs : List Constant} {slots : List (Option Constant)} :
      c.isWide = true → Fills cs slots → Fills (c :: cs) (some c :: none :: slots)
  | cutOff {c : Constant} : c.isWide = true → Fills [c] [some c]

namespace Fills

variable {cs : List Constant} {slots : List (Option Constant)}

theorem filterMap_eq (h : Fills cs slots) : slots.filterMap id = cs := by
  induction h with
  | nil => rfl
  | narrow _ _ ih => exact congrArg _ ih
  | wide _ _ ih => exact congrArg _ ih
  | cutOff _ => rfl

/-- Behind a slot that holds no wide constant, a slot is empty exactly if the one before it holds a
wide constant. -/
theorem empty_iff (h : Fills cs slots) (first : Option Constant)
    (hfirst : ∀ c, first = some c → c.isWide = false) {i : Nat} (hi : i < slots.length) :
    slots[i]? = some none ↔ ∃ c, (first :: slots)[i]? = some (some c) ∧ c.isWide = true := by
  induction h generalizing first i with
  | nil => cases hi
  | @narrow c cs slots hc _ ih =>
      cases i with
      | zero => simp_all
      | succ i =>
          simp only [List.getElem?_cons_succ]
          exact ih (some c) (by simpa using hc) (by simpa using hi)
  | @wide c cs slots hc _ ih =>
      match i with
      | 0 => simp_all
      | 1 => simpa using hc
      | i + 2 =>
          simp only [List.getElem?_cons_succ]
          exact ih none (by simp) (by simpa using hi)
  | cutOff hc =>
      obtain rfl : i = 0 := by simpa using hi
      simp_all

end Fills

namespace ConstantPool

theorem exists_fills {slot left : Nat} {used : Bytes} {slots : List (Option Constant)}
    (h : (slotsDecoder slot left).Consumes used slots) :
    slots.length = left ∧ ∃ images : List ConstantImage,
      Fills (images.map (·.constant)) slots ∧ used = images.flatMap ConstantImage.layout := by
  induction slot, left using slotsDecoder.induct generalizing used slots with
  | case1 slot =>
      obtain ⟨rfl, rfl⟩ := h.of_pure
      exact ⟨rfl, [], .nil, rfl⟩
  | case2 slot =>
      obtain ⟨c, hc, rfl⟩ := h.of_map (Constant.local_decoder slot)
      obtain ⟨image, rfl, rfl⟩ := Constant.exists_image hc
      refine ⟨rfl, [image], ?_, by simp⟩
      cases hwide : image.constant.isWide with
      | false => exact .narrow hwide .nil
      | true => exact .cutOff hwide
  | case3 slot left ihWide ihNarrow =>
      obtain ⟨c, used₁, used₂, hc, hrest, rfl⟩ :=
        h.exists_of_bind (Constant.local_decoder slot) (by
          intro c
          split <;> exact (local_slotsDecoder _ _).map _)
      obtain ⟨image, rfl, rfl⟩ := Constant.exists_image hc
      cases hwide : image.constant.isWide with
      | true =>
          rw [if_pos hwide] at hrest
          obtain ⟨slots, hslots, rfl⟩ := hrest.of_map (local_slotsDecoder _ _)
          obtain ⟨rfl, images, hfills, rfl⟩ := ihWide hslots
          exact ⟨rfl, image :: images, .wide hwide hfills, rfl⟩
      | false =>
          rw [if_neg (by simp [hwide])] at hrest
          obtain ⟨slots, hslots, rfl⟩ := hrest.of_map (local_slotsDecoder _ _)
          obtain ⟨hlength, images, hfills, rfl⟩ := ihNarrow hslots
          exact ⟨by rw [List.length_cons, hlength], image :: images, .narrow hwide hfills, rfl⟩

/-- The constants of a pool, in the order of their slots. -/
def constants (pool : ConstantPool) : List Constant := pool.slots.toList.filterMap id

theorem exists_pool {used : Bytes} {pool : ConstantPool} (h : decoder.Consumes used pool) :
    ∃ (slots : List (Option Constant)) (images : List ConstantImage),
      pool.slots.toList = none :: slots ∧ Fills (images.map (·.constant)) slots ∧
      pool.size < 2 ^ 16 ∧
      used = bigEndianBytes 2 pool.size ++ images.flatMap ConstantImage.layout := by
  obtain ⟨count, used₁, used₂, hcount, hrest, rfl⟩ := h.exists_of_bind Local.u2 (by
    intro count
    cases count with
    | zero => exact Local.fail _
    | succ left => exact (local_slotsDecoder 1 left).map _)
  obtain ⟨hlt, rfl⟩ := hcount.of_u2
  cases count with
  | zero => cases hrest.run_before
  | succ left =>
      obtain ⟨slots, hslots, rfl⟩ := hrest.of_map (local_slotsDecoder 1 left)
      obtain ⟨rfl, images, hfills, rfl⟩ := exists_fills hslots
      exact ⟨slots, images, rfl, hfills, by simpa [size] using hlt, by simp [size]⟩

/-! ## Looking up -/

section Lookup

variable {pool : ConstantPool} {i : Int}

theorem get?_eq_some_iff {k : Constant} :
    pool.get? i = some k ↔ 0 < i ∧ pool.slots[i.toNat]? = some (some k) := by
  rw [get?]
  split
  · rename_i hpos
    simp [hpos, Option.join_eq_some_iff]
  · rename_i hpos
    simp [hpos]

theorem get?_eq_none_iff :
    pool.get? i = none ↔ i ≤ 0 ∨ (pool.size : Int) ≤ i ∨ pool.slots[i.toNat]? = some none := by
  rw [get?]
  split
  · rename_i hpos
    have hlow : ¬ i ≤ 0 := by omega
    have hhigh : pool.slots[i.toNat]? = none ↔ (pool.size : Int) ≤ i := by
      rw [Array.getElem?_eq_none_iff, size]
      omega
    rw [Option.join_eq_none_iff, hhigh]
    simp [hlow]
  · simp only [true_iff]
    omega

theorem exists_fault_iff : (∃ fault, pool.entry i = .error fault) ↔ pool.get? i = none := by
  rw [entry]
  cases pool.get? i with
  | none => simp
  | some k => simp

end Lookup

/-- A decoder of pools needs a cursor inside its data. -/
theorem overrun_of_run {c c' : Cursor} {pool : ConstantPool}
    (h : decoder.run c = .ok (pool, c')) : c.overrun = 0 := by
  obtain ⟨count, c₁, hcount, -⟩ := run_bind_eq_ok h
  rw [Decoder.u2, Decoder.unsigned_eq] at hcount
  obtain ⟨bs, c₂, hbs, -⟩ := run_bind_eq_ok hcount
  by_contra hover
  have hfails : (Decoder.take 2).run c = .error (c.shortOf 2) :=
    Decoder.run_eq_error_iff.mpr ⟨c, Decoder.outcome_read_short (.inr (.inl hover))⟩
  rw [hfails] at hbs
  cases hbs

/-- A pool as it is written, all texts being empty: the number of its slots, then its constants. -/
def layout (pool : ConstantPool) : Bytes :=
  bigEndianBytes 2 pool.size ++ pool.constants.flatMap (Constant.layout [])

section Slots

variable {pool : ConstantPool} {images : List ConstantImage} {slots : List (Option Constant)}

theorem getElem?_slots (hslots : pool.slots.toList = none :: slots) (i : Nat) :
    pool.slots[i]? = (none :: slots)[i]? := by
  rw [← Array.getElem?_toList, hslots]

theorem slot_empty_iff (hslots : pool.slots.toList = none :: slots)
    (hfills : Fills (images.map (·.constant)) slots) {i : Nat} (hpos : 1 ≤ i) (hi : i < pool.size) :
    pool.slots[i]? = some none ↔ ∃ k, pool.slots[i - 1]? = some (some k) ∧ k.isWide = true := by
  obtain ⟨j, rfl⟩ := Nat.exists_eq_add_of_le' hpos
  have hj : j < slots.length := by
    rw [size, ← Array.length_toList, hslots, List.length_cons] at hi
    omega
  rw [getElem?_slots hslots, getElem?_slots hslots, List.getElem?_cons_succ, Nat.add_sub_cancel]
  exact hfills.empty_iff none nofun hj

/-- The constant one place before a slot that has a place before it. -/
theorem get?_pred_eq_some_iff (hslots : pool.slots.toList = none :: slots) {i : Int} (hpos : 0 < i)
    {k : Constant} : pool.get? (i - 1) = some k ↔ pool.slots[i.toNat - 1]? = some (some k) := by
  rw [get?_eq_some_iff, show (i - 1).toNat = i.toNat - 1 by omega]
  refine ⟨fun h => h.2, fun h => ⟨?_, h⟩⟩
  -- slot zero holds nothing
  by_contra hfirst
  rw [show i.toNat - 1 = 0 by omega, getElem?_slots hslots] at h
  cases h

theorem layout_of_fills (hslots : pool.slots.toList = none :: slots)
    (hfills : Fills (images.map (·.constant)) slots)
    (htext : ∀ k ∈ pool.constants, k.tag ≠ 1) :
    images.flatMap ConstantImage.layout = pool.constants.flatMap (Constant.layout []) := by
  have hconstants : pool.constants = images.map (·.constant) := by
    rw [constants, hslots, List.filterMap_cons_none rfl, hfills.filterMap_eq]
  rw [hconstants] at htext ⊢
  rw [List.flatMap_map]
  refine List.flatMap_congr fun image himage => ?_
  exact Constant.layout_eq_of_notText (htext _ (List.mem_map_of_mem himage)) image.spelling

end Slots

/-- **The slots of a decoded pool.** A pool has as many slots as it announces. Slot zero is empty,
and any other exactly if the one before it holds a wide constant. So what cannot be looked up is
what lies outside and the second slots of wide constants. If no constant is a text, the number of
slots and the constants, written in order, are exactly the bytes that the cursor went over. -/
theorem decoder_fills_slots (c c' : Cursor) (pool : ConstantPool)
    (h : decoder.run c = .ok (pool, c')) :
    pool.size = bigEndian (c.rest.take 2) ∧ pool.slots[0]? = some none ∧
    (∀ i, 1 ≤ i → i < pool.size → (pool.slots[i]? = some none ↔
      ∃ k, pool.slots[i - 1]? = some (some k) ∧ k.isWide = true)) ∧
    (∀ i : Int, (∃ fault, pool.entry i = .error fault) ↔
      i ≤ 0 ∨ (pool.size : Int) ≤ i ∨ ∃ k, pool.get? (i - 1) = some k ∧ k.isWide = true) ∧
    ((∀ k ∈ pool.constants, k.tag ≠ 1) →
      c.rest = pool.layout ++ c'.rest ∧ c' = c.advance pool.layout.length) := by
  obtain ⟨used, more, hrest, rfl, hused⟩ := local_decoder c c' pool (overrun_of_run h) h
  obtain ⟨slots, images, hslots, hfills, hlt, rfl⟩ := exists_pool hused
  refine ⟨?_, getElem?_slots hslots 0, fun i => slot_empty_iff hslots hfills, fun i => ?_, ?_⟩
  · rw [hrest, List.append_assoc, List.take_left' (length_bigEndianBytes 2 pool.size),
      bigEndian_bigEndianBytes]
    exact (Nat.mod_eq_of_lt hlt).symm
  · rw [exists_fault_iff, get?_eq_none_iff]
    by_cases hinside : 0 < i ∧ i < pool.size
    · have hempty := slot_empty_iff hslots hfills (i := i.toNat) (by omega) (by omega)
      simp only [hempty, get?_pred_eq_some_iff hslots hinside.1]
    · have houtside : i ≤ 0 ∨ (pool.size : Int) ≤ i := by omega
      rw [← or_assoc, ← or_assoc]
      exact iff_of_true (.inl houtside) (.inl houtside)
  · intro htext
    rw [layout, ← layout_of_fills hslots hfills htext]
    exact ⟨by rw [Cursor.advance_rest, hrest, List.drop_left], rfl⟩

/-- A pool whose last slot is the first of a wide constant, and a byte behind it. -/
def samplePoolBytes : Bytes :=
  [0, 6, 5, 0xFF, 0xFF, 0xFF, 0xFF, 0xFF, 0xFF, 0xFF, 0xFE, 7, 0, 9, 15, 6, 0, 3,
    5, 0, 0, 0, 0, 0, 0, 0, 1, 0x2A]

def sampleWidePool : ConstantPool :=
  ⟨#[none, some (.long (-2)), none, some (.classRef 9), some (.methodHandle 6 3), some (.long 1)]⟩

theorem decoder_fills_slots_sample :
    (∃ c', decoder.run (Cursor.at "class record" samplePoolBytes) = .ok (sampleWidePool, c') ∧
      samplePoolBytes = sampleWidePool.layout ++ c'.rest ∧ c'.rest = [0x2A]) ∧
    (∃ fault, sampleWidePool.entry 2 = .error fault) := by
  have hrun : decoder.run (Cursor.at "class record" samplePoolBytes) =
      .ok (sampleWidePool, (Cursor.at "class record" samplePoolBytes).advance 27) := by
    rfl
  obtain ⟨-, -, -, hentry, hlayout⟩ := decoder_fills_slots _ _ _ hrun
  refine ⟨⟨_, hrun, (hlayout (by decide)).1, rfl⟩, ?_⟩
  exact (hentry 2).mpr (.inr (.inr ⟨.long (-2), rfl, rfl⟩))

end ConstantPool

end ClassAtlas.ClassFile
