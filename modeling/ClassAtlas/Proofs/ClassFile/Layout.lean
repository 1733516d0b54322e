import Mathlib.Algebra.Order.Ring.Int
import Mathlib.Tactic.Positivity
import Mathlib.Tactic.Ring
import Mathlib.Tactic.Zify
import ClassAtlas.ClassFile.Structure
import ClassAtlas.Proofs.ClassFile.Consumption
import ClassAtlas.Proofs.ClassFile.ModifiedUtf8

/-!
# The written form of a class record

The other direction of decoding: numbers, constants, attribute and member
tables and whole class records as bytes. An image holds what the bytes hold:
slot numbers where a decoded structure has names, and for each text constant
the spelling that was chosen for it, since one text has several.

Numbers, constants and pools are shown to be consumed by their decoders here;
members and whole records, where names come in, are in `RoundTrip`.
-/

namespace ClassAtlas.ClassFile

/-! ## Numbers -/

/-- The `width` big-endian digits of `n` in base 256. -/
def bigEndianBytes : (width n : Nat) → Bytes
  | 0, _ => []
  | width + 1, n => UInt8.ofNat (n / 256 ^ width) :: bigEndianBytes width n

/-- The number below `2 ^ bits` that stands for `v` in two's complement. -/
def twosComplement (bits : Nat) (v : Int) : Nat := (v % 2 ^ bits).toNat

theorem length_bigEndianBytes (width n : Nat) : (bigEndianBytes width n).length = width := by
  induction width with
  | zero => rfl
  | succ width ih => rw [bigEndianBytes, List.length_cons, ih]

theorem bigEndian_cons (b : UInt8) (bs : Bytes) :
    bigEndian (b :: bs) = b.toNat * 256 ^ bs.length + bigEndian bs := by
  have hfold : ∀ (bs : Bytes) (n : Nat),
      bs.foldl (fun n b => n * 256 + b.toNat) n = n * 256 ^ bs.length + bigEndian bs := by
    intro bs
    induction bs with
    | nil => intro n; simp [bigEndian]
    | cons b bs ih =>
        intro n
        have hbs : bigEndian (b :: bs) = bs.foldl (fun n b => n * 256 + b.toNat) b.toNat := by
          simp [bigEndian]
        rw [List.foldl_cons, hbs, ih, ih, List.length_cons]
        ring
  rw [bigEndian, List.foldl_cons, hfold]
  simp

theorem bigEndian_bigEndianBytes (width n : Nat) :
    bigEndian (bigEndianBytes width n) = n % 256 ^ width := by
  induction width with
  | zero => simp [bigEndianBytes, bigEndian, Nat.mod_one]
  | succ width ih =>
      rw [bigEndianBytes, bigEndian_cons, length_bigEndianBytes, ih, Nat.mod_pow_succ]
      simp only [UInt8.toNat_ofNat']
      ring

theorem twosComplement_lt (bits : Nat) (v : Int) : twosComplement bits v < 2 ^ bits := by
  have hpos : (0 : Int) < 2 ^ bits := by positivity
  have hlt := Int.emod_lt_of_pos v hpos
  have hnn := Int.emod_nonneg v hpos.ne'
  rw [twosComplement]
  zify
  rwa [Int.toNat_of_nonneg hnn]

theorem signed_twosComplement {bits : Nat} {v : Int} (hlo : -2 ^ bits ≤ v) (hhi : v < 2 ^ bits) :
    signed (bits + 1) (twosComplement (bits + 1) v) = v := by
  have hpow : pow2 bits = 2 ^ bits ∧ pow2 (bits + 1) = 2 ^ (bits + 1) := ⟨rfl, rfl⟩
  rw [signed, twosComplement, Nat.add_sub_cancel, hpow.1, hpow.2]
  zify
  have hdouble : (2 : Int) ^ (bits + 1) = 2 * 2 ^ bits := by ring
  rcases lt_or_ge v 0 with hneg | hnn
  · have hmod : v % 2 ^ (bits + 1) = v + 2 ^ (bits + 1) := by
      rw [← Int.add_emod_right, Int.emod_eq_of_lt] <;> omega
    rw [hmod, Int.toNat_of_nonneg (by omega), if_neg (by omega)]
    omega
  · have hmod : v % 2 ^ (bits + 1) = v := Int.emod_eq_of_lt hnn (by omega)
    rw [hmod, Int.toNat_of_nonneg hnn, if_pos hhi]

namespace Decoder

theorem Consumes.unsigned {width n : Nat} (h : n < 256 ^ width) :
    (Decoder.unsigned width).Consumes (bigEndianBytes width n) n := by
  have hread := (Consumes.take (length_bigEndianBytes width n)).map bigEndian
  rwa [bigEndian_bigEndianBytes, Nat.mod_eq_of_lt h, ← unsigned_eq] at hread

theorem Consumes.u1 {n : Nat} (h : n < 2 ^ 8) : Decoder.u1.Consumes (bigEndianBytes 1 n) n :=
  Consumes.unsigned h

theorem Consumes.u2 {n : Nat} (h : n < 2 ^ 16) : Decoder.u2.Consumes (bigEndianBytes 2 n) n :=
  Consumes.unsigned h

theorem Consumes.u4 {n : Nat} (h : n < 2 ^ 32) : Decoder.u4.Consumes (bigEndianBytes 4 n) n :=
  Consumes.unsigned h

theorem Consumes.s4 {v : Int} (hlo : -2 ^ 31 ≤ v) (hhi : v < 2 ^ 31) :
    Decoder.s4.Consumes (bigEndianBytes 4 (twosComplement 32 v)) v := by
  have hread := (Consumes.u4 (twosComplement_lt 32 v)).map (signed 32)
  rwa [signed_twosComplement hlo hhi, ← s4_eq] at hread

theorem Consumes.s8 {v : Int} (hlo : -2 ^ 63 ≤ v) (hhi : v < 2 ^ 63) :
    Decoder.s8.Consumes (bigEndianBytes 8 (twosComplement 64 v)) v := by
  have hlt : twosComplement 64 v < 256 ^ 8 := twosComplement_lt 64 v
  have hread := (Consumes.unsigned hlt).map (signed 64)
  rwa [signed_twosComplement hlo hhi, ← s8_eq] at hread

end Decoder

/-! ## Constants -/

namespace Constant

/-- The bytes behind the tag of a constant; a text is written in the given spelling. -/
def payload (spelling : Bytes) : Constant → Bytes
  | utf8 _ => bigEndianBytes 2 spelling.length ++ spelling
  | integer v => bigEndianBytes 4 (twosComplement 32 v)
  | float bits => bigEndianBytes 4 bits.toNat
  | long v => bigEndianBytes 8 (twosComplement 64 v)
  | double bits => bigEndianBytes 8 bits.toNat
  | classRef i | stringRef i | methodType i | moduleRef i | packageRef i => bigEndianBytes 2 i
  | fieldRef i j | methodRef i j | interfaceMethodRef i j | nameAndType i j | dynamic i j
  | invokeDynamic i j => bigEndianBytes 2 i ++ bigEndianBytes 2 j
  | methodHandle kind i => bigEndianBytes 1 kind ++ bigEndianBytes 2 i

/-- A constant as it is written: its tag and its payload. -/
def layout (spelling : Bytes) (c : Constant) : Bytes := bigEndianBytes 1 c.tag ++ c.payload spelling

/-- The parts of a constant fit their fields, and the spelling is one of its text. -/
def Fits (spelling : Bytes) : Constant → Prop
  | utf8 text => spelling.length < 2 ^ 16 ∧ ModifiedUtf8.Spells text.toList spelling
  | integer v => -2 ^ 31 ≤ v ∧ v < 2 ^ 31
  | long v => -2 ^ 63 ≤ v ∧ v < 2 ^ 63
  | float _ | double _ => True
  | classRef i | stringRef i | methodType i | moduleRef i | packageRef i => i < 2 ^ 16
  | fieldRef i j | methodRef i j | interfaceMethodRef i j | nameAndType i j | dynamic i j
  | invokeDynamic i j => i < 2 ^ 16 ∧ j < 2 ^ 16
  | methodHandle kind i => kind < 2 ^ 8 ∧ i < 2 ^ 16

/-- The slots that a constant takes: its own and, for a wide one, an empty one. -/
def slots (c : Constant) : List (Option Constant) :=
  if c.isWide then [some c, none] else [some c]

theorem tag_lt (c : Constant) : c.tag < 2 ^ 8 := by
  cases c <;> simp [tag]

open Decoder in
/-- Two numbers of two bytes each, as most references have them. -/
theorem consumes_pair {i j : Nat} (h : i < 2 ^ 16 ∧ j < 2 ^ 16) (f : Nat → Nat → Constant) :
    (do return f (← Decoder.u2) (← Decoder.u2) : Decoder Constant).Consumes
      (bigEndianBytes 2 i ++ bigEndianBytes 2 j) (f i j) :=
  (Consumes.u2 h.1).bind ((Consumes.u2 h.2).map (f i))

open Decoder in
theorem consumes_decoder {c : Constant} {spelling : Bytes} (h : c.Fits spelling) (slot : Nat) :
    (decoder slot).Consumes (c.layout spelling) c := by
  refine (Consumes.u1 c.tag_lt).bind ?_
  cases c with
  | utf8 text =>
      have htext := ModifiedUtf8.decode_eq_ok_iff.mpr h.2
      exact (Consumes.u2 h.1).bind ((Consumes.take rfl).check ((Consumes.lift htext).map utf8))
  | integer v => exact (Consumes.s4 h.1 h.2).map integer
  | float bits =>
      have hread := (Consumes.u4 bits.toNat_lt).map fun n => float (UInt32.ofNat n)
      rwa [UInt32.ofNat_toNat] at hread
  | long v => exact (Consumes.s8 h.1 h.2).map long
  | double bits =>
      have hlt : bits.toNat < 256 ^ 8 := bits.toNat_lt
      have hread := (Consumes.unsigned hlt).map fun n => double (UInt64.ofNat n)
      rwa [UInt64.ofNat_toNat] at hread
  | classRef i => exact (Consumes.u2 h).map classRef
  | stringRef i => exact (Consumes.u2 h).map stringRef
  | fieldRef i j => exact consumes_pair h fieldRef
  | methodRef i j => exact consumes_pair h methodRef
  | interfaceMethodRef i j => exact consumes_pair h interfaceMethodRef
  | nameAndType i j => exact consumes_pair h nameAndType
  | methodHandle kind i => exact (Consumes.u1 h.1).bind ((Consumes.u2 h.2).map (methodHandle kind))
  | methodType i => exact (Consumes.u2 h).map methodType
  | dynamic i j => exact consumes_pair h dynamic
  | invokeDynamic i j => exact consumes_pair h invokeDynamic
  | moduleRef i => exact (Consumes.u2 h).map moduleRef
  | packageRef i => exact (Consumes.u2 h).map packageRef

end Constant

/-! ## Tables and records -/

/-- A count of two bytes, then the items. -/
def tableLayout {ι : Type} (written : ι → Bytes) (items : List ι) : Bytes :=
  bigEndianBytes 2 items.length ++ items.flatMap written

theorem Decoder.Consumes.counted {ι α : Type} {d : Decoder α} {written : ι → Bytes}
    {stands : ι → α → Prop} {items : List ι} {values : List α} (hlen : items.length < 2 ^ 16)
    (h : List.Forall₂ stands items values)
    (hread : ∀ i ∈ items, ∀ v, stands i v → d.Consumes (written i) v) :
    (Decoder.counted d).Consumes (tableLayout written items) values := by
  refine (Consumes.u2 hlen).bind ?_
  rw [h.length_eq]
  exact Consumes.times h hread

theorem Decoder.FailsOn.counted {ι α : Type} {d : Decoder α} {written : ι → Bytes}
    {items : List ι} {fault : Fault} (hlen : items.length < 2 ^ 16)
    (h : ∀ i ∈ items, (∃ v, d.Consumes (written i) v) ∨ d.FailsOn (written i) fault)
    (hfails : ∃ i ∈ items, d.FailsOn (written i) fault) :
    (Decoder.counted d).FailsOn (tableLayout written items) fault :=
  .bind_right (Consumes.u2 hlen) (.times h hfails)

/-- A constant of a pool and, for a text, the bytes it is spelled with. -/
structure ConstantImage where
  constant : Constant
  spelling : Bytes := []

def ConstantImage.layout (image : ConstantImage) : Bytes := image.constant.layout image.spelling

/-- All slots of a pool of the given constants, slot zero included. -/
def poolSlots (pool : List ConstantImage) : List (Option Constant) :=
  none :: pool.flatMap (·.constant.slots)

/-- The number of slots, then the constants. -/
def poolLayout (pool : List ConstantImage) : Bytes :=
  bigEndianBytes 2 (poolSlots pool).length ++ pool.flatMap ConstantImage.layout

/-- A pool is read slot by slot; a wide constant is cut off only where it is the last one. -/
theorem ConstantPool.slotsDecoder_succ (slot left : Nat) :
    ConstantPool.slotsDecoder slot (left + 1) = (do
      let c ← Constant.decoder slot
      let rest ← ConstantPool.slotsDecoder (slot + c.slots.length) (left + 1 - c.slots.length)
      return c.slots.take (left + 1) ++ rest) := by
  have hslots : ∀ c : Constant, c.slots = if c.isWide then [some c, none] else [some c] :=
    fun _ => rfl
  cases left with
  | zero =>
      rw [ConstantPool.slotsDecoder]
      congr 1
      funext c
      cases hwide : c.isWide <;> simp [hslots, hwide, ConstantPool.slotsDecoder]
  | succ left =>
      rw [ConstantPool.slotsDecoder]
      congr 1
      funext c
      cases hwide : c.isWide <;> simp [hslots, hwide]

open Decoder in
theorem consumes_slotsDecoder {pool : List ConstantImage}
    (h : ∀ entry ∈ pool, entry.constant.Fits entry.spelling) (slot : Nat) :
    (ConstantPool.slotsDecoder slot (pool.flatMap (·.constant.slots)).length).Consumes
      (pool.flatMap ConstantImage.layout) (pool.flatMap (·.constant.slots)) := by
  induction pool generalizing slot with
  | nil => exact Consumes.pure []
  | cons entry rest ih =>
      have hfits := h entry (by simp)
      have hrest := ih (fun e he => h e (by simp [he])) (slot + entry.constant.slots.length)
      obtain ⟨n, hn⟩ : ∃ n, entry.constant.slots.length = n + 1 := by
        unfold Constant.slots
        split <;> exact ⟨_, rfl⟩
      rw [List.flatMap_cons, List.flatMap_cons, List.length_append, hn, Nat.add_right_comm,
        ConstantPool.slotsDecoder_succ]
      refine (Constant.consumes_decoder hfits slot).bind ?_
      have hleft : n + (rest.flatMap (·.constant.slots)).length + 1 - entry.constant.slots.length =
          (rest.flatMap (·.constant.slots)).length := by
        omega
      rw [hleft, List.take_of_length_le (by omega)]
      exact hrest.map _

open Decoder in
theorem consumes_pool {pool : List ConstantImage} (hcount : (poolSlots pool).length < 2 ^ 16)
    (h : ∀ entry ∈ pool, entry.constant.Fits entry.spelling) :
    ConstantPool.decoder.Consumes (poolLayout pool) ⟨(poolSlots pool).toArray⟩ := by
  refine (Consumes.u2 hcount).bind ?_
  exact (consumes_slotsDecoder h 1).map fun slots => ConstantPool.mk (none :: slots).toArray

/-- An attribute: the slot of its name, and its body. -/
structure AttributeImage where
  name : Nat
  body : Bytes

def AttributeImage.layout (a : AttributeImage) : Bytes :=
  bigEndianBytes 2 a.name ++ (bigEndianBytes 4 a.body.length ++ a.body)

/-- A field or method: flags, slots of name and descriptor, attributes. -/
structure MemberImage where
  access : Nat
  name : Nat
  descriptor : Nat
  attributes : List AttributeImage

def MemberImage.layout (m : MemberImage) : Bytes :=
  bigEndianBytes 2 m.access ++ (bigEndianBytes 2 m.name ++ (bigEndianBytes 2 m.descriptor ++
    tableLayout AttributeImage.layout m.attributes))

/-- A class record behind its magic number. Classes are given by slots; slot zero as the superclass
stands for none. -/
structure ClassImage where
  minor : Nat
  major : Nat
  pool : List ConstantImage
  access : Nat
  name : Nat
  superclass : Nat
  interfaces : List Nat
  fields : List MemberImage
  methods : List MemberImage
  attributes : List AttributeImage

def ClassImage.slots (image : ClassImage) : List (Option Constant) := poolSlots image.pool

def ClassImage.layout (image : ClassImage) : Bytes :=
  bigEndianBytes 2 image.minor ++ (bigEndianBytes 2 image.major ++ (poolLayout image.pool ++
    (bigEndianBytes 2 image.access ++ (bigEndianBytes 2 image.name ++
      (bigEndianBytes 2 image.superclass ++ (tableLayout (bigEndianBytes 2) image.interfaces ++
        (tableLayout MemberImage.layout image.fields ++
          (tableLayout MemberImage.layout image.methods ++
            tableLayout AttributeImage.layout image.attributes))))))))

end ClassAtlas.ClassFile
