import ClassAtlas.Proofs.ClassFile.Layout
import ClassAtlas.Proofs.Metadata.Extract

/-!
# Records that are cut off or run on

Every decoder of a class record is local: the front with the pool and the class's
own names, and the tables behind it. So a record that yields metadata holds the
bytes up to where its decoding stops and no more: cut off before that it is
refused, and what stands behind makes no difference.
-/

namespace ClassAtlas.ClassFile

open Decoder

/-! ## Locality of the decoders -/

theorem Constant.local_payloadDecoder (slot tag : Nat) :
    (Constant.payloadDecoder slot tag).Local := by
  have hpair : ∀ f : Nat → Nat → Constant,
      (do return f (← Decoder.u2) (← Decoder.u2) : Decoder Constant).Local :=
    fun f => Local.u2.bind fun i => Local.u2.map (f i)
  have htext : (do
      let size ← Decoder.u2
      let raw ← Decoder.take size
      return Constant.utf8 (← Decoder.lift (ModifiedUtf8.decode raw)) : Decoder Constant).Local :=
    Local.u2.bind fun size => (Local.take size).bind fun raw => (Local.lift _).map Constant.utf8
  unfold Constant.payloadDecoder
  split
  · exact htext
  · exact Local.s4.map _
  · exact Local.u4.map _
  · exact Local.s8.map _
  · exact (Local.unsigned 8).map _
  · exact Local.u2.map _
  · exact Local.u2.map _
  · exact hpair _
  · exact hpair _
  · exact hpair _
  · exact hpair _
  · exact Local.u1.bind fun kind => Local.u2.map _
  · exact Local.u2.map _
  · exact hpair _
  · exact hpair _
  · exact Local.u2.map _
  · exact Local.u2.map _
  · exact Local.fail _

theorem Constant.local_decoder (slot : Nat) : (Constant.decoder slot).Local :=
  Local.u1.bind (Constant.local_payloadDecoder slot)

theorem ConstantPool.local_slotsDecoder (slot left : Nat) :
    (ConstantPool.slotsDecoder slot left).Local := by
  induction left using Nat.strong_induction_on generalizing slot with
  | _ left ih =>
      cases left with
      | zero => exact Local.pure []
      | succ left =>
          rw [ConstantPool.slotsDecoder_succ]
          refine (Constant.local_decoder slot).bind fun c => ?_
          have hpos : 0 < c.slots.length := by
            unfold Constant.slots
            split <;> simp
          exact (ih _ (by omega) _).map _

theorem ConstantPool.local_decoder : ConstantPool.decoder.Local := by
  refine Local.u2.bind fun count => ?_
  cases count with
  | zero => exact Local.fail _
  | succ left => exact (ConstantPool.local_slotsDecoder 1 left).map _

section Pool

variable (pool : ConstantPool)

theorem Attributes.local_entryDecoder : (Attributes.entryDecoder pool).Local :=
  Local.u2.bind fun _ => (Local.lift _).bind fun _ => Local.u4.bind fun size =>
    (Local.take size).map _

theorem Attributes.local_decoder : (Attributes.decoder pool).Local :=
  (Attributes.local_entryDecoder pool).counted.map _

theorem Member.local_decoder : (Member.decoder pool).Local :=
  Local.u2.bind fun _ => Local.u2.bind fun _ => (Local.lift _).bind fun _ =>
    Local.u2.bind fun _ => (Local.lift _).bind fun _ => (Attributes.local_decoder pool).map _

theorem ClassStructure.local_classNameDecoder : (ClassStructure.classNameDecoder pool).Local :=
  Local.u2.bind fun _ => Local.lift _

theorem ClassStructure.local_superclassDecoder : (ClassStructure.superclassDecoder pool).Local := by
  refine Local.u2.bind fun slot => ?_
  cases slot with
  | zero => exact Local.pure none
  | succ slot => exact (Local.lift _).map some

end Pool

/-! ## Front and tables -/

/-- What is decoded in front of the tables. -/
structure Front where
  minor : Nat
  major : Nat
  pool : ConstantPool
  access : Nat
  name : String
  superclass : Option String
  interfaces : List String

namespace Front

def decoder : Decoder Front := do
  let minor ← Decoder.u2
  let major ← Decoder.u2
  let pool ← ConstantPool.decoder
  let access ← Decoder.u2
  let name ← ClassStructure.classNameDecoder pool
  let superclass ← ClassStructure.superclassDecoder pool
  let interfaces ← Decoder.counted (ClassStructure.classNameDecoder pool)
  return { minor, major, pool, access, name, superclass, interfaces }

/-- The structure with this front and the given tables. -/
def withTables (front : Front) (fields methods : List Member) (attributes : Attributes) :
    ClassStructure where
  minor := front.minor
  major := front.major
  pool := front.pool
  access := front.access
  name := front.name
  superclass := front.superclass
  interfaces := front.interfaces
  fields := fields
  methods := methods
  attributes := attributes

def tablesDecoder (front : Front) : Decoder ClassStructure := do
  let fields ← Decoder.counted (Member.decoder front.pool)
  let methods ← Decoder.counted (Member.decoder front.pool)
  return front.withTables fields methods (← Attributes.decoder front.pool)

theorem decoder_bind_tablesDecoder : ClassStructure.decoder = decoder >>= tablesDecoder := by
  simp only [ClassStructure.decoder, decoder, bind_assoc, pure_bind]
  rfl

theorem local_decoder : decoder.Local := by
  refine Local.u2.bind fun minor => Local.u2.bind fun major => ?_
  refine ConstantPool.local_decoder.bind fun pool => Local.u2.bind fun access => ?_
  refine (ClassStructure.local_classNameDecoder pool).bind fun name => ?_
  refine (ClassStructure.local_superclassDecoder pool).bind fun superclass => ?_
  exact (ClassStructure.local_classNameDecoder pool).counted.map _

theorem local_tablesDecoder (front : Front) : front.tablesDecoder.Local := by
  refine (Member.local_decoder front.pool).counted.bind fun fields => ?_
  refine (Member.local_decoder front.pool).counted.bind fun methods => ?_
  exact (Attributes.local_decoder front.pool).map _

end Front

theorem ClassStructure.local_decoder : ClassStructure.decoder.Local := by
  rw [Front.decoder_bind_tablesDecoder]
  exact Front.local_decoder.bind Front.local_tablesDecoder

/-! ## Where decoding stops -/

/-- Two numbers of two bytes, such as the version numbers, alone take four bytes. -/
theorem four_le_length_of_consumes {α : Type} {f : Nat → Nat → Decoder α} {used : Bytes} {a : α}
    (h : (Decoder.u2 >>= fun i => Decoder.u2 >>= f i).Consumes used a) : 4 ≤ used.length := by
  have hrun := h.accepts { subject := "", position := 0, rest := used } [] rfl (by simp)
  obtain ⟨first, c₁, hfirst, hrun⟩ := run_bind_eq_ok hrun
  obtain ⟨second, c₂, hsecond, -⟩ := run_bind_eq_ok hrun
  obtain ⟨hlen, rfl⟩ := run_unsigned_eq_ok rfl hfirst
  obtain ⟨hlen', -⟩ := run_unsigned_eq_ok rfl hsecond
  simp only [Cursor.advance_rest, List.length_drop] at hlen hlen'
  omega

namespace ClassStructure

theorem start_overrun {data : Bytes} (h : 4 ≤ data.length) : (start data).overrun = 0 := by
  show 4 - data.length = 0
  omega

theorem parse_eq_ok_iff {data : Bytes} {raw : ClassStructure} :
    parse data = .ok raw ↔ ∃ c, decoder.run (start data) = .ok (raw, c) := by
  unfold parse
  cases decoder.run (start data) with
  | error fault => simp [Except.map]
  | ok p =>
      obtain ⟨other, c⟩ := p
      simp [Except.map]

/-- A decoded record is made up of four bytes, those that were used up and those behind. -/
theorem exists_used {data : Bytes} {raw : ClassStructure} {c : Cursor} (hlen : 4 ≤ data.length)
    (h : decoder.run (start data) = .ok (raw, c)) :
    ∃ opening used more, data = opening ++ (used ++ more) ∧ opening.length = 4 ∧
      c.position = 4 + used.length ∧ decoder.Consumes used raw := by
  obtain ⟨used, more, hrest, rfl, hused⟩ := local_decoder _ _ _ (start_overrun hlen) h
  have hdrop : data.drop 4 = used ++ more := hrest
  refine ⟨data.take 4, used, more, ?_, List.length_take_of_le hlen, rfl, hused⟩
  rw [← hdrop, List.take_append_drop]

theorem length_of_consumes {used : Bytes} {raw : ClassStructure}
    (h : decoder.Consumes used raw) : 4 ≤ used.length :=
  four_le_length_of_consumes h

theorem parse_of_part {opening used part missing : Bytes} {raw : ClassStructure}
    (hused : decoder.Consumes used raw) (hopening : opening.length = 4) (hmissing : missing ≠ [])
    (h : used = part ++ missing) : ∃ fault, parse (opening ++ part) = .error fault := by
  have hstart : (start (opening ++ part)).rest = part := List.drop_left' hopening
  have hover : (start (opening ++ part)).overrun = 0 := start_overrun (by simp [hopening])
  obtain ⟨fault, hfault⟩ := hused.refuses _ missing hover hmissing (by rw [hstart, h])
  exact ⟨fault, by rw [parse, hfault]; rfl⟩

theorem parse_of_used {opening used more : Bytes} {raw : ClassStructure}
    (hused : decoder.Consumes used raw) (hopening : opening.length = 4) :
    parse (opening ++ (used ++ more)) = .ok raw := by
  have hstart : (start (opening ++ (used ++ more))).rest = used ++ more := List.drop_left' hopening
  have hover : (start (opening ++ (used ++ more))).overrun = 0 :=
    start_overrun (by simp [hopening])
  rw [parse, hused.accepts _ more hover hstart]
  rfl

end ClassStructure

end ClassAtlas.ClassFile

namespace ClassAtlas

open ClassAtlas.ClassFile

section Cut

variable {opening used more : Bytes} {raw : ClassStructure} {includePrivate : Bool}

theorem extractClass_cut_body (hused : ClassStructure.decoder.Consumes used raw)
    (hopening : opening.length = 4) (hvalid : validate (some (opening ++ (used ++ more))) = true)
    {m : Nat} (hheader : 8 ≤ m) (hm : m < 4 + used.length) :
    ∃ cause, extractClass ((opening ++ (used ++ more)).take m) includePrivate =
      .error (.body cause) := by
  have hcut : (opening ++ (used ++ more)).take m = opening ++ used.take (m - 4) := by
    rw [List.take_append, List.take_of_length_le (by omega), hopening, List.take_append_of_le_length
      (by omega)]
  have hvalid' : validate (some ((opening ++ (used ++ more)).take m)) = true := by
    rw [← hvalid]
    apply validate_congr
    rw [List.take_take, headerLength, Nat.min_eq_left hheader]
  have hmissing : used.drop (m - 4) ≠ [] := by
    rw [Ne, List.drop_eq_nil_iff]
    omega
  obtain ⟨fault, hfault⟩ := ClassStructure.parse_of_part hused hopening hmissing
    (List.take_append_drop (m - 4) used).symm
  refine ⟨fault, ?_⟩
  rw [extractClass_of_valid hvalid', hcut, extractBody_of_parse_error hfault]
  rfl

theorem extractClass_extend (hused : ClassStructure.decoder.Consumes used raw)
    (hopening : opening.length = 4) (hvalid : validate (some (opening ++ (used ++ more))) = true)
    (extra : Bytes) :
    extractClass (opening ++ (used ++ extra)) includePrivate =
      extractClass (opening ++ (used ++ more)) includePrivate := by
  have hlen := ClassStructure.length_of_consumes hused
  have hheader : ∀ behind : Bytes,
      (opening ++ (used ++ behind)).take headerLength = opening ++ used.take 4 := by
    intro behind
    rw [List.take_append, List.take_of_length_le (by rw [headerLength]; omega), hopening]
    exact congrArg (opening ++ ·) (List.take_append_of_le_length hlen)
  have hvalid' : validate (some (opening ++ (used ++ extra))) = true := by
    rw [← hvalid]
    exact validate_congr (by rw [hheader, hheader])
  have hparse : ClassStructure.parse (opening ++ (used ++ extra)) =
      ClassStructure.parse (opening ++ (used ++ more)) := by
    rw [ClassStructure.parse_of_used hused hopening, ClassStructure.parse_of_used hused hopening]
  rw [extractClass_of_valid hvalid', extractClass_of_valid hvalid, extractBody_congr hparse]

end Cut

/-- **A record ends where its decoding stops.** Let `extractClass` succeed. Each cut before the
place where the decoding of the structure stops is refused, for its header if not even that is
complete and for its body otherwise; and whatever follows that place, the metadata stay the same. -/
theorem extractClass_cut {data : Bytes} {includePrivate : Bool} {info : ClassInfo}
    (h : extractClass data includePrivate = .ok info) :
    ∃ raw c, ClassStructure.decoder.run (ClassStructure.start data) = .ok (raw, c) ∧
      c.position ≤ data.length ∧
      (∀ m < c.position,
        (m < 8 → ∃ cause, extractClass (data.take m) includePrivate = .error (.header cause)) ∧
        (8 ≤ m → ∃ cause, extractClass (data.take m) includePrivate = .error (.body cause))) ∧
      ∀ extra, extractClass (data.take c.position ++ extra) includePrivate = .ok info := by
  obtain ⟨hvalid, hbody⟩ := extractClass_eq_ok_iff.mp h
  have hlen : 8 ≤ data.length := by
    by_contra hshort
    rw [validate_of_short (Nat.lt_of_not_le hshort)] at hvalid
    cases hvalid
  obtain ⟨raw, hparse⟩ := exists_parse_of_extractBody hbody
  obtain ⟨c, hrun⟩ := ClassStructure.parse_eq_ok_iff.mp hparse
  obtain ⟨opening, used, more, rfl, hopening, hposition, hused⟩ :=
    ClassStructure.exists_used (by omega) hrun
  refine ⟨raw, c, hrun, ?_, fun m hm => ⟨fun hshort => ?_, fun hlong => ?_⟩, fun extra => ?_⟩
  · simp only [List.length_append]
    omega
  · have hcut : ((opening ++ (used ++ more)).take m).length < headerLength := by
      rw [List.length_take, headerLength]
      omega
    exact ⟨_, extractClass_of_short hcut includePrivate⟩
  · exact extractClass_cut_body hused hopening hvalid hlong (by omega)
  · have htake : (opening ++ (used ++ more)).take c.position = opening ++ used := by
      rw [← List.append_assoc, List.take_left' (by simp only [List.length_append]; omega)]
    rw [htake, List.append_assoc, extractClass_extend hused hopening hvalid, h]

/-- A class without members; its decoding stops one byte before the end. -/
def sampleRecord : Bytes :=
  [0xCA, 0xFE, 0xBA, 0xBE, 0, 0, 0, 61, 0, 3, 1, 0, 1, 0x41, 7, 0, 1, 0, 0x21, 0, 2, 0, 0, 0, 0,
    0, 0, 0, 0, 0, 0, 0x99]

theorem extractClass_cut_sample :
    ∃ info, extractClass sampleRecord = .ok info ∧
      (∃ cause, extractClass (sampleRecord.take 7) = .error (.header cause)) ∧
      (∃ cause, extractClass (sampleRecord.take 30) = .error (.body cause)) ∧
      extractClass (sampleRecord.take 31 ++ [1, 2, 3]) = .ok info := by
  have hsome : (extractClass sampleRecord).toOption.isSome = true := by decide
  have hstop : ((ClassStructure.decoder.run (ClassStructure.start sampleRecord)).map
      fun p => p.2.position).toOption = some 31 := by decide
  cases h : extractClass sampleRecord with
  | error fault =>
      rw [h] at hsome
      cases hsome
  | ok info =>
      obtain ⟨raw, c, hrun, -, hcut, hextend⟩ := extractClass_cut h
      rw [hrun] at hstop
      have hposition : c.position = 31 := Option.some.inj hstop
      rw [hposition] at hcut hextend
      exact ⟨info, rfl, (hcut 7 (by omega)).1 (by omega), (hcut 30 (by omega)).2 (by omega),
        hextend _⟩

end ClassAtlas
