import ClassAtlas.Proofs.ClassFile.Operands
import ClassAtlas.Proofs.Notices

/-!
# The instructions of a method body

The bytes of a method body are a run of instructions, one right behind the
other. `Stream` is the grammar of such runs, with the calls that they make; it
carries the place of each instruction along, on which alignment depends.

The walk through a body is this grammar read from left to right. Main statement:
it succeeds exactly on the bytes of a stream, of which there is only one, and
returns the calls of that stream; on any other bytes it fails.
-/

namespace ClassAtlas.ClassFile

open Decoder
open ClassAtlas.Noted (exists_of_bind_eq_ok)

/-! ## Instructions one after the other -/

/-- An instruction as it is written. -/
structure InstructionImage where
  opcode : UInt8
  operands : Operands
  deriving DecidableEq, Repr

namespace InstructionImage

def layout (i : InstructionImage) : Bytes := i.opcode :: i.operands.layout

/-- The instruction may stand at `pc`, and makes the call if it makes one. -/
def Denotes (pool : ConstantPool) (pc : Nat) (i : InstructionImage) (call : Option Invocation) : Prop :=
  i.operands.Denotes pool pc i.opcode.toNat (Instruction.format i.opcode.toNat) call

variable {pool : ConstantPool} {pc : Nat} {i j : InstructionImage} {call call' : Option Invocation}

theorem Denotes.consumes (h : i.Denotes pool pc call) :
    (Instruction.decoderAt pool pc).Consumes i.layout call :=
  (consumes_byte i.opcode).bind (Operands.Denotes.consumes h)

theorem local_decoderAt (pool : ConstantPool) (pc : Nat) : (Instruction.decoderAt pool pc).Local :=
  Local.u1.bind fun opcode => Instruction.local_operandsDecoder pool pc opcode _

theorem exists_denotes {used : Bytes} (h : (Instruction.decoderAt pool pc).Consumes used call) :
    ∃ i : InstructionImage, i.Denotes pool pc call ∧ used = i.layout := by
  obtain ⟨opcode, used₁, used₂, hopcode, hoperands, rfl⟩ := h.exists_of_bind Local.u1
    fun opcode => Instruction.local_operandsDecoder pool pc opcode _
  obtain ⟨opcode, rfl, rfl⟩ := exists_byte hopcode
  obtain ⟨operands, hdenotes, rfl⟩ := Operands.exists_denotes hoperands
  exact ⟨⟨opcode, operands⟩, hdenotes, rfl⟩

/-- No two instructions begin the same bytes. -/
theorem Denotes.eq_of_append_eq {more more' : Bytes} (h : i.Denotes pool pc call)
    (h' : j.Denotes pool pc call') (heq : i.layout ++ more = j.layout ++ more') :
    i = j ∧ call = call' ∧ more = more' := by
  obtain ⟨hcall, hlayout, hmore⟩ := h.consumes.unique h'.consumes heq
  obtain ⟨opcode, operands⟩ := i
  obtain ⟨opcode', operands'⟩ := j
  obtain ⟨rfl, hoperands⟩ := List.cons.inj hlayout
  cases Operands.Denotes.eq_of_layout_eq h h' hoperands
  exact ⟨rfl, hcall, hmore⟩

end InstructionImage

/-- Instructions of which the first stands at `pc` and each other behind the one before it, and the
calls that they make. -/
inductive Stream (pool : ConstantPool) : Nat → List InstructionImage → List Invocation → Prop
  | nil {pc : Nat} : Stream pool pc [] []
  | cons {pc : Nat} {i : InstructionImage} {call : Option Invocation}
      {rest : List InstructionImage} {calls : List Invocation} (first : i.Denotes pool pc call)
      (others : Stream pool (pc + i.layout.length) rest calls) :
      Stream pool pc (i :: rest) (call.toList ++ calls)

/-- The code is the stream written down from the start. -/
def Decomposes (pool : ConstantPool) (code : Bytes) (is : List InstructionImage)
    (calls : List Invocation) : Prop :=
  Stream pool 0 is calls ∧ code = is.flatMap InstructionImage.layout

variable {pool : ConstantPool}

theorem Stream.unique {pc : Nat} {is is' : List InstructionImage} {calls calls' : List Invocation}
    (h : Stream pool pc is calls) (h' : Stream pool pc is' calls')
    (heq : is.flatMap InstructionImage.layout = is'.flatMap InstructionImage.layout) :
    is = is' ∧ calls = calls' := by
  induction h generalizing is' calls' with
  | nil =>
      cases h' with
      | nil => exact ⟨rfl, rfl⟩
      | cons => cases heq
  | cons first others ih =>
      cases h' with
      | nil => cases heq
      | cons first' others' =>
          rw [List.flatMap_cons, List.flatMap_cons] at heq
          obtain ⟨rfl, rfl, hrest⟩ := first.eq_of_append_eq first' heq
          obtain ⟨rfl, rfl⟩ := ih others' hrest
          exact ⟨rfl, rfl⟩

theorem Stream.exists_nil_iff {pc : Nat} {calls : List Invocation} :
    (∃ is, Stream pool pc is calls ∧ [] = is.flatMap InstructionImage.layout) ↔ calls = [] := by
  constructor
  · rintro ⟨is, hstream, hempty⟩
    cases hstream with
    | nil => rfl
    | cons => cases hempty
  · rintro rfl
    exact ⟨[], .nil, rfl⟩

namespace Instruction

theorem scan_of_atEnd {fuel : Nat} {c : Cursor} (h : c.rest = []) : scan pool fuel c = .ok [] := by
  cases fuel with
  | zero => rfl
  | succ fuel => exact if_pos (List.isEmpty_iff.mpr h)

theorem scan_succ {fuel : Nat} {c : Cursor} (h : c.rest ≠ []) :
    scan pool (fuel + 1) c = (do
      let (call, c') ← (decoderAt pool c.position).run c
      let others ← scan pool fuel c'
      return call.toList ++ others) := by
  have hend : ¬ c.atEnd = true := fun hend => h (List.isEmpty_iff.mp hend)
  rw [scan, if_neg hend, run_decoder]

/-- The walk follows the grammar, if the fuel reaches to the end of the code. -/
theorem scan_eq_ok_iff {fuel : Nat} {c : Cursor} {calls : List Invocation} (hc : c.overrun = 0)
    (hfuel : c.rest.length ≤ fuel) :
    scan pool fuel c = .ok calls ↔
      ∃ is, Stream pool c.position is calls ∧ c.rest = is.flatMap InstructionImage.layout := by
  induction fuel generalizing c calls with
  | zero =>
      have hrest : c.rest = [] := List.eq_nil_of_length_eq_zero (Nat.le_zero.mp hfuel)
      rw [scan_of_atEnd hrest, hrest, Stream.exists_nil_iff, Except.ok.injEq, eq_comm]
  | succ fuel ih =>
      by_cases hrest : c.rest = []
      · rw [scan_of_atEnd hrest, hrest, Stream.exists_nil_iff, Except.ok.injEq, eq_comm]
      rw [scan_succ hrest]
      -- behind an instruction there is less to read than in front of it
      have hbehind : ∀ (i : InstructionImage) (more : Bytes), c.rest = i.layout ++ more →
          ∀ others, scan pool fuel (c.advance i.layout.length) = .ok others ↔
            ∃ is, Stream pool (c.position + i.layout.length) is others ∧
              more = is.flatMap InstructionImage.layout := by
        intro i more hsplit others
        have hmore : (c.advance i.layout.length).rest = more := by
          rw [Cursor.advance_rest, hsplit, List.drop_left]
        have hlength : more.length ≤ fuel := by
          rw [hsplit, List.length_append, InstructionImage.layout, List.length_cons] at hfuel
          omega
        have hscan : scan pool fuel (c.advance i.layout.length) = .ok others ↔ _ :=
          ih hc (by rwa [hmore])
        rwa [hmore] at hscan
      constructor
      · intro h
        obtain ⟨⟨call, c'⟩, hfirst, hrun⟩ := exists_of_bind_eq_ok h
        obtain ⟨others, hothers, hcalls⟩ := exists_of_bind_eq_ok hrun
        obtain ⟨used, more, hsplit, rfl, hused⟩ :=
          InstructionImage.local_decoderAt pool c.position c c' call hc hfirst
        obtain ⟨i, hi, rfl⟩ := InstructionImage.exists_denotes hused
        obtain ⟨is, hstream, hmore⟩ := (hbehind i more hsplit others).mp hothers
        cases hcalls
        exact ⟨i :: is, .cons hi hstream, by rw [List.flatMap_cons, ← hmore, hsplit]⟩
      · rintro ⟨is, hstream, hlayout⟩
        cases hstream with
        | nil => exact absurd hlayout hrest
        | @cons _ i call rest others hi hothers =>
            rw [List.flatMap_cons] at hlayout
            rw [hi.consumes.accepts c _ hc hlayout]
            have hscan := (hbehind i _ hlayout others).mpr ⟨rest, hothers, rfl⟩
            show scan pool fuel (c.advance i.layout.length) >>= _ = _
            rw [hscan]
            rfl

end Instruction

/-- **The walk through a method body decodes its instructions.** It succeeds exactly on the bytes of
a stream of instructions, and returns the calls of that stream; no other stream has the same bytes;
and if none has them it fails. -/
theorem scanInstructions_decodes (pool : ConstantPool) (code : Bytes) :
    (∀ calls, scanInstructions code pool = .ok calls ↔ ∃ is, Decomposes pool code is calls) ∧
      (∀ is is' calls calls', Decomposes pool code is calls → Decomposes pool code is' calls' →
        is = is' ∧ calls = calls') ∧
      ((∃ fault, scanInstructions code pool = .error fault) ↔
        ¬ ∃ is calls, Decomposes pool code is calls) := by
  have hok : ∀ calls, scanInstructions code pool = .ok calls ↔
      ∃ is, Decomposes pool code is calls := by
    intro calls
    exact Instruction.scan_eq_ok_iff (by simp [Cursor.at]) (Nat.le_refl _)
  refine ⟨hok, ?_, ?_⟩
  · rintro is is' calls calls' ⟨hstream, hcode⟩ ⟨hstream', hcode'⟩
    exact hstream.unique hstream' (hcode.symm.trans hcode')
  · cases hscan : scanInstructions code pool with
    | ok calls =>
        obtain ⟨is, his⟩ := (hok calls).mp hscan
        simp only [reduceCtorEq, exists_false, false_iff, not_not]
        exact ⟨is, calls, his⟩
    | error fault =>
        refine ⟨fun _ => ?_, fun _ => ⟨fault, rfl⟩⟩
        rintro ⟨is, calls, his⟩
        rw [(hok calls).mpr ⟨is, his⟩] at hscan
        cases hscan

/-! ## A body with a switch and two calls -/

def sampleBodyPool : ConstantPool where
  slots := #[none, some (.utf8 "com/example/Task"), some (.classRef 1), some (.utf8 "run"),
    some (.utf8 "()V"), some (.nameAndType 3 4), some (.methodRef 2 5), some (.invokeDynamic 0 5)]

/-- A table for the values -1 and 0 behind two bytes of padding, a widened increment, two calls and
a return. The bytes between look like calls and are none. -/
def sampleBody : Bytes :=
  [0x00,
    0xAA, 0xB8, 0xB8, 0x00, 0x00, 0x00, 0x1D, 0xFF, 0xFF, 0xFF, 0xFF, 0x00, 0x00, 0x00, 0x00,
    0x00, 0x00, 0x00, 0xB8, 0x00, 0x00, 0x00, 0xB8,
    0xC4, 0x84, 0xB8, 0x00, 0x00, 0x01,
    0xB8, 0x00, 0x06,
    0xBA, 0x00, 0x07, 0x00, 0x00,
    0xB1]

theorem scanInstructions_decodes_sample :
    ∃ is, Decomposes sampleBodyPool sampleBody is
      [⟨30, 0xB8, "com.example.Task", "run", "()V"⟩,
        ⟨33, 0xBA, "java.lang.invoke.LambdaMetafactory", "run", "()V"⟩] := by
  obtain ⟨hok, -, -⟩ := scanInstructions_decodes sampleBodyPool sampleBody
  exact (hok _).mp (by decide)

end ClassAtlas.ClassFile
