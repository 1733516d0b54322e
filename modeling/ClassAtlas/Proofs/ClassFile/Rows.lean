import ClassAtlas.Proofs.ClassFile.Tables
import ClassAtlas.Proofs.Notices

/-!
# Tables of rows inside attributes

Line numbers, local variables and parameter names come in counted tables of rows
of one width. `RowsOf` says which values the table in an attribute's body stands
for, by the bytes that it is written with; a missing attribute stands for no
values. Reading a table succeeds exactly with these values, and whatever stands
behind the rows is not looked at.

The tables of lines and of variables are nested in a method body. A body that is
decoded holds each of them, and its lines and variables are made of their rows.
-/

namespace ClassAtlas.ClassFile

open Decoder

/-! ## Counted rows -/

section Rows

variable {ι α : Type} {width : Nat} {written : ι → Bytes} {stands : ι → α → Prop}

/-- A count of `width` bytes, then the rows. -/
def sizedLayout (width : Nat) (written : ι → Bytes) (rows : List ι) : Bytes :=
  bigEndianBytes width rows.length ++ rows.flatMap written

variable (width written stands) in
/-- The values that an attribute holds, one for each of its rows, in order. -/
inductive RowsOf : Option Bytes → List α → Prop
  | missing : RowsOf none []
  | rows {rows : List ι} {values : List α} (behind : Bytes) (hcount : rows.length < 256 ^ width)
      (h : List.Forall₂ stands rows values) :
      RowsOf (some (sizedLayout width written rows ++ behind)) values

/-- Reads the table of an attribute that may be missing. -/
def readRows (width : Nat) (d : Decoder α) (subject : String) :
    Option Bytes → Except Fault (List α)
  | none => .ok []
  | some body => (Decoder.unsigned width >>= fun n => Decoder.times n d).runOn subject body

/-- A row is written in one way, and reading it gives what it stands for. -/
structure ReadsRow (d : Decoder α) (written : ι → Bytes) (stands : ι → α → Prop) : Prop where
  isLocal : d.Local
  consumes : ∀ i v, stands i v → d.Consumes (written i) v
  exists_row : ∀ used v, d.Consumes used v → ∃ i, stands i v ∧ used = written i

/-- A table is read as what its rows stand for. -/
theorem readRows_eq_ok_iff {d : Decoder α} (h : ReadsRow d written stands) {subject : String}
    {body : Option Bytes} {values : List α} :
    readRows width d subject body = .ok values ↔ RowsOf width written stands body values := by
  cases body with
  | none =>
      constructor
      · intro hread
        cases hread
        exact .missing
      · intro hrows
        cases hrows
        rfl
  | some bytes =>
      constructor
      · intro hread
        obtain ⟨used, behind, rfl, hused⟩ :=
          ((Local.unsigned width).bind fun n => h.isLocal.times n).exists_of_runOn hread
        obtain ⟨n, used₁, used₂, hn, htimes, rfl⟩ :=
          hused.exists_of_bind (Local.unsigned width) fun n => h.isLocal.times n
        obtain ⟨hlt, rfl⟩ := hn.of_unsigned
        obtain ⟨rows, hrows, rfl, rfl⟩ := Consumes.of_times h.isLocal h.exists_row htimes
        exact .rows behind hlt hrows
      · intro hrows
        cases hrows with
        | rows behind hcount hrows =>
            refine Consumes.runOn_append ?_ subject behind
            refine (Consumes.unsigned hcount).bind ?_
            rw [hrows.length_eq]
            exact Consumes.times hrows fun i _ v => h.consumes i v

theorem RowsOf.unique {d : Decoder α} (h : ReadsRow d written stands) {body : Option Bytes}
    {values values' : List α} (hrows : RowsOf width written stands body values)
    (hrows' : RowsOf width written stands body values') : values = values' := by
  have hread : readRows width d "" body = .ok values := (readRows_eq_ok_iff h).mpr hrows
  have hread' : readRows width d "" body = .ok values' := (readRows_eq_ok_iff h).mpr hrows'
  exact Except.ok.inj (hread.symm.trans hread')

/-- Where something is made of the values that are read, there are values. -/
theorem exists_rowsOf_of_map {β : Type} {d : Decoder α} (h : ReadsRow d written stands)
    {subject : String} {body : Option Bytes} {f : List α → β} {b : β}
    (hread : (readRows width d subject body).map f = .ok b) :
    ∃ values, RowsOf width written stands body values := by
  cases hvalues : readRows width d subject body with
  | error fault =>
      rw [hvalues] at hread
      cases hread
  | ok values => exact ⟨values, (readRows_eq_ok_iff h).mp hvalues⟩

end Rows

/-! ## Lines -/

/-- A row of the line table: where the code of a line starts, and the line. -/
structure LineRow where
  start : BitVec 16
  line : BitVec 16
  deriving DecidableEq

namespace LineRow

def layout (r : LineRow) : Bytes :=
  bigEndianBytes 2 r.start.toNat ++ bigEndianBytes 2 r.line.toNat

def entry (r : LineRow) : Nat × Nat := (r.start.toNat, r.line.toNat)

theorem readsRow : ReadsRow Code.lineDecoder LineRow.layout fun r e => r.entry = e where
  isLocal := Local.u2.bind fun _ => Local.u2.map _
  consumes := by
    rintro r _ rfl
    exact (Consumes.u2 r.start.isLt).bind ((Consumes.u2 r.line.isLt).map _)
  exists_row := by
    intro used e h
    obtain ⟨start, _, _, hstart, hrest, rfl⟩ := h.exists_of_bind Local.u2 fun _ => Local.u2.map _
    obtain ⟨line, hline, rfl⟩ := hrest.of_map Local.u2
    obtain ⟨hstartLt, rfl⟩ := hstart.of_u2
    obtain ⟨hlineLt, rfl⟩ := hline.of_u2
    exact ⟨⟨BitVec.ofNatLT start hstartLt, BitVec.ofNatLT line hlineLt⟩, rfl, rfl⟩

end LineRow

/-- The entries of the line table of a body, in table order. -/
def LinesIn (table : Attributes) (entries : List (Nat × Nat)) : Prop :=
  RowsOf 2 LineRow.layout (fun r e => r.entry = e) (table.get? "LineNumberTable") entries

theorem linesIn_of_rows {table : Attributes} {rows : List LineRow} {behind : Bytes}
    (hcount : rows.length < 256 ^ 2)
    (h : table.get? "LineNumberTable" = some (sizedLayout 2 LineRow.layout rows ++ behind)) :
    LinesIn table (rows.map LineRow.entry) := by
  rw [LinesIn, h]
  refine .rows behind hcount ?_
  rw [List.forall₂_map_right_iff, List.forall₂_same]
  intro _ _
  rfl

theorem Code.linesOf_eq (table : Attributes) :
    Code.linesOf table = (readRows 2 Code.lineDecoder "LineNumberTable"
      (table.get? "LineNumberTable")).map (List.mergeSort · Code.lineOrder) := by
  unfold Code.linesOf
  cases table.get? "LineNumberTable" with
  | none => simp [readRows, Except.map]
  | some body => rfl

/-! ## Local variables -/

/-- A row of the table of local variables: where a variable is live from and for how long, the slots
of its name and descriptor in the pool, and the slot that it takes. -/
structure VariableRow where
  start : BitVec 16
  length : BitVec 16
  name : BitVec 16
  descriptor : BitVec 16
  slot : BitVec 16
  deriving DecidableEq

namespace VariableRow

def layout (r : VariableRow) : Bytes :=
  bigEndianBytes 2 r.start.toNat ++ (bigEndianBytes 2 r.length.toNat ++
    (bigEndianBytes 2 r.name.toNat ++ (bigEndianBytes 2 r.descriptor.toNat ++
      bigEndianBytes 2 r.slot.toNat)))

/-- The variable that the row is about. -/
structure Resolves (pool : ConstantPool) (r : VariableRow) (v : Code.LocalVariable) : Prop where
  start : v.start = r.start.toNat
  slot : v.slot = r.slot.toNat
  name : pool.utf8 r.name.toNat = .ok v.name

theorem readsRow (pool : ConstantPool) :
    ReadsRow (Code.localDecoder pool) VariableRow.layout (VariableRow.Resolves pool) where
  isLocal := Local.u2.bind fun _ => Local.u2.bind fun _ => Local.u2.bind fun _ =>
    (Local.lift _).bind fun _ => Local.u2.bind fun _ => Local.u2.map _
  consumes := by
    rintro r ⟨start, slot, name⟩ ⟨rfl, rfl, hname⟩
    refine (Consumes.u2 r.start.isLt).bind ((Consumes.u2 r.length.isLt).bind ?_)
    refine (Consumes.u2 r.name.isLt).bind (Consumes.lift_bind hname ?_)
    exact (Consumes.u2 r.descriptor.isLt).bind ((Consumes.u2 r.slot.isLt).map _)
  exists_row := by
    intro used v h
    obtain ⟨start, _, _, hstart, h₁, rfl⟩ := h.exists_of_bind Local.u2 fun _ =>
      Local.u2.bind fun _ => Local.u2.bind fun _ => (Local.lift _).bind fun _ =>
        Local.u2.bind fun _ => Local.u2.map _
    obtain ⟨length, _, _, hlength, h₂, rfl⟩ := h₁.exists_of_bind Local.u2 fun _ =>
      Local.u2.bind fun _ => (Local.lift _).bind fun _ => Local.u2.bind fun _ => Local.u2.map _
    obtain ⟨name, _, _, hname, h₃, rfl⟩ := h₂.exists_of_bind Local.u2 fun _ =>
      (Local.lift _).bind fun _ => Local.u2.bind fun _ => Local.u2.map _
    obtain ⟨text, htext, h₄⟩ := h₃.of_lift_bind
    obtain ⟨descriptor, _, _, hdescriptor, h₅, rfl⟩ :=
      h₄.exists_of_bind Local.u2 fun _ => Local.u2.map _
    obtain ⟨slot, hslot, rfl⟩ := h₅.of_map Local.u2
    obtain ⟨hstartLt, rfl⟩ := hstart.of_u2
    obtain ⟨hlengthLt, rfl⟩ := hlength.of_u2
    obtain ⟨hnameLt, rfl⟩ := hname.of_u2
    obtain ⟨hdescriptorLt, rfl⟩ := hdescriptor.of_u2
    obtain ⟨hslotLt, rfl⟩ := hslot.of_u2
    exact ⟨⟨BitVec.ofNatLT start hstartLt, BitVec.ofNatLT length hlengthLt,
      BitVec.ofNatLT name hnameLt, BitVec.ofNatLT descriptor hdescriptorLt,
      BitVec.ofNatLT slot hslotLt⟩, ⟨rfl, rfl, htext⟩, rfl⟩

end VariableRow

/-- The rows of the table of local variables of a body, in table order. -/
def VariablesIn (pool : ConstantPool) (table : Attributes) (vars : List Code.LocalVariable) :
    Prop :=
  RowsOf 2 VariableRow.layout (VariableRow.Resolves pool) (table.get? "LocalVariableTable") vars

theorem Code.localsOf_eq (table : Attributes) (pool : ConstantPool) :
    Code.localsOf table pool = (readRows 2 (Code.localDecoder pool) "LocalVariableTable"
      (table.get? "LocalVariableTable")).map Code.namesBySlot := by
  unfold Code.localsOf
  cases table.get? "LocalVariableTable" <;> rfl

/-! ## Bodies -/

namespace Code

variable {pool : ConstantPool} {raw instructions : Bytes} {entries : List (Nat × Nat)}
  {vars : List LocalVariable}

/-- What the bytes of a body hold: instructions, the entries of the line table and the rows of the
table of variables, both in table order. -/
def Holds (pool : ConstantPool) (raw instructions : Bytes) (entries : List (Nat × Nat))
    (vars : List LocalVariable) : Prop :=
  ∃ (image : CodeImage) (table : Attributes), image.InRange ∧ raw = image.layout ∧
    image.code = instructions ∧ TableResolves pool image.nested table ∧ LinesIn table entries ∧
    VariablesIn pool table vars

/-- A body is decoded if its instructions can be, and its parts are those that it holds. -/
theorem Holds.ofBody_eq (h : Holds pool raw instructions entries vars) :
    ofBody raw pool = (scanInstructions instructions pool).map fun invocations =>
      ⟨invocations, entries.mergeSort lineOrder, namesBySlot vars⟩ := by
  obtain ⟨image, table, hrange, rfl, rfl, hnested, hlines, hvars⟩ := h
  rw [ofBody, runOn_bodyDecoder hrange hnested]
  have hlinesOf : linesOf table = .ok (entries.mergeSort lineOrder) := by
    rw [linesOf_eq, (readRows_eq_ok_iff LineRow.readsRow).mpr hlines]
    rfl
  have hlocalsOf : localsOf table pool = .ok (namesBySlot vars) := by
    rw [localsOf_eq, (readRows_eq_ok_iff (VariableRow.readsRow pool)).mpr hvars]
    rfl
  show (scanInstructions image.code pool >>= fun _ => linesOf table >>= fun _ => _) = _
  rw [hlinesOf, hlocalsOf]
  cases scanInstructions image.code pool <;> rfl

theorem Holds.ofBody_eq_ok_iff (h : Holds pool raw instructions entries vars) {code : Code} :
    ofBody raw pool = .ok code ↔ ∃ invocations,
      scanInstructions instructions pool = .ok invocations ∧
      code = ⟨invocations, entries.mergeSort lineOrder, namesBySlot vars⟩ := by
  rw [h.ofBody_eq]
  cases scanInstructions instructions pool with
  | error fault => simp [Except.map]
  | ok invocations => simp [Except.map, eq_comm]

theorem exists_holds {code : Code} (h : ofBody raw pool = .ok code) :
    ∃ instructions entries vars, Holds pool raw instructions entries vars := by
  obtain ⟨⟨instructions, table⟩, hrun, h⟩ := Noted.exists_of_bind_eq_ok h
  obtain ⟨invocations, -, h⟩ := Noted.exists_of_bind_eq_ok h
  obtain ⟨lines, hlines, h⟩ := Noted.exists_of_bind_eq_ok h
  obtain ⟨locals, hlocals, -⟩ := Noted.exists_of_bind_eq_ok h
  obtain ⟨image, hrange, hnested, rfl⟩ := Code.exists_image hrun
  rw [linesOf_eq] at hlines
  rw [localsOf_eq] at hlocals
  obtain ⟨entries, hentries⟩ := exists_rowsOf_of_map LineRow.readsRow hlines
  obtain ⟨vars, hvars⟩ := exists_rowsOf_of_map (VariableRow.readsRow pool) hlocals
  exact ⟨image.code, entries, vars, image, table, hrange, rfl, rfl, hnested, hentries, hvars⟩

end Code

end ClassAtlas.ClassFile
