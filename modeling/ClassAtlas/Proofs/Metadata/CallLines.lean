import ClassAtlas.Proofs.ClassFile.Lines
import ClassAtlas.Proofs.Metadata.Unread

/-!
# The lines of calls

A call is reported with the line of the nearest entry of the line table at or
before it, nearest by start and then by line. Which entry that is rests on which
entries the table has. So a table may be relisted, in another order and with
entries repeated or no longer repeated: the record gets other bytes there and
everything behind moves, and the metadata stay the same.
-/

namespace ClassAtlas

namespace ClassFile

/-! ## Relisted tables -/

/-- A body before and after the rows of a line table in it are listed anew. -/
inductive LinesEdit (pool : ConstantPool) : Bytes → Bytes → Prop
  | relisted {image : CodeImage} {nested front back : List AttributeImage} {a : AttributeImage}
      {rows rows' : List LineRow} {behind : Bytes} (hrange : image.InRange)
      (hnested : image.nested = front ++ a :: back)
      (hname : pool.utf8 a.name = .ok "LineNumberTable")
      (hbody : a.body = sizedLayout 2 LineRow.layout rows ++ behind)
      (hnested' : nested =
        front ++ { a with body := sizedLayout 2 LineRow.layout rows' ++ behind } :: back)
      (hcount : rows.length < 256 ^ 2) (hcount' : rows'.length < 256 ^ 2)
      (hsame : ∀ r, r ∈ rows ↔ r ∈ rows') (hrange' : TableInRange nested) :
      LinesEdit pool image.layout { image with nested := nested }.layout

/-- A record before and after a line table in a body of one of its methods is listed anew. -/
inductive Outline.Relined : Outline → Outline → Prop
  | ofMethod {o : Outline} {front back : List MemberImage} {m : MemberImage}
      {before behind : List AttributeImage} {a : AttributeImage} {body : Bytes}
      (hmethods : o.methods = front ++ m :: back)
      (hattributes : m.attributes = before ++ a :: behind)
      (hname : o.front.pool.utf8 a.name = .ok "Code") (h : LinesEdit o.front.pool a.body body) :
      Relined o
        { o with
          methods := front ++
            { m with attributes := before ++ { a with body := body } :: behind } :: back }

/-- A relisted body holds the same instructions and variables, and the same entries of lines up to
order and repetition. -/
theorem LinesEdit.exists_holds {pool : ConstantPool} {raw raw' instructions : Bytes}
    {entries : List (Nat × Nat)} {vars : List Code.LocalVariable} (h : LinesEdit pool raw raw')
    (hholds : Code.Holds pool raw instructions entries vars) :
    ∃ entries', Code.Holds pool raw' instructions entries' vars ∧
      ∀ e, e ∈ entries ↔ e ∈ entries' := by
  cases h with
  | @relisted image nested front back a rows rows' behind hrange hnested hname hbody hnested' hcount
      hcount' hsame hrange' =>
      obtain ⟨other, table, hother, hlayout, rfl, htable, hlines, hvars⟩ := hholds
      obtain rfl := CodeImage.eq_of_layout_eq hrange hother hlayout
      rw [hnested] at htable
      obtain ⟨table', htable', hget, hown⟩ :=
        htable.exists_replaced hname (sizedLayout 2 LineRow.layout rows' ++ behind)
      rw [← hnested'] at htable'
      have hvars' : VariablesIn pool table' vars := by
        rwa [VariablesIn, ← hget "LocalVariableTable" (by decide)]
      have hedited : { image with nested := nested }.InRange := { hrange with nested := hrange' }
      have hholds' : ∀ entries', LinesIn table' entries' →
          Code.Holds pool { image with nested := nested }.layout image.code entries' vars :=
        fun _ hentries => ⟨_, table', hedited, rfl, rfl, htable', hentries, hvars'⟩
      rcases hown with hunread | ⟨hbefore, hbehind⟩
      · -- another table stands in front and counts
        refine ⟨entries, hholds' entries ?_, fun _ => Iff.rfl⟩
        rwa [LinesIn, ← hunread]
      · rw [hbody] at hbefore
        have hentries : entries = rows.map LineRow.entry :=
          RowsOf.unique LineRow.readsRow hlines (linesIn_of_rows hcount hbefore)
        refine ⟨rows'.map LineRow.entry, hholds' _ (linesIn_of_rows hcount' hbehind), ?_⟩
        intro e
        rw [hentries]
        simp only [List.mem_map, hsame]

end ClassFile

open ClassAtlas.ClassFile

/-! ## Calls -/

/-- The call is reported as the invocation that it is, on the line of the nearest entry. -/
structure MethodCall.Reports (entries : List (Nat × Nat)) (invocation : Invocation)
    (call : MethodCall) : Prop where
  owner : call.owner = invocation.owner
  name : call.name = invocation.name
  descriptor : call.descriptor = invocation.descriptor
  line : ∀ line : Int, call.line = some line ↔
    ∃ e, Code.Nearest entries invocation.pc e ∧ line = e.2

section Calls

variable {code code' : Code}

theorem forall₂_callsOf (invocations : List Invocation) (entries : List (Nat × Nat))
    (locals : Table Nat String) :
    List.Forall₂ (MethodCall.Reports entries) invocations
      (callsOf (some ⟨invocations, entries.mergeSort Code.lineOrder, locals⟩)) := by
  rw [callsOf, List.forall₂_map_right_iff, List.forall₂_same]
  intro invocation _
  refine ⟨rfl, rfl, rfl, fun line => ?_⟩
  rw [Option.map_eq_some_iff]
  constructor
  · rintro ⟨found, hfound, rfl⟩
    obtain ⟨start, hnearest⟩ := (Code.lineAt_eq_some_iff rfl).mp hfound
    exact ⟨(start, found), hnearest, rfl⟩
  · rintro ⟨⟨start, found⟩, hnearest, rfl⟩
    exact ⟨found, (Code.lineAt_eq_some_iff rfl).mpr ⟨start, hnearest⟩, rfl⟩

theorem callsOf_congr (hinvocations : code'.invocations = code.invocations)
    (hline : ∀ pc, code'.lineAt pc = code.lineAt pc) :
    callsOf (some code') = callsOf (some code) := by
  simp only [callsOf, hinvocations, hline]

/-- A relisted body is decoded too, and reports what it reported before. -/
theorem exists_bodiesAgree_of_linesEdit {pool : ConstantPool} {raw raw' : Bytes}
    (h : LinesEdit pool raw raw') (hcode : Code.ofBody raw pool = .ok code) :
    ∃ code', Code.ofBody raw' pool = .ok code' ∧ BodiesAgree (some code) (some code') := by
  obtain ⟨instructions, entries, vars, hholds⟩ := Code.exists_holds hcode
  obtain ⟨entries', hholds', hsame⟩ := h.exists_holds hholds
  obtain ⟨invocations, hscan, rfl⟩ := hholds.ofBody_eq_ok_iff.mp hcode
  refine ⟨_, hholds'.ofBody_eq_ok_iff.mpr ⟨invocations, hscan, rfl⟩, ?_, rfl⟩
  exact callsOf_congr rfl fun pc => (Code.lineAt_congr rfl rfl hsame pc).symm

end Calls

/-! ## Methods -/

/-- Both are left out or both kept, and the second one has the first one's metadata. -/
structure Member.Replaces (pool : ConstantPool) (a b : Member) : Prop where
  access : a.access = b.access
  info : ∀ m, MethodInfo.ofMember a pool = .ok m → MethodInfo.ofMember b pool = .ok m

theorem Member.Replaces.refl {pool : ConstantPool} (a : Member) : Member.Replaces pool a a :=
  ⟨rfl, fun _ h => h⟩

namespace ClassFile

/-- A method with a relisted body stands for one with the same metadata. -/
theorem MemberImage.exists_replaces {pool : ConstantPool} {m : MemberImage}
    {before behind : List AttributeImage} {a : AttributeImage} {body : Bytes}
    (hattributes : m.attributes = before ++ a :: behind) (hname : pool.utf8 a.name = .ok "Code")
    (h : LinesEdit pool a.body body) (member : Member) (hm : m.Resolves pool member) :
    ∃ member', MemberImage.Resolves pool
        { m with attributes := before ++ { a with body := body } :: behind } member' ∧
      Member.Replaces pool member member' := by
  have htable := hm.attributes
  rw [hattributes] at htable
  obtain ⟨table, hresolves, hget, hown⟩ := htable.exists_replaced hname body
  refine ⟨{ member with attributes := table }, ⟨hm.access, hm.name, hm.descriptor, hresolves⟩, rfl,
    fun info => MethodInfo.ofMember_eq_ok_of_reads rfl rfl rfl (fun k _ hk => hget k hk) ?_⟩
  intro code hcode
  rcases hown with hunread | ⟨hbefore, hbehind⟩
  · rw [Code.decode, hunread] at hcode
    exact ⟨code, hcode, rfl, rfl⟩
  · obtain ⟨decoded, hdecoded, rfl⟩ := (Code.decode_eq_ok_iff hbefore).mp hcode
    obtain ⟨code', hcode', hagree⟩ := exists_bodiesAgree_of_linesEdit h hdecoded
    exact ⟨some code', (Code.decode_eq_ok_iff hbehind).mpr ⟨code', hcode', rfl⟩, hagree⟩

end ClassFile

/-! ## Records -/

theorem ClassInfo.ofStructure_eq_ok_of_replaces {raw : ClassStructure} {methods : List Member}
    {includePrivate : Bool} {info : ClassInfo}
    (h : List.Forall₂ (Member.Replaces raw.pool) raw.methods methods)
    (hinfo : ClassInfo.ofStructure raw includePrivate = .ok info) :
    ClassInfo.ofStructure { raw with methods := methods } includePrivate = .ok info := by
  obtain ⟨infos, fields, annotations, sourceFile, hinfos, hfields, hdecode, hsource, rfl⟩ :=
    ClassInfo.ofStructure_eq_ok_iff.mp hinfo
  have hkept : List.Forall₂ (Member.Replaces raw.pool) (keptMethods raw includePrivate)
      (keptMethods { raw with methods := methods } includePrivate) := by
    refine List.rel_filter (fun a b hab => ?_) h
    simp only [hab.access]
  exact ClassInfo.ofStructure_eq_ok_iff.mpr ⟨infos, fields, annotations, sourceFile,
    forall₂_of_alike hkept hinfos fun _ _ m hab => hab.info m, hfields, hdecode, hsource, rfl⟩

theorem extractClass_of_relined {o o' : Outline} {includePrivate : Bool} {info : ClassInfo}
    (hrange : o.InRange) (hrange' : o'.InRange) (h : o.Relined o')
    (hinfo : extractClass o.layout includePrivate = .ok info) :
    extractClass o'.layout includePrivate = .ok info := by
  obtain ⟨hvalid, raw, hparse, hmodule, hinfo⟩ := extractClass_eq_ok_iff_structure.mp hinfo
  have hraw := Outline.resolves_of_parse hrange hparse
  have hpool : raw.pool = o.front.pool := by
    rw [hraw.front]
    rfl
  cases h with
  | ofMethod hmethods hattributes hname h =>
      have hresolves := hraw.methods
      rw [hmethods] at hresolves
      obtain ⟨methods, hresolves', hreplaces⟩ := exists_forall₂_replace
        (S := Member.Replaces o.front.pool) .refl hresolves
        (MemberImage.exists_replaces hattributes hname h)
      refine extractClass_eq_ok_iff_structure.mpr ⟨?_, { raw with methods := methods }, ?_, hmodule,
        ClassInfo.ofStructure_eq_ok_of_replaces (hpool ▸ hreplaces) hinfo⟩
      · rw [← hvalid]
        apply validate_congr
        rw [Outline.take_headerLength_layout, Outline.take_headerLength_layout]
      · refine Outline.parse_of_resolves hrange' ⟨?_, hraw.fields, hresolves', hraw.attributes⟩
        rw [hraw.front]
        rfl

/-- **A call has the line of the nearest entry at or before it.** In a body that is decoded, a place
has no line if every entry of the line table starts behind it, and otherwise the line of the
greatest entry, by start and then by line, that does not. The calls of a method are reported on
these lines, and they stay as they are when a line table is relisted. -/
theorem calls_on_nearest_lines :
    (∀ (pool : ConstantPool) (raw : Bytes) (code : Code), Code.ofBody raw pool = .ok code →
      (∃ instructions entries vars, Code.Holds pool raw instructions entries vars) ∧
      ∀ instructions entries vars, Code.Holds pool raw instructions entries vars → ∀ pc : Int,
        (code.lineAt pc = none ↔ ∀ e ∈ entries, ¬ (e.1 : Int) ≤ pc) ∧
        ∀ line, code.lineAt pc = some line ↔ ∃ start, Code.Nearest entries pc (start, line)) ∧
    (∀ (pool : ConstantPool) (member : Member) (m : MethodInfo) (raw : Bytes),
      MethodInfo.ofMember member pool = .ok m → member.attributes.get? "Code" = some raw →
      ∃ instructions entries vars invocations, Code.Holds pool raw instructions entries vars ∧
        scanInstructions instructions pool = .ok invocations ∧
        List.Forall₂ (MethodCall.Reports entries) invocations m.calls) ∧
    ∀ (o o' : Outline) (includePrivate : Bool) (info : ClassInfo), o.InRange → o'.InRange →
      o.Relined o' → extractClass o.layout includePrivate = .ok info →
      extractClass o'.layout includePrivate = .ok info := by
  refine ⟨?_, ?_, fun o o' includePrivate info => extractClass_of_relined⟩
  · intro pool raw code hcode
    refine ⟨Code.exists_holds hcode, ?_⟩
    intro instructions entries vars hholds pc
    obtain ⟨invocations, -, rfl⟩ := hholds.ofBody_eq_ok_iff.mp hcode
    exact ⟨Code.lineAt_eq_none_iff rfl, fun line => Code.lineAt_eq_some_iff rfl⟩
  · intro pool member m raw hm hraw
    obtain ⟨types, returnType, code, declared, annotations, exceptions, -, hcode, -, -, -, rfl⟩ :=
      MethodInfo.ofMember_eq_ok_iff.mp hm
    obtain ⟨decoded, hdecoded, rfl⟩ := (Code.decode_eq_ok_iff hraw).mp hcode
    obtain ⟨instructions, entries, vars, hholds⟩ := Code.exists_holds hdecoded
    obtain ⟨invocations, hscan, rfl⟩ := hholds.ofBody_eq_ok_iff.mp hdecoded
    exact ⟨instructions, entries, vars, invocations, hholds, hscan,
      forall₂_callsOf invocations entries _⟩

/-! ## A sample -/

/-- The front of `callingRecord` with the name of line tables among the constants. -/
def tracedFront : Front :=
  { callingFront with pool := ⟨callingFront.pool.slots.push (some (.utf8 "LineNumberTable"))⟩ }

def tracedHead : Bytes :=
  [0, 0, 0, 61, 0, 10] ++ (callingRecord.drop 10).take 41 ++
    [1, 0, 15, 0x4C, 0x69, 0x6E, 0x65, 0x4E, 0x75, 0x6D, 0x62, 0x65, 0x72, 0x54, 0x61, 0x62, 0x6C,
      0x65] ++ (callingRecord.drop 51).take 8

/-- A body that calls at three places, with a line table. -/
def tracedBody (rows : List LineRow) : CodeImage :=
  { callingBody with
    code := [0xB8, 0, 8, 0xB8, 0, 8, 0xB8, 0, 8, 0xB1]
    nested := [⟨9, sizedLayout 2 LineRow.layout rows⟩] }

def tracedOutline (rows : List LineRow) : Outline :=
  { callingOutline with
    head := tracedHead
    front := tracedFront
    fields := []
    methods := [⟨9, 3, 4, [⟨5, (tracedBody rows).layout⟩]⟩]
    consumes_head := Front.local_decoder.consumes_of_run_before (by rfl) }

/-- Two lines start at one place, and none starts at the first call. -/
def tracedRows : List LineRow := [⟨6, 2⟩, ⟨3, 9⟩, ⟨3, 5⟩]

def relistedRows : List LineRow := [⟨3, 5⟩, ⟨3, 9⟩, ⟨6, 2⟩, ⟨3, 5⟩]

theorem relined_tracedOutline :
    (tracedOutline tracedRows).Relined (tracedOutline relistedRows) := by
  have hsame : ∀ r, r ∈ tracedRows ↔ r ∈ relistedRows := by
    intro r
    simp only [tracedRows, relistedRows, List.mem_cons, List.not_mem_nil, or_false]
    tauto
  have hnested : (tracedBody tracedRows).nested =
      [] ++ ⟨9, sizedLayout 2 LineRow.layout tracedRows⟩ :: [] := rfl
  have hnested' : (tracedBody relistedRows).nested =
      [] ++ ⟨9, sizedLayout 2 LineRow.layout relistedRows ++ []⟩ :: [] := by
    rw [List.append_nil]
    rfl
  have hcode : LinesEdit tracedFront.pool (tracedBody tracedRows).layout
      (tracedBody relistedRows).layout :=
    .relisted (by decide) hnested rfl (List.append_nil _).symm hnested' (by decide) (by decide)
      hsame (by decide)
  have hmethods : (tracedOutline tracedRows).methods =
      [] ++ ⟨9, 3, 4, [] ++ ⟨5, (tracedBody tracedRows).layout⟩ :: []⟩ :: [] := rfl
  exact .ofMethod hmethods rfl rfl hcode

theorem holds_tracedBody :
    Code.Holds tracedFront.pool (tracedBody tracedRows).layout (tracedBody tracedRows).code
      [(6, 2), (3, 9), (3, 5)] [] := by
  refine ⟨tracedBody tracedRows,
    Attributes.ofList [("LineNumberTable", sizedLayout 2 LineRow.layout tracedRows)], by decide,
    rfl, rfl, ⟨_, .cons ⟨rfl, rfl⟩ .nil, rfl⟩, ?_, ?_⟩
  · have hlines : (Attributes.ofList [("LineNumberTable", sizedLayout 2 LineRow.layout tracedRows)]
        ).get? "LineNumberTable" = some (sizedLayout 2 LineRow.layout tracedRows ++ []) := by
      rw [List.append_nil]
      rfl
    exact linesIn_of_rows (by decide) hlines
  · exact .missing

/-- Among the lines that start at one place the greatest counts, in whatever order they stand. -/
theorem calls_on_nearest_lines_sample :
    ∃ code info, Code.ofBody (tracedBody tracedRows).layout tracedFront.pool = .ok code ∧
      code.lineAt 0 = none ∧ code.lineAt 3 = some 9 ∧ code.lineAt 6 = some 2 ∧
      (tracedOutline tracedRows).InRange ∧ (tracedOutline relistedRows).InRange ∧
      (tracedOutline tracedRows).Relined (tracedOutline relistedRows) ∧
      extractClass (tracedOutline tracedRows).layout = .ok info ∧
      extractClass (tracedOutline relistedRows).layout = .ok info := by
  obtain ⟨hbodies, -, hrecords⟩ := calls_on_nearest_lines
  have hrange : (tracedOutline tracedRows).InRange := by decide
  have hrange' : (tracedOutline relistedRows).InRange := by decide
  obtain ⟨info, hinfo⟩ : ∃ info, extractClass (tracedOutline tracedRows).layout = .ok info :=
    exists_eq_ok_of_isSome (by decide +kernel)
  obtain ⟨code, hcode⟩ :
      ∃ code, Code.ofBody (tracedBody tracedRows).layout tracedFront.pool = .ok code :=
    exists_eq_ok_of_isSome (by decide +kernel)
  have hline := (hbodies _ _ code hcode).2 _ _ _ holds_tracedBody
  refine ⟨code, info, hcode, (hline 0).1.mpr (by decide), ?_, ?_, hrange, hrange',
    relined_tracedOutline, hinfo, hrecords _ _ _ _ hrange hrange' relined_tracedOutline hinfo⟩
  · exact ((hline 3).2 9).mpr ⟨3, by decide, by decide, by decide⟩
  · exact ((hline 6).2 2).mpr ⟨6, by decide, by decide, by decide⟩

end ClassAtlas
