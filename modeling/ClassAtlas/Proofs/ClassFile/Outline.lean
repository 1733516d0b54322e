import ClassAtlas.Proofs.ClassFile.Tables

/-!
# The outline of a class record

A record that is decoded consists of four bytes, a front that holds the pool and
the class's own names, the tables of fields, methods and attributes, and
whatever stands behind them. An `Outline` keeps the front as the bytes it is and
the tables as images, so that tables can be changed and laid out again. Decoding
and layout determine one another here too: every decoded record is the layout of
exactly one outline.
-/

namespace ClassAtlas.ClassFile

open Decoder

/-! ## Outlines -/

/-- A record with its tables laid open. -/
@[ext]
structure Outline where
  opening : Bytes
  head : Bytes
  front : Front
  fields : List MemberImage
  methods : List MemberImage
  attributes : List AttributeImage
  trailing : Bytes
  length_opening : opening.length = 4
  consumes_head : Front.decoder.Consumes head front

namespace Outline

def tables (o : Outline) : Bytes :=
  tableLayout MemberImage.layout o.fields ++ (tableLayout MemberImage.layout o.methods ++
    tableLayout AttributeImage.layout o.attributes)

def layout (o : Outline) : Bytes := o.opening ++ ((o.head ++ o.tables) ++ o.trailing)

/-- Tables can be counted, and their numbers fit their fields. -/
@[mk_iff]
structure InRange (o : Outline) : Prop where
  fieldCount : o.fields.length < 2 ^ 16
  fields : ∀ m ∈ o.fields, m.InRange
  methodCount : o.methods.length < 2 ^ 16
  methods : ∀ m ∈ o.methods, m.InRange
  attributes : TableInRange o.attributes

instance (o : Outline) : Decidable o.InRange := decidable_of_iff _ (inRange_iff o).symm

/-- The structure that an outline stands for: names of the pool for slot numbers. -/
structure Resolves (o : Outline) (raw : ClassStructure) : Prop where
  front : raw = o.front.withTables raw.fields raw.methods raw.attributes
  fields : List.Forall₂ (MemberImage.Resolves o.front.pool) o.fields raw.fields
  methods : List.Forall₂ (MemberImage.Resolves o.front.pool) o.methods raw.methods
  attributes : TableResolves o.front.pool o.attributes raw.attributes

variable {o : Outline} {raw : ClassStructure}

theorem consumes_tables (hrange : o.InRange) (h : o.Resolves raw) :
    o.front.tablesDecoder.Consumes o.tables raw := by
  rw [h.front]
  refine (Consumes.counted hrange.fieldCount h.fields fun m hm _ hmember =>
    Member.consumes_decoder (hrange.fields m hm) hmember).bind ?_
  refine (Consumes.counted hrange.methodCount h.methods fun m hm _ hmember =>
    Member.consumes_decoder (hrange.methods m hm) hmember).bind ?_
  exact (Attributes.consumes_decoder hrange.attributes h.attributes).map
    (o.front.withTables raw.fields raw.methods)

theorem parse_of_resolves (hrange : o.InRange) (h : o.Resolves raw) :
    ClassStructure.parse o.layout = .ok raw := by
  have hused : ClassStructure.decoder.Consumes (o.head ++ o.tables) raw := by
    rw [Front.decoder_bind_tablesDecoder]
    exact o.consumes_head.bind (consumes_tables hrange h)
  exact ClassStructure.parse_of_used hused o.length_opening

/-- Every record that is decoded is the layout of an outline. -/
theorem exists_of_parse {data : Bytes} (hlen : 4 ≤ data.length)
    (h : ClassStructure.parse data = .ok raw) :
    ∃ o : Outline, o.InRange ∧ o.Resolves raw ∧ o.layout = data := by
  obtain ⟨c, hrun⟩ := ClassStructure.parse_eq_ok_iff.mp h
  obtain ⟨opening, used, trailing, rfl, hopening, -, hused⟩ :=
    ClassStructure.exists_used hlen hrun
  rw [Front.decoder_bind_tablesDecoder] at hused
  obtain ⟨front, head, _, hhead, h₁, rfl⟩ :=
    hused.exists_of_bind Front.local_decoder Front.local_tablesDecoder
  have hmember := Member.local_decoder front.pool
  have htable := Attributes.local_decoder front.pool
  obtain ⟨fields, _, _, hfields, h₂, rfl⟩ := h₁.exists_of_bind hmember.counted fun _ =>
    hmember.counted.bind fun _ => htable.map _
  obtain ⟨methods, _, _, hmethods, h₃, rfl⟩ :=
    h₂.exists_of_bind hmember.counted fun _ => htable.map _
  obtain ⟨attributes, hattributes, rfl⟩ := h₃.of_map htable
  obtain ⟨fieldImages, hfieldCount, hfieldRange, hfieldResolves, rfl⟩ :=
    Member.exists_images hfields
  obtain ⟨methodImages, hmethodCount, hmethodRange, hmethodResolves, rfl⟩ :=
    Member.exists_images hmethods
  obtain ⟨images, himages, hresolves, rfl⟩ := Attributes.exists_images hattributes
  exact ⟨⟨opening, head, front, fieldImages, methodImages, images, trailing, hopening, hhead⟩,
    ⟨hfieldCount, hfieldRange, hmethodCount, hmethodRange, himages⟩,
    ⟨rfl, hfieldResolves, hmethodResolves, hresolves⟩, rfl⟩

/-- A record has one outline: its front is what a local decoder consumes, and its tables can be
read back. -/
theorem eq_of_layout_eq {o other : Outline} (hrange : o.InRange) (hother : other.InRange)
    (heq : o.layout = other.layout) : o = other := by
  obtain ⟨hopening, heq⟩ :=
    List.append_inj heq (o.length_opening.trans other.length_opening.symm)
  rw [List.append_assoc, List.append_assoc] at heq
  obtain ⟨hfront, hhead, heq⟩ := o.consumes_head.unique other.consumes_head heq
  rw [tables, tables, List.append_assoc, List.append_assoc, List.append_assoc,
    List.append_assoc] at heq
  have hmembers : ∀ images : List MemberImage, images.length < 2 ^ 16 →
      (∀ m ∈ images, m.InRange) → (Decoder.counted MemberImage.decoder).Consumes
        (tableLayout MemberImage.layout images) images :=
    fun images hcount hin => consumes_images hcount fun m hm => (hin m hm).consumes
  obtain ⟨hfields, -, heq⟩ := (hmembers _ hrange.fieldCount hrange.fields).unique
    (hmembers _ hother.fieldCount hother.fields) heq
  obtain ⟨hmethods, -, heq⟩ := (hmembers _ hrange.methodCount hrange.methods).unique
    (hmembers _ hother.methodCount hother.methods) heq
  obtain ⟨hattributes, -, htrailing⟩ :=
    hrange.attributes.consumes.unique hother.attributes.consumes heq
  exact Outline.ext hopening hhead hfront hfields hmethods hattributes htrailing

theorem resolves_of_parse (hrange : o.InRange) (h : ClassStructure.parse o.layout = .ok raw) :
    o.Resolves raw := by
  have hlen : 4 ≤ o.layout.length := by
    rw [layout, List.length_append, o.length_opening]
    omega
  obtain ⟨other, hother, hresolves, hlayout⟩ := exists_of_parse hlen h
  rwa [eq_of_layout_eq hrange hother hlayout.symm]

/-! ## The header -/

theorem four_le_length_head (o : Outline) : 4 ≤ o.head.length :=
  four_le_length_of_consumes o.consumes_head

/-- The header lies in front of the tables. -/
theorem take_headerLength_layout (o : Outline) :
    o.layout.take headerLength = o.opening ++ o.head.take 4 := by
  have hhead := o.four_le_length_head
  have hbehind : ((o.head ++ o.tables) ++ o.trailing).take 4 = o.head.take 4 := by
    rw [List.append_assoc, List.take_append_of_le_length hhead]
  have hopening : o.opening.take headerLength = o.opening := by
    apply List.take_of_length_le
    rw [o.length_opening, headerLength]
    decide
  rw [layout, List.take_append, hopening, o.length_opening]
  exact congrArg (o.opening ++ ·) hbehind

end Outline

end ClassAtlas.ClassFile
