import Mathlib.Tactic.MkIffOfInductiveProp
import ClassAtlas.ClassFile.Code
import ClassAtlas.Proofs.ClassFile.Inversion
import ClassAtlas.Proofs.ClassFile.Truncation

/-!
# Attribute tables in a given pool

Attributes, members and method bodies as bytes, once the pool that their names
come from is known. For each of them the decoder and the layout determine one
another: the layout of an image whose numbers are in range and whose names
resolve is consumed, and bytes that are consumed are such a layout. The layout
also tells which image it is of, whatever the pool.
-/

namespace ClassAtlas.ClassFile

open Decoder

/-! ## Ranges -/

/-- The numbers of an attribute fit their fields. -/
@[mk_iff]
structure AttributeImage.InRange (a : AttributeImage) : Prop where
  name : a.name < 2 ^ 16
  size : a.body.length < 2 ^ 32

/-- A table of attributes can be counted, and its entries fit their fields. -/
@[mk_iff]
structure TableInRange (images : List AttributeImage) : Prop where
  count : images.length < 2 ^ 16
  entries : ∀ a ∈ images, a.InRange

@[mk_iff]
structure MemberImage.InRange (m : MemberImage) : Prop where
  access : m.access < 2 ^ 16
  name : m.name < 2 ^ 16
  descriptor : m.descriptor < 2 ^ 16
  attributes : TableInRange m.attributes

/-- A method body: sizes of stack and variables, instructions, exception handlers of eight bytes
each, nested attributes. What stands behind those is not looked at. -/
structure CodeImage where
  stack : Nat
  locals : Nat
  code : Bytes
  handlerCount : Nat
  handlers : Bytes
  nested : List AttributeImage
  behind : Bytes

/-- What is decoded of a body. -/
def CodeImage.read (image : CodeImage) : Bytes :=
  bigEndianBytes 2 image.stack ++ (bigEndianBytes 2 image.locals ++
    (bigEndianBytes 4 image.code.length ++ (image.code ++ (bigEndianBytes 2 image.handlerCount ++
      (image.handlers ++ tableLayout AttributeImage.layout image.nested)))))

def CodeImage.layout (image : CodeImage) : Bytes := image.read ++ image.behind

@[mk_iff]
structure CodeImage.InRange (image : CodeImage) : Prop where
  stack : image.stack < 2 ^ 16
  locals : image.locals < 2 ^ 16
  size : image.code.length < 2 ^ 32
  handlerCount : image.handlerCount < 2 ^ 16
  handlers : image.handlers.length = image.handlerCount * 8
  nested : TableInRange image.nested

instance (a : AttributeImage) : Decidable a.InRange :=
  decidable_of_iff _ (AttributeImage.inRange_iff a).symm

instance (images : List AttributeImage) : Decidable (TableInRange images) :=
  decidable_of_iff _ (tableInRange_iff images).symm

instance (m : MemberImage) : Decidable m.InRange :=
  decidable_of_iff _ (MemberImage.inRange_iff m).symm

instance (image : CodeImage) : Decidable image.InRange :=
  decidable_of_iff _ (CodeImage.inRange_iff image).symm

/-! ## Images can be read back -/

def AttributeImage.decoder : Decoder AttributeImage := do
  let name ← Decoder.u2
  let size ← Decoder.u4
  return ⟨name, ← Decoder.take size⟩

def MemberImage.decoder : Decoder MemberImage := do
  let access ← Decoder.u2
  let name ← Decoder.u2
  let descriptor ← Decoder.u2
  return ⟨access, name, descriptor, ← Decoder.counted AttributeImage.decoder⟩

theorem AttributeImage.InRange.consumes {a : AttributeImage} (h : a.InRange) :
    AttributeImage.decoder.Consumes a.layout a :=
  (Consumes.u2 h.name).bind ((Consumes.u4 h.size).bind ((Consumes.take rfl).map _))

/-- A counted table of images is read back as the images. -/
theorem consumes_images {ι : Type} {d : Decoder ι} {written : ι → Bytes} {images : List ι}
    (hcount : images.length < 2 ^ 16) (hread : ∀ i ∈ images, d.Consumes (written i) i) :
    (Decoder.counted d).Consumes (tableLayout written images) images := by
  have hself : List.Forall₂ Eq images images := List.forall₂_same.mpr fun _ _ => rfl
  refine Consumes.counted hcount hself ?_
  rintro i hi _ rfl
  exact hread i hi

theorem TableInRange.consumes {images : List AttributeImage} (h : TableInRange images) :
    (Decoder.counted AttributeImage.decoder).Consumes
      (tableLayout AttributeImage.layout images) images :=
  consumes_images h.count fun a ha => (h.entries a ha).consumes

theorem MemberImage.InRange.consumes {m : MemberImage} (h : m.InRange) :
    MemberImage.decoder.Consumes m.layout m :=
  (Consumes.u2 h.access).bind ((Consumes.u2 h.name).bind ((Consumes.u2 h.descriptor).bind
    (h.attributes.consumes.map _)))

/-- The image of a body in front of what is not looked at. -/
def CodeImage.decoder : Decoder CodeImage := do
  let stack ← Decoder.u2
  let locals ← Decoder.u2
  let code ← Decoder.take (← Decoder.u4)
  let handlerCount ← Decoder.u2
  let handlers ← Decoder.take (handlerCount * 8)
  return ⟨stack, locals, code, handlerCount, handlers,
    ← Decoder.counted AttributeImage.decoder, []⟩

theorem CodeImage.InRange.consumes {image : CodeImage} (h : image.InRange) :
    CodeImage.decoder.Consumes image.read { image with behind := [] } := by
  refine (Consumes.u2 h.stack).bind ((Consumes.u2 h.locals).bind ?_)
  refine (Consumes.u4 h.size).bind ((Consumes.take rfl).bind ?_)
  refine (Consumes.u2 h.handlerCount).bind ((Consumes.take h.handlers).bind ?_)
  exact h.nested.consumes.map _

/-- A body has one image. -/
theorem CodeImage.eq_of_layout_eq {image other : CodeImage} (h : image.InRange)
    (hother : other.InRange) (heq : image.layout = other.layout) : image = other := by
  obtain ⟨hread, -, hbehind⟩ := h.consumes.unique hother.consumes heq
  cases image
  cases other
  simp only [CodeImage.mk.injEq, and_true] at hread
  obtain ⟨rfl, rfl, rfl, rfl, rfl, rfl⟩ := hread
  cases hbehind
  rfl

/-! ## Names -/

section Pool

variable (pool : ConstantPool)

/-- The attribute's name and body. -/
structure AttributeImage.Resolves (a : AttributeImage) (entry : String × Bytes) : Prop where
  name : pool.utf8 a.name = .ok entry.1
  body : entry.2 = a.body

/-- The table of the attributes' names and bodies. -/
def TableResolves (images : List AttributeImage) (table : Attributes) : Prop :=
  ∃ named, List.Forall₂ (AttributeImage.Resolves pool) images named ∧
    table = Attributes.ofList named

structure MemberImage.Resolves (m : MemberImage) (member : Member) : Prop where
  access : member.access = m.access
  name : pool.utf8 m.name = .ok member.name
  descriptor : pool.utf8 m.descriptor = .ok member.descriptor
  attributes : TableResolves pool m.attributes member.attributes

variable {pool}

/-! ## Layouts are consumed -/

theorem Attributes.consumes_entryDecoder {a : AttributeImage} {entry : String × Bytes}
    (hrange : a.InRange) (h : a.Resolves pool entry) :
    (Attributes.entryDecoder pool).Consumes a.layout entry := by
  obtain ⟨name, body⟩ := entry
  obtain ⟨hname, rfl⟩ := h
  refine (Consumes.u2 hrange.name).bind (Consumes.lift_bind hname ?_)
  exact (Consumes.u4 hrange.size).bind ((Consumes.take rfl).map (Prod.mk name))

theorem Attributes.consumes_decoder {images : List AttributeImage} {table : Attributes}
    (hrange : TableInRange images) (h : TableResolves pool images table) :
    (Attributes.decoder pool).Consumes (tableLayout AttributeImage.layout images) table := by
  obtain ⟨named, hnamed, rfl⟩ := h
  exact (Consumes.counted hrange.count hnamed fun a ha _ hentry =>
    Attributes.consumes_entryDecoder (hrange.entries a ha) hentry).map Attributes.ofList

theorem Member.consumes_decoder {m : MemberImage} {member : Member} (hrange : m.InRange)
    (h : m.Resolves pool member) : (Member.decoder pool).Consumes m.layout member := by
  obtain ⟨access, name, descriptor, attributes⟩ := member
  obtain ⟨rfl, hname, hdescriptor, hattributes⟩ := h
  refine (Consumes.u2 hrange.access).bind ?_
  refine (Consumes.u2 hrange.name).bind (Consumes.lift_bind hname ?_)
  refine (Consumes.u2 hrange.descriptor).bind (Consumes.lift_bind hdescriptor ?_)
  exact (Attributes.consumes_decoder hrange.attributes hattributes).map fun attributes =>
    Member.mk m.access name descriptor attributes

theorem Code.consumes_bodyDecoder {image : CodeImage} {table : Attributes} (hrange : image.InRange)
    (h : TableResolves pool image.nested table) :
    (Code.bodyDecoder pool).Consumes image.read (image.code, table) := by
  refine (Consumes.u2 hrange.stack).bind ((Consumes.u2 hrange.locals).bind ?_)
  refine (Consumes.u4 hrange.size).bind ((Consumes.take rfl).bind ?_)
  refine (Consumes.u2 hrange.handlerCount).bind ((Consumes.take hrange.handlers).bind ?_)
  exact (Attributes.consumes_decoder hrange.nested h).map (Prod.mk image.code)

theorem Code.runOn_bodyDecoder {image : CodeImage} {table : Attributes} (hrange : image.InRange)
    (h : TableResolves pool image.nested table) :
    (Code.bodyDecoder pool).runOn "Code attribute" image.layout = .ok (image.code, table) :=
  (Code.consumes_bodyDecoder hrange h).runOn_append _ _

/-! ## What is consumed is a layout -/

variable {used : Bytes}

theorem Attributes.exists_entryImage {entry : String × Bytes}
    (h : (Attributes.entryDecoder pool).Consumes used entry) :
    ∃ a : AttributeImage, (a.InRange ∧ a.Resolves pool entry) ∧ used = a.layout := by
  obtain ⟨name, _, _, hname, h₁, rfl⟩ := h.exists_of_bind Local.u2 fun _ =>
    (Local.lift _).bind fun _ => Local.u4.bind fun size => (Local.take size).map _
  obtain ⟨text, htext, h₂⟩ := h₁.of_lift_bind
  obtain ⟨size, _, _, hsize, h₃, rfl⟩ :=
    h₂.exists_of_bind Local.u4 fun size => (Local.take size).map _
  obtain ⟨body, hbody, rfl⟩ := h₃.of_map (Local.take size)
  obtain ⟨rfl, rfl⟩ := hbody.of_take
  obtain ⟨hnameLt, rfl⟩ := hname.of_u2
  obtain ⟨hsizeLt, rfl⟩ := hsize.of_u4
  exact ⟨⟨name, _⟩, ⟨⟨hnameLt, hsizeLt⟩, htext, rfl⟩, rfl⟩

theorem Attributes.exists_images {table : Attributes}
    (h : (Attributes.decoder pool).Consumes used table) :
    ∃ images, TableInRange images ∧ TableResolves pool images table ∧
      used = tableLayout AttributeImage.layout images := by
  have hentry := Attributes.local_entryDecoder pool
  obtain ⟨named, hcounted, rfl⟩ := h.of_map hentry.counted
  obtain ⟨images, hcount, hnamed, rfl⟩ :=
    Consumes.of_counted hentry (fun _ _ => Attributes.exists_entryImage) hcounted
  obtain ⟨hrange, hnamed⟩ := (List.forall₂_and_left _ _).mp hnamed
  exact ⟨images, ⟨hcount, hrange⟩, ⟨named, hnamed, rfl⟩, rfl⟩

theorem Member.exists_image {member : Member} (h : (Member.decoder pool).Consumes used member) :
    ∃ m : MemberImage, (m.InRange ∧ m.Resolves pool member) ∧ used = m.layout := by
  have htable := Attributes.local_decoder pool
  obtain ⟨access, _, _, haccess, h₁, rfl⟩ := h.exists_of_bind Local.u2 fun _ =>
    Local.u2.bind fun _ => (Local.lift _).bind fun _ => Local.u2.bind fun _ =>
      (Local.lift _).bind fun _ => htable.map _
  obtain ⟨name, _, _, hname, h₂, rfl⟩ := h₁.exists_of_bind Local.u2 fun _ =>
    (Local.lift _).bind fun _ => Local.u2.bind fun _ => (Local.lift _).bind fun _ => htable.map _
  obtain ⟨nameText, hnameText, h₃⟩ := h₂.of_lift_bind
  obtain ⟨descriptor, _, _, hdescriptor, h₄, rfl⟩ := h₃.exists_of_bind Local.u2 fun _ =>
    (Local.lift _).bind fun _ => htable.map _
  obtain ⟨descriptorText, hdescriptorText, h₅⟩ := h₄.of_lift_bind
  obtain ⟨table, h₆, rfl⟩ := h₅.of_map htable
  obtain ⟨images, himages, hresolves, rfl⟩ := Attributes.exists_images h₆
  obtain ⟨haccessLt, rfl⟩ := haccess.of_u2
  obtain ⟨hnameLt, rfl⟩ := hname.of_u2
  obtain ⟨hdescriptorLt, rfl⟩ := hdescriptor.of_u2
  exact ⟨⟨access, name, descriptor, images⟩,
    ⟨⟨haccessLt, hnameLt, hdescriptorLt, himages⟩, rfl, hnameText, hdescriptorText, hresolves⟩, rfl⟩

theorem Member.exists_images {members : List Member}
    (h : (Decoder.counted (Member.decoder pool)).Consumes used members) :
    ∃ images : List MemberImage, images.length < 2 ^ 16 ∧ (∀ m ∈ images, m.InRange) ∧
      List.Forall₂ (MemberImage.Resolves pool) images members ∧
      used = tableLayout MemberImage.layout images := by
  obtain ⟨images, hcount, hmembers, rfl⟩ :=
    Consumes.of_counted (Member.local_decoder pool) (fun _ _ => Member.exists_image) h
  obtain ⟨hrange, hresolves⟩ := (List.forall₂_and_left _ _).mp hmembers
  exact ⟨images, hcount, hrange, hresolves, rfl⟩

theorem Code.local_bodyDecoder : (Code.bodyDecoder pool).Local :=
  Local.u2.bind fun _ => Local.u2.bind fun _ => Local.u4.bind fun size =>
    (Local.take size).bind fun _ => Local.u2.bind fun count =>
      (Local.take (count * 8)).bind fun _ => (Attributes.local_decoder pool).map _

/-- A body that can be decoded is the layout of an image. -/
theorem Code.exists_image {raw : Bytes} {parts : Bytes × Attributes}
    (h : (Code.bodyDecoder pool).runOn "Code attribute" raw = .ok parts) :
    ∃ image : CodeImage, image.InRange ∧ TableResolves pool image.nested parts.2 ∧
      raw = image.layout := by
  have htable := Attributes.local_decoder pool
  obtain ⟨used, behind, rfl, hused⟩ := Code.local_bodyDecoder.exists_of_runOn h
  obtain ⟨stack, _, _, hstack, h₁, rfl⟩ := hused.exists_of_bind Local.u2 fun _ =>
    Local.u2.bind fun _ => Local.u4.bind fun size => (Local.take size).bind fun _ =>
      Local.u2.bind fun count => (Local.take (count * 8)).bind fun _ => htable.map _
  obtain ⟨locals, _, _, hlocals, h₂, rfl⟩ := h₁.exists_of_bind Local.u2 fun _ =>
    Local.u4.bind fun size => (Local.take size).bind fun _ => Local.u2.bind fun count =>
      (Local.take (count * 8)).bind fun _ => htable.map _
  obtain ⟨size, _, _, hsize, h₃, rfl⟩ := h₂.exists_of_bind Local.u4 fun size =>
    (Local.take size).bind fun _ => Local.u2.bind fun count =>
      (Local.take (count * 8)).bind fun _ => htable.map _
  obtain ⟨code, _, _, hcode, h₄, rfl⟩ := h₃.exists_of_bind (Local.take size) fun _ =>
    Local.u2.bind fun count => (Local.take (count * 8)).bind fun _ => htable.map _
  obtain ⟨count, _, _, hcount, h₅, rfl⟩ := h₄.exists_of_bind Local.u2 fun count =>
    (Local.take (count * 8)).bind fun _ => htable.map _
  obtain ⟨handlers, _, _, hhandlers, h₆, rfl⟩ :=
    h₅.exists_of_bind (Local.take (count * 8)) fun _ => htable.map _
  obtain ⟨table, h₇, rfl⟩ := h₆.of_map htable
  obtain ⟨images, himages, hresolves, rfl⟩ := Attributes.exists_images h₇
  obtain ⟨hstackLt, rfl⟩ := hstack.of_u2
  obtain ⟨hlocalsLt, rfl⟩ := hlocals.of_u2
  obtain ⟨rfl, rfl⟩ := hcode.of_take
  obtain ⟨hsizeLt, rfl⟩ := hsize.of_u4
  obtain ⟨hcountLt, rfl⟩ := hcount.of_u2
  obtain ⟨rfl, hhandlersLength⟩ := hhandlers.of_take
  exact ⟨⟨stack, locals, _, count, _, images, behind⟩,
    ⟨hstackLt, hlocalsLt, hsizeLt, hcountLt, hhandlersLength, himages⟩, hresolves, rfl⟩

end Pool

end ClassAtlas.ClassFile
