import ClassAtlas.Proofs.ClassFile.Descriptor
import ClassAtlas.Proofs.ClassFile.Tables
import ClassAtlas.Proofs.Order.Table

/-!
# Decoding undoes the layout

An image whose numbers fit their fields and whose slot numbers lead to entries
of the right kind denotes one decoded structure: names stand for slot numbers,
and of several attributes with one name the first counts. The decoder consumes
the layout of the image, wherever it stands, and returns that structure.
-/

namespace ClassAtlas.ClassFile

open Decoder

/-! ## What slot numbers stand for -/

section Slots

variable (slots : List (Option Constant))

/-- Slot `i` holds a text constant. -/
def TextAt (i : Nat) (text : String) : Prop := slots[i]? = some (some (.utf8 text))

/-- Slot `i` holds a class constant whose text has the given name in source form. -/
def ClassAt (i : Nat) (name : String) : Prop :=
  ∃ j internal, slots[i]? = some (some (.classRef j)) ∧ TextAt slots j internal ∧
    Descriptor.className internal = .ok name

/-- Slot `i` holds a class constant; a text that opens like an array's is an array's descriptor. -/
def IsClassSlot (i : Nat) : Prop :=
  ∃ j internal, slots[i]? = some (some (.classRef j)) ∧ TextAt slots j internal ∧
    (internal.toList.head? = some '[' → ∃ type, Descriptor.TypeToken internal.toList type)

/-- The attribute's name and body. -/
structure AttributeImage.Denotes (a : AttributeImage) (entry : String × Bytes) : Prop where
  name : TextAt slots a.name entry.1
  body : entry.2 = a.body

/-- The table holds of each name the first attribute, in order. -/
def AttributesDenote (images : List AttributeImage) (table : Attributes) : Prop :=
  ∃ named, List.Forall₂ (AttributeImage.Denotes slots) images named ∧
    table.entries = Table.firsts named

structure MemberImage.Denotes (m : MemberImage) (member : Member) : Prop where
  access : member.access = m.access
  name : TextAt slots m.name member.name
  descriptor : TextAt slots m.descriptor member.descriptor
  attributes : AttributesDenote slots m.attributes member.attributes

/-- The attributes of a table fit their fields and have names. -/
structure AttributesFit (images : List AttributeImage) : Prop where
  count : images.length < 2 ^ 16
  size : ∀ a ∈ images, a.body.length < 2 ^ 32
  named : ∀ a ∈ images, ∃ text, TextAt slots a.name text

structure MemberImage.Fits (m : MemberImage) : Prop where
  access : m.access < 2 ^ 16
  name : ∃ text, TextAt slots m.name text
  descriptor : ∃ text, TextAt slots m.descriptor text
  attributes : AttributesFit slots m.attributes

end Slots

namespace ClassImage

/-- Numbers fit their fields, and slot numbers lead to constants of the right kind. -/
structure WellFormed (image : ClassImage) : Prop where
  minor : image.minor < 2 ^ 16
  major : image.major < 2 ^ 16
  constants : ∀ entry ∈ image.pool, entry.constant.Fits entry.spelling
  slotCount : image.slots.length < 2 ^ 16
  access : image.access < 2 ^ 16
  name : IsClassSlot image.slots image.name
  superclass : image.superclass = 0 ∨ IsClassSlot image.slots image.superclass
  interfaceCount : image.interfaces.length < 2 ^ 16
  interfaces : ∀ i ∈ image.interfaces, IsClassSlot image.slots i
  fieldCount : image.fields.length < 2 ^ 16
  fields : ∀ m ∈ image.fields, m.Fits image.slots
  methodCount : image.methods.length < 2 ^ 16
  methods : ∀ m ∈ image.methods, m.Fits image.slots
  attributes : AttributesFit image.slots image.attributes

/-- The decoded form of an image: the same numbers and constants, names for slot numbers. -/
structure Denotes (image : ClassImage) (raw : ClassStructure) : Prop where
  minor : raw.minor = image.minor
  major : raw.major = image.major
  pool : raw.pool.slots.toList = image.slots
  access : raw.access = image.access
  name : ClassAt image.slots image.name raw.name
  noSuperclass : raw.superclass = none ↔ image.superclass = 0
  superclass : ∀ name, raw.superclass = some name → ClassAt image.slots image.superclass name
  interfaces : List.Forall₂ (ClassAt image.slots) image.interfaces raw.interfaces
  fields : List.Forall₂ (MemberImage.Denotes image.slots) image.fields raw.fields
  methods : List.Forall₂ (MemberImage.Denotes image.slots) image.methods raw.methods
  attributes : AttributesDenote image.slots image.attributes raw.attributes

end ClassImage

/-! ## Looking up names -/

section Pool

variable {pool : List ConstantImage}

theorem lt_of_slot {i : Nat} {c : Constant} (hcount : (poolSlots pool).length < 2 ^ 16)
    (h : (poolSlots pool)[i]? = some (some c)) : i < 2 ^ 16 := by
  have hlt := (List.getElem?_eq_some_iff.mp h).1
  omega

theorem ne_zero_of_slot {i : Nat} {c : Constant} (h : (poolSlots pool)[i]? = some (some c)) :
    i ≠ 0 := by
  rintro rfl
  simp [poolSlots] at h

theorem get?_of_slot {i : Nat} {c : Constant} (h : (poolSlots pool)[i]? = some (some c)) :
    ConstantPool.get? ⟨(poolSlots pool).toArray⟩ i = some c := by
  have hpos : (0 : Int) < i := by
    have := ne_zero_of_slot h
    omega
  rw [ConstantPool.get?, if_pos hpos, Int.toNat_natCast, List.getElem?_toArray, h]
  rfl

theorem utf8_of_textAt {i : Nat} {text : String} (h : TextAt (poolSlots pool) i text) :
    ConstantPool.utf8 ⟨(poolSlots pool).toArray⟩ i = .ok text := by
  rw [ConstantPool.utf8, get?_of_slot h]

theorem className_of_classAt {i : Nat} {name : String} (h : ClassAt (poolSlots pool) i name) :
    ConstantPool.className ⟨(poolSlots pool).toArray⟩ i = .ok name := by
  obtain ⟨j, internal, hclass, htext, hname⟩ := h
  rw [ConstantPool.className, get?_of_slot hclass]
  show (ConstantPool.utf8 _ j >>= _) = _
  rw [utf8_of_textAt htext]
  show (Descriptor.className internal).mapError _ = _
  rw [hname]
  rfl

theorem ClassAt.lt {i : Nat} {name : String} (hcount : (poolSlots pool).length < 2 ^ 16)
    (h : ClassAt (poolSlots pool) i name) : i < 2 ^ 16 := by
  obtain ⟨j, internal, hclass, -, -⟩ := h
  exact lt_of_slot hcount hclass

theorem ClassAt.ne_zero {i : Nat} {name : String} (h : ClassAt (poolSlots pool) i name) :
    i ≠ 0 := by
  obtain ⟨j, internal, hclass, -, -⟩ := h
  exact ne_zero_of_slot hclass

/-! ## Attributes and members -/

theorem AttributesFit.inRange {images : List AttributeImage}
    (hcount : (poolSlots pool).length < 2 ^ 16) (h : AttributesFit (poolSlots pool) images) :
    TableInRange images := by
  refine ⟨h.count, fun a ha => ⟨?_, h.size a ha⟩⟩
  obtain ⟨text, htext⟩ := h.named a ha
  exact lt_of_slot hcount htext

theorem AttributesDenote.resolves {images : List AttributeImage} {table : Attributes}
    (h : AttributesDenote (poolSlots pool) images table) :
    TableResolves ⟨(poolSlots pool).toArray⟩ images table := by
  obtain ⟨named, hnamed, hentries⟩ := h
  refine ⟨named, hnamed.imp fun a _ ha => ⟨utf8_of_textAt ha.name, ha.body⟩, ?_⟩
  apply Table.ext_entries
  rw [hentries]
  exact (Table.entries_foldl_insertIfNew_empty named).symm

theorem consumes_attributes {images : List AttributeImage} {table : Attributes}
    (hcount : (poolSlots pool).length < 2 ^ 16) (hfit : AttributesFit (poolSlots pool) images)
    (h : AttributesDenote (poolSlots pool) images table) :
    (Attributes.decoder ⟨(poolSlots pool).toArray⟩).Consumes
      (tableLayout AttributeImage.layout images) table :=
  Attributes.consumes_decoder (hfit.inRange hcount) h.resolves

theorem consumes_member {m : MemberImage} {member : Member}
    (hcount : (poolSlots pool).length < 2 ^ 16) (hfit : m.Fits (poolSlots pool))
    (h : m.Denotes (poolSlots pool) member) :
    (Member.decoder ⟨(poolSlots pool).toArray⟩).Consumes m.layout member := by
  have hrange : m.InRange :=
    ⟨hfit.access, lt_of_slot hcount h.name, lt_of_slot hcount h.descriptor,
      hfit.attributes.inRange hcount⟩
  exact Member.consumes_decoder hrange
    ⟨h.access, utf8_of_textAt h.name, utf8_of_textAt h.descriptor, h.attributes.resolves⟩

end Pool

/-! ## The whole record -/

namespace ClassImage

variable {image : ClassImage}

theorem consumes_superclass {raw : ClassStructure} (hwf : image.WellFormed)
    (h : image.Denotes raw) :
    (ClassStructure.superclassDecoder ⟨image.slots.toArray⟩).Consumes
      (bigEndianBytes 2 image.superclass) raw.superclass := by
  cases hraw : raw.superclass with
  | none =>
      rw [h.noSuperclass.mp hraw]
      exact (Consumes.u2 (by decide)).check (Consumes.pure none)
  | some name =>
      have hclass := h.superclass name hraw
      obtain ⟨slot, hslot⟩ := Nat.exists_eq_succ_of_ne_zero hclass.ne_zero
      refine (Consumes.u2 (hclass.lt hwf.slotCount)).check ?_
      rw [hslot] at hclass ⊢
      exact (Consumes.lift (className_of_classAt hclass)).map some

/-- The decoder consumes the layout of an image as what the image denotes. -/
theorem consumes_layout {raw : ClassStructure} (hwf : image.WellFormed) (h : image.Denotes raw) :
    ClassStructure.decoder.Consumes image.layout raw := by
  have hpool : raw.pool = ⟨image.slots.toArray⟩ := by
    rw [← h.pool]
  have hclassName : ∀ (i : Nat) (name : String), ClassAt image.slots i name →
      (ClassStructure.classNameDecoder ⟨image.slots.toArray⟩).Consumes (bigEndianBytes 2 i) name :=
    fun i name hname => (Consumes.u2 (hname.lt hwf.slotCount)).check
      (Consumes.lift (className_of_classAt hname))
  have hsuper := consumes_superclass hwf h
  obtain ⟨minor, major, pool, access, name, superclass, interfaces, fields, methods, attributes⟩ :=
    raw
  obtain ⟨rfl, rfl, -, rfl, hname, -, -, hinterfaces, hfields, hmethods, hattributes⟩ := h
  cases hpool
  refine (Consumes.u2 hwf.minor).bind ((Consumes.u2 hwf.major).bind ?_)
  refine (consumes_pool hwf.slotCount hwf.constants).bind ?_
  refine (Consumes.u2 hwf.access).bind ((hclassName _ _ hname).bind (hsuper.bind ?_))
  refine (Consumes.counted hwf.interfaceCount hinterfaces fun i _ => hclassName i).bind ?_
  refine (Consumes.counted hwf.fieldCount hfields fun m hm _ hmember =>
    consumes_member hwf.slotCount (hwf.fields m hm) hmember).bind ?_
  refine (Consumes.counted hwf.methodCount hmethods fun m hm _ hmember =>
    consumes_member hwf.slotCount (hwf.methods m hm) hmember).bind ?_
  exact (consumes_attributes hwf.slotCount hwf.attributes hattributes).map fun attributes =>
    ClassStructure.mk image.minor image.major _ image.access name superclass interfaces fields
      methods attributes

/-! ## What an image denotes -/

theorem exists_classAt {slots : List (Option Constant)} {i : Nat} (h : IsClassSlot slots i) :
    ∃ name, ClassAt slots i name := by
  obtain ⟨j, internal, hclass, htext, harray⟩ := h
  suffices hname : ∃ name, Descriptor.className internal = .ok name by
    obtain ⟨name, hname⟩ := hname
    exact ⟨name, j, internal, hclass, htext, hname⟩
  unfold Descriptor.className
  split
  · next rest hcs =>
    obtain ⟨type, htype⟩ := harray (by rw [hcs]; rfl)
    exact ⟨type, Descriptor.fieldType_of_token htype⟩
  · exact ⟨_, rfl⟩

theorem exists_attributesDenote {slots : List (Option Constant)} {images : List AttributeImage}
    (h : AttributesFit slots images) : ∃ table, AttributesDenote slots images table := by
  obtain ⟨named, hnamed⟩ : ∃ named, List.Forall₂ (AttributeImage.Denotes slots) images named := by
    refine exists_forall₂ fun a ha => ?_
    obtain ⟨text, htext⟩ := h.named a ha
    exact ⟨(text, a.body), htext, rfl⟩
  exact ⟨Attributes.ofList named, named, hnamed, Table.entries_foldl_insertIfNew_empty named⟩

theorem exists_memberDenotes {slots : List (Option Constant)} {m : MemberImage}
    (h : m.Fits slots) : ∃ member, m.Denotes slots member := by
  obtain ⟨name, hname⟩ := h.name
  obtain ⟨descriptor, hdescriptor⟩ := h.descriptor
  obtain ⟨attributes, hattributes⟩ := exists_attributesDenote h.attributes
  exact ⟨⟨m.access, name, descriptor, attributes⟩, rfl, hname, hdescriptor, hattributes⟩

theorem exists_superclass (h : image.WellFormed) :
    ∃ superclass : Option String, (superclass = none ↔ image.superclass = 0) ∧
      ∀ name, superclass = some name → ClassAt image.slots image.superclass name := by
  rcases h.superclass with hzero | hclass
  · exact ⟨none, by simp [hzero], by simp⟩
  · obtain ⟨name, hname⟩ := exists_classAt hclass
    refine ⟨some name, by simpa using hname.ne_zero, ?_⟩
    rintro _ ⟨⟩
    exact hname

theorem exists_denotes (h : image.WellFormed) : ∃ raw, image.Denotes raw := by
  obtain ⟨name, hname⟩ := exists_classAt h.name
  obtain ⟨superclass, hnone, hsome⟩ := exists_superclass h
  obtain ⟨interfaces, hinterfaces⟩ := exists_forall₂ fun i hi => exists_classAt (h.interfaces i hi)
  obtain ⟨fields, hfields⟩ := exists_forall₂ fun m hm => exists_memberDenotes (h.fields m hm)
  obtain ⟨methods, hmethods⟩ := exists_forall₂ fun m hm => exists_memberDenotes (h.methods m hm)
  obtain ⟨attributes, hattributes⟩ := exists_attributesDenote h.attributes
  exact ⟨⟨image.minor, image.major, ⟨image.slots.toArray⟩, image.access, name, superclass,
    interfaces, fields, methods, attributes⟩, rfl, rfl, rfl, rfl, hname, hnone, hsome, hinterfaces,
    hfields, hmethods, hattributes⟩

theorem run_start_layout {raw : ClassStructure} {opening : Bytes} (hwf : image.WellFormed)
    (h : image.Denotes raw) (hopening : opening.length = 4) (trailing : Bytes) :
    ClassStructure.decoder.run (ClassStructure.start (opening ++ image.layout ++ trailing)) =
      .ok (raw, { subject := "class record", position := 4 + image.layout.length,
                  rest := trailing }) := by
  have hstart : ClassStructure.start (opening ++ image.layout ++ trailing) =
      { subject := "class record", position := 4, rest := image.layout ++ trailing } := by
    simp [ClassStructure.start, Cursor.at, List.append_assoc, hopening, List.drop_left']
  rw [hstart, (consumes_layout hwf h).accepts _ trailing rfl rfl]
  simp [Cursor.advance]

/-- **Decoding undoes the layout.** A well-formed image denotes exactly one structure, and behind
any four bytes and before any others its layout is decoded to that structure; the cursor stops right
behind the layout. -/
theorem parse_layout (image : ClassImage) (hwf : image.WellFormed) :
    ∃ raw, image.Denotes raw ∧ (∀ other, image.Denotes other → other = raw) ∧
      ∀ opening trailing : Bytes, opening.length = 4 →
        ClassStructure.parse (opening ++ image.layout ++ trailing) = .ok raw ∧
        ClassStructure.decoder.run (ClassStructure.start (opening ++ image.layout ++ trailing)) =
          .ok (raw, { subject := "class record", position := 4 + image.layout.length,
                      rest := trailing }) := by
  obtain ⟨raw, hraw⟩ := exists_denotes hwf
  refine ⟨raw, hraw, ?_, ?_⟩
  · -- both are the result of one run
    intro other hother
    have hopening : (List.replicate 4 0 : Bytes).length = 4 := rfl
    have hrun := run_start_layout hwf hraw hopening []
    rw [run_start_layout hwf hother hopening []] at hrun
    exact congrArg Prod.fst (Except.ok.inj hrun)
  · intro opening trailing hopening
    have hrun := run_start_layout hwf hraw hopening trailing
    refine ⟨?_, hrun⟩
    rw [ClassStructure.parse, hrun]
    rfl

/-- A record with a wide constant, a text in the further byte forms, an array among its interfaces
and an attribute that is there twice. -/
def sampleImage : ClassImage where
  minor := 3
  major := 61
  pool := [
    ⟨.utf8 "p/A", [0x70, 0x2F, 0x41]⟩,
    ⟨.classRef 1, []⟩,
    ⟨.long (-2), []⟩,
    ⟨.utf8 "[[I", [0x5B, 0x5B, 0x49]⟩,
    ⟨.classRef 5, []⟩,
    ⟨.utf8 "\x00😀", [0xC0, 0x80, 0xED, 0xA0, 0xBD, 0xED, 0xB8, 0x80]⟩]
  access := 0x21
  name := 2
  superclass := 0
  interfaces := [6, 2]
  fields := []
  methods := [⟨1, 7, 5, [⟨7, [1]⟩, ⟨1, []⟩, ⟨7, [2, 3]⟩]⟩]
  attributes := []

theorem sampleImage_constants :
    ∀ entry ∈ sampleImage.pool, entry.constant.Fits entry.spelling := by
  have hplain : ModifiedUtf8.Spells ['p', '/', 'A'] [0x70, 0x2F, 0x41] :=
    .cons (.shortest 'p') (.cons (.shortest '/') (.cons (.shortest 'A') .nil))
  have harray : ModifiedUtf8.Spells ['[', '[', 'I'] [0x5B, 0x5B, 0x49] :=
    .cons (.shortest '[') (.cons (.shortest '[') (.cons (.shortest 'I') .nil))
  have hfurther : ModifiedUtf8.Spells ['\x00', '😀']
      [0xC0, 0x80, 0xED, 0xA0, 0xBD, 0xED, 0xB8, 0x80] :=
    .cons .longNul (.cons (.surrogates (by decide)) .nil)
  simp [sampleImage, Constant.Fits, hplain, harray, hfurther]

theorem sampleImage_wellFormed : sampleImage.WellFormed := by
  have hown : IsClassSlot sampleImage.slots 2 := ⟨1, "p/A", rfl, rfl, by simp⟩
  have harray : IsClassSlot sampleImage.slots 6 :=
    ⟨5, "[[I", rfl, rfl, fun _ => ⟨"int[][]", 2, ['I'], "int".toList, .primitive rfl, rfl, rfl⟩⟩
  have hmethod : MemberImage.Fits sampleImage.slots ⟨1, 7, 5, [⟨7, [1]⟩, ⟨1, []⟩, ⟨7, [2, 3]⟩]⟩ := by
    refine ⟨by decide, ⟨_, rfl⟩, ⟨_, rfl⟩, by decide, by simp, ?_⟩
    simp only [List.forall_mem_cons]
    exact ⟨⟨_, rfl⟩, ⟨_, rfl⟩, ⟨_, rfl⟩, by simp⟩
  exact {
    minor := by decide
    major := by decide
    constants := sampleImage_constants
    slotCount := by decide
    access := by decide
    name := hown
    superclass := .inl rfl
    interfaceCount := by decide
    interfaces := List.forall_mem_cons.mpr ⟨harray, List.forall_mem_cons.mpr ⟨hown, by simp⟩⟩
    fieldCount := by decide
    fields := by simp [sampleImage]
    methodCount := by decide
    methods := List.forall_mem_cons.mpr ⟨hmethod, by simp⟩
    attributes := ⟨by decide, by simp [sampleImage], by simp [sampleImage]⟩ }

theorem parse_layout_sample :
    sampleImage.WellFormed ∧ ∃ raw, sampleImage.Denotes raw ∧
      ClassStructure.parse ([0xCA, 0xFE, 0xBA, 0xBE] ++ sampleImage.layout ++ [0xFF]) = .ok raw := by
  obtain ⟨raw, hraw, -, hparse⟩ := parse_layout sampleImage sampleImage_wellFormed
  exact ⟨sampleImage_wellFormed, raw, hraw, (hparse _ _ rfl).1⟩

end ClassImage

end ClassAtlas.ClassFile
