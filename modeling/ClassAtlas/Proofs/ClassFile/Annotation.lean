import ClassAtlas.ClassFile.Annotation
import ClassAtlas.Proofs.ClassFile.Descriptor
import ClassAtlas.Proofs.ClassFile.Layout
import ClassAtlas.Proofs.Order.Table

/-!
# Annotations: written form and reading back

An image of an element value is a tree whose leaves are slot numbers of a
constant pool. `Denotes` gives the value that it stands for, `layout` the bytes
it is written as, and `Sits` the places of the values inside it, each at the
depth of the arrays and annotations around it.

The reader counts down the levels it has left, and so do the two lemmas on it: a
value none of whose parts lies too deep is consumed, any other one fails.
-/

namespace ClassAtlas.ClassFile

open Decoder

/-! ## What slot numbers stand for -/

namespace ConstantPool

variable (pool : ConstantPool)

/-- Slot `i` holds `c`; slot zero holds nothing. -/
def Has (i : Nat) (c : Constant) : Prop := 0 < i ∧ pool.slots[i]? = some (some c)

/-- A number of two bytes names the slot of a text. -/
def NamesText (i : Nat) (text : String) : Prop := i < 2 ^ 16 ∧ pool.Has i (.utf8 text)

/-- A number of two bytes names the slot of a type's descriptor. -/
def NamesType (i : Nat) (type : String) : Prop :=
  ∃ text, pool.NamesText i text ∧ Descriptor.TypeToken text.toList type

/-- Slot `i` holds a number or a text, the latter directly or by a further slot. -/
inductive HasValue (i : Nat) : ConstantValue → Prop where
  | integer {v : Int} : pool.Has i (.integer v) → HasValue i (.integer v)
  | long {v : Int} : pool.Has i (.long v) → HasValue i (.integer v)
  | float {bits : UInt32} :
      pool.Has i (.float bits) → HasValue i (.real (Binary64.ofBinary32 bits))
  | double {bits : UInt64} : pool.Has i (.double bits) → HasValue i (.real ⟨bits⟩)
  | text {text : String} : pool.Has i (.utf8 text) → HasValue i (.text text)
  | string {j : Nat} {text : String} :
      pool.Has i (.stringRef j) → pool.Has j (.utf8 text) → HasValue i (.text text)

/-- A number of two bytes names the slot of a number or text. -/
def NamesValue (i : Nat) (value : ConstantValue) : Prop := i < 2 ^ 16 ∧ pool.HasValue i value

variable {pool}

theorem Has.get? {i : Nat} {c : Constant} (h : pool.Has i c) : pool.get? i = some c := by
  have hpos : (0 : Int) < i := by
    have := h.1
    omega
  rw [ConstantPool.get?, if_pos hpos, Int.toNat_natCast, h.2]
  rfl

theorem Has.utf8 {i : Nat} {text : String} (h : pool.Has i (.utf8 text)) :
    pool.utf8 i = .ok text := by
  rw [ConstantPool.utf8, h.get?]

theorem HasValue.constantValue {i : Nat} {value : ConstantValue} (h : pool.HasValue i value) :
    pool.constantValue i = .ok value := by
  cases h with
  | string h ht =>
      rw [ConstantPool.constantValue, h.get?]
      show (pool.utf8 _ >>= _) = _
      rw [ht.utf8]
      rfl
  | integer h | long h | float h | double h | text h => rw [ConstantPool.constantValue, h.get?]

end ConstantPool

/-! ## Images -/

/-- The kinds of constants that stand in an annotation as they are. -/
inductive ScalarKind where
  | byte
  | double
  | float
  | int
  | long
  | short
  | string
  deriving DecidableEq, Repr

/-- The letter that announces a constant of the kind. -/
def ScalarKind.letter : ScalarKind → Char
  | byte => 'B'
  | double => 'D'
  | float => 'F'
  | int => 'I'
  | long => 'J'
  | short => 'S'
  | string => 's'

/-- An element value as it is written: slot numbers for constants, names and types. -/
inductive ElementImage where
  | scalar (kind : ScalarKind) (constant : Nat)
  | boolean (constant : Nat)
  | character (constant : Nat)
  | enumConstant (type name : Nat)
  | classLiteral (type : Nat)
  | array (items : List ElementImage)
  | nested (type : Nat) (elements : List (Nat × ElementImage))

/-- An annotation: the slot of its type, and its elements with the slots of their names. -/
structure AnnotationImage where
  type : Nat
  elements : List (Nat × ElementImage)

namespace ElementImage

mutual

def layout : ElementImage → Bytes
  | .scalar kind constant => bigEndianBytes 1 kind.letter.toNat ++ bigEndianBytes 2 constant
  | .boolean constant => bigEndianBytes 1 'Z'.toNat ++ bigEndianBytes 2 constant
  | .character constant => bigEndianBytes 1 'C'.toNat ++ bigEndianBytes 2 constant
  | .enumConstant type name =>
    bigEndianBytes 1 'e'.toNat ++ (bigEndianBytes 2 type ++ bigEndianBytes 2 name)
  | .classLiteral type => bigEndianBytes 1 'c'.toNat ++ bigEndianBytes 2 type
  | .array items =>
    bigEndianBytes 1 '['.toNat ++ (bigEndianBytes 2 items.length ++ itemsLayout items)
  | .nested type elements =>
    bigEndianBytes 1 '@'.toNat ++ (bigEndianBytes 2 type ++
      (bigEndianBytes 2 elements.length ++ elementsLayout elements))

def itemsLayout : List ElementImage → Bytes
  | [] => []
  | item :: rest => layout item ++ itemsLayout rest

def elementsLayout : List (Nat × ElementImage) → Bytes
  | [] => []
  | (name, value) :: rest => (bigEndianBytes 2 name ++ layout value) ++ elementsLayout rest

end

/-- A named element: the slot of its name, then its value. -/
def elementLayout (element : Nat × ElementImage) : Bytes :=
  bigEndianBytes 2 element.1 ++ element.2.layout

theorem itemsLayout_eq (items : List ElementImage) : itemsLayout items = items.flatMap layout := by
  induction items with
  | nil => rfl
  | cons item rest ih => rw [itemsLayout, ih, List.flatMap_cons]

theorem elementsLayout_eq (elements : List (Nat × ElementImage)) :
    elementsLayout elements = elements.flatMap elementLayout := by
  induction elements with
  | nil => rfl
  | cons e rest ih =>
      obtain ⟨name, value⟩ := e
      rw [elementsLayout, ih, List.flatMap_cons, elementLayout]

/-- `Sits depth inner outer`: the value `inner` is `outer` or a part of it, with `depth` arrays and
annotations of `outer` around it. -/
inductive Sits : Nat → ElementImage → ElementImage → Prop where
  | self (image : ElementImage) : Sits 0 image image
  | item {depth : Nat} {inner item : ElementImage} {items : List ElementImage} :
      item ∈ items → Sits depth inner item → Sits (depth + 1) inner (.array items)
  | element {depth type : Nat} {inner : ElementImage} {element : Nat × ElementImage}
      {elements : List (Nat × ElementImage)} :
      element ∈ elements → Sits depth inner element.2 →
        Sits (depth + 1) inner (.nested type elements)

/-- Counts fit two bytes, and slot numbers lead to constants of the right kind; an integer that
stands for a character is a UTF-16 code unit. -/
inductive WellFormed (pool : ConstantPool) : ElementImage → Prop where
  | scalar {kind : ScalarKind} {constant : Nat} :
      (∃ value, pool.NamesValue constant value) → WellFormed pool (.scalar kind constant)
  | boolean {constant : Nat} :
      (∃ value, pool.NamesValue constant value) → WellFormed pool (.boolean constant)
  | character {constant : Nat} :
      (∃ value, pool.NamesValue constant value ∧
        ∀ v, value = .integer v → 0 ≤ v ∧ v ≤ 0xFFFF) → WellFormed pool (.character constant)
  | enumConstant {type name : Nat} :
      (∃ t, pool.NamesType type t) → (∃ text, pool.NamesText name text) →
        WellFormed pool (.enumConstant type name)
  | classLiteral {type : Nat} :
      (∃ t, pool.NamesType type t) → WellFormed pool (.classLiteral type)
  | array {items : List ElementImage} :
      items.length < 2 ^ 16 → (∀ item ∈ items, WellFormed pool item) →
        WellFormed pool (.array items)
  | nested {type : Nat} {elements : List (Nat × ElementImage)} :
      (∃ t, pool.NamesType type t) → elements.length < 2 ^ 16 →
        (∀ e ∈ elements, ∃ name, pool.NamesText e.1 name) →
        (∀ e ∈ elements, WellFormed pool e.2) → WellFormed pool (.nested type elements)

/-- The constants that count as false: zero and the empty text. -/
def IsNull : ConstantValue → Prop
  | .integer v => v = 0
  | .real x => x.isZero = true
  | .text s => s = ""

mutual

/-- The value that an image stands for. -/
inductive Denotes (pool : ConstantPool) : ElementImage → ElementValue → Prop where
  | scalar {kind : ScalarKind} {constant : Nat} {value : ConstantValue} :
      pool.NamesValue constant value →
        Denotes pool (.scalar kind constant) (ElementValue.ofConstant value)
  | no {constant : Nat} {value : ConstantValue} :
      pool.NamesValue constant value → IsNull value → Denotes pool (.boolean constant) (.bool false)
  | yes {constant : Nat} {value : ConstantValue} :
      pool.NamesValue constant value → ¬ IsNull value → Denotes pool (.boolean constant) (.bool true)
  | character {constant : Nat} {c : Char} :
      pool.NamesValue constant (.integer c.toNat) → c.toNat ≤ 0xFFFF →
        Denotes pool (.character constant) (.text (String.singleton c))
  | surrogate {constant unit : Nat} :
      pool.NamesValue constant (.integer unit) → 0xD800 ≤ unit → unit < 0xE000 →
        Denotes pool (.character constant) (.surrogate unit)
  | uncoded {constant : Nat} {value : ConstantValue} :
      pool.NamesValue constant value → (∀ v, value ≠ .integer v) →
        Denotes pool (.character constant) (ElementValue.ofConstant value)
  | enumConstant {type name : Nat} {t text : String} :
      pool.NamesType type t → pool.NamesText name text →
        Denotes pool (.enumConstant type name) (.text (t ++ "." ++ text))
  | classLiteral {type : Nat} {t : String} :
      pool.NamesType type t → Denotes pool (.classLiteral type) (.text t)
  | array {items : List ElementImage} {values : List ElementValue} :
      List.Forall₂ (Denotes pool) items values → Denotes pool (.array items) (.list values)
  | nested {type : Nat} {elements : List (Nat × ElementImage)} {t : String}
      {named : List (String × ElementValue)} {table : ElementTable} :
      pool.NamesType type t → List.Forall₂ (ElementDenotes pool) elements named →
        Table.Settles named table → Denotes pool (.nested type elements) (.nested table.entries)

/-- The name and the value that a named element stands for. -/
inductive ElementDenotes (pool : ConstantPool) : Nat × ElementImage → String × ElementValue → Prop where
  | mk {slot : Nat} {image : ElementImage} {name : String} {value : ElementValue} :
      pool.NamesText slot name → Denotes pool image value →
        ElementDenotes pool (slot, image) (name, value)

end

end ElementImage

namespace AnnotationImage

def layout (a : AnnotationImage) : Bytes :=
  bigEndianBytes 2 a.type ++ tableLayout ElementImage.elementLayout a.elements

/-- Its elements fit, and its slot numbers lead to constants of the right kind. -/
structure WellFormed (pool : ConstantPool) (a : AnnotationImage) : Prop where
  type : ∃ t, pool.NamesType a.type t
  count : a.elements.length < 2 ^ 16
  names : ∀ e ∈ a.elements, ∃ name, pool.NamesText e.1 name
  values : ∀ e ∈ a.elements, e.2.WellFormed pool

/-- The type of an annotation and its elements: a repeated name keeps its first place and takes its
last value. -/
structure Denotes (pool : ConstantPool) (a : AnnotationImage) (entry : String × ElementTable) :
    Prop where
  type : pool.NamesType a.type entry.1
  elements : ∃ named, List.Forall₂ (ElementImage.ElementDenotes pool) a.elements named ∧
    Table.Settles named entry.2

end AnnotationImage

/-! ## Well-formed images stand for values -/

section Exists

variable {pool : ConstantPool}

theorem exists_denotes_character {constant : Nat} {value : ConstantValue}
    (h : pool.NamesValue constant value) (hunit : ∀ v, value = .integer v → 0 ≤ v ∧ v ≤ 0xFFFF) :
    ∃ v, ElementImage.Denotes pool (.character constant) v := by
  cases value with
  | integer v =>
      obtain ⟨hlo, hhi⟩ := hunit v rfl
      obtain ⟨n, rfl⟩ := Int.eq_ofNat_of_zero_le hlo
      by_cases hsurrogate : 0xD800 ≤ n ∧ n < 0xE000
      · exact ⟨_, .surrogate h hsurrogate.1 hsurrogate.2⟩
      · have hvalid : n.isValidChar := by
          unfold Nat.isValidChar
          omega
        have hn : (Char.ofNat n).toNat = n := by
          rw [Char.ofNat, dif_pos hvalid]
          rfl
        exact ⟨_, .character (c := Char.ofNat n) (by rwa [hn]) (by omega)⟩
  | real x => exact ⟨_, .uncoded h nofun⟩
  | text t => exact ⟨_, .uncoded h nofun⟩

theorem exists_elementDenotes {elements : List (Nat × ElementImage)}
    (hnames : ∀ e ∈ elements, ∃ name, pool.NamesText e.1 name)
    (hvalues : ∀ e ∈ elements, ∃ value, e.2.Denotes pool value) :
    ∃ named, List.Forall₂ (ElementImage.ElementDenotes pool) elements named := by
  refine exists_forall₂ fun e he => ?_
  obtain ⟨name, hname⟩ := hnames e he
  obtain ⟨value, hvalue⟩ := hvalues e he
  exact ⟨(name, value), .mk hname hvalue⟩

theorem ElementImage.WellFormed.exists_denotes {image : ElementImage}
    (h : image.WellFormed pool) : ∃ value, image.Denotes pool value := by
  induction h with
  | scalar h =>
      obtain ⟨value, hvalue⟩ := h
      exact ⟨_, .scalar hvalue⟩
  | boolean h =>
      obtain ⟨value, hvalue⟩ := h
      by_cases hnull : IsNull value
      · exact ⟨_, .no hvalue hnull⟩
      · exact ⟨_, .yes hvalue hnull⟩
  | character h =>
      obtain ⟨value, hvalue, hunit⟩ := h
      exact exists_denotes_character hvalue hunit
  | enumConstant htype hname =>
      obtain ⟨t, ht⟩ := htype
      obtain ⟨text, htext⟩ := hname
      exact ⟨_, .enumConstant ht htext⟩
  | classLiteral htype =>
      obtain ⟨t, ht⟩ := htype
      exact ⟨_, .classLiteral ht⟩
  | array _ _ ih =>
      obtain ⟨values, hvalues⟩ := exists_forall₂ ih
      exact ⟨_, .array hvalues⟩
  | nested htype _ hnames _ ih =>
      obtain ⟨t, ht⟩ := htype
      obtain ⟨named, hnamed⟩ := exists_elementDenotes hnames ih
      exact ⟨_, .nested ht hnamed (Table.settles_ofList named)⟩

theorem AnnotationImage.WellFormed.exists_denotes {a : AnnotationImage} (h : a.WellFormed pool) :
    ∃ entry, a.Denotes pool entry := by
  obtain ⟨t, ht⟩ := h.type
  obtain ⟨named, hnamed⟩ := exists_elementDenotes h.names fun e he => (h.values e he).exists_denotes
  exact ⟨(t, Table.ofList named), ht, named, hnamed, Table.settles_ofList named⟩

end Exists

/-! ## Reading -/

section Reading

variable {pool : ConstantPool}

theorem consumes_type {i : Nat} {type : String} (h : pool.NamesType i type) :
    (typeDecoder pool).Consumes (bigEndianBytes 2 i) type := by
  obtain ⟨text, htext, htoken⟩ := h
  refine (Consumes.u2 htext.1).check (Consumes.lift_bind htext.2.utf8 (Consumes.lift ?_))
  rw [Descriptor.fieldType_of_token htoken]
  rfl

/-- A constant is looked up and turned into a value. -/
theorem consumes_value {α : Type} {i : Nat} {value : ConstantValue} {f : ConstantValue → Decoder α}
    {a : α} (h : pool.NamesValue i value) (hf : (f value).Consumes [] a) :
    (do f (← Decoder.lift (pool.constantValue (← Decoder.u2))) : Decoder α).Consumes
      (bigEndianBytes 2 i) a :=
  (Consumes.u2 h.1).check (Consumes.lift_bind h.2.constantValue hf)

/-- An annotation is consumed if the values of its elements are. -/
theorem AnnotationImage.Denotes.consumes {a : AnnotationImage} {entry : String × ElementTable}
    {value : Decoder ElementValue} (h : a.Denotes pool entry) (hcount : a.elements.length < 2 ^ 16)
    (hvalue : ∀ e ∈ a.elements, ∀ v, e.2.Denotes pool v → value.Consumes e.2.layout v) :
    (annotationDecoder pool value).Consumes a.layout entry := by
  obtain ⟨type, table⟩ := entry
  obtain ⟨named, hnamed, hsettles⟩ := h.elements
  have htable : table = Table.ofList named := hsettles.eq_ofList
  have helement : ∀ e ∈ a.elements, ∀ v, ElementImage.ElementDenotes pool e v →
      (elementDecoder pool value).Consumes (ElementImage.elementLayout e) v := by
    rintro ⟨slot, image⟩ he ⟨name, v⟩ ⟨hname, hdenotes⟩
    refine (Consumes.u2 hname.1).bind (Consumes.lift_bind hname.2.utf8 ?_)
    exact (hvalue _ he v hdenotes).map (Prod.mk name)
  rw [htable]
  exact (consumes_type h.type).bind
    ((Consumes.counted hcount hnamed helement).map fun es => (type, Table.ofList es))

/-- An annotation fails for a reason for which one of its values fails, where the others are
consumed or fail for it too. -/
theorem AnnotationImage.WellFormed.failsOn {a : AnnotationImage} {value : Decoder ElementValue}
    {fault : Fault} (h : a.WellFormed pool)
    (hvalue : ∀ e ∈ a.elements,
      (∃ v, value.Consumes e.2.layout v) ∨ value.FailsOn e.2.layout fault)
    (hfails : ∃ e ∈ a.elements, value.FailsOn e.2.layout fault) :
    (annotationDecoder pool value).FailsOn a.layout fault := by
  have hconsumed : ∀ e ∈ a.elements, (∃ v, value.Consumes e.2.layout v) →
      ∃ v, (elementDecoder pool value).Consumes (ElementImage.elementLayout e) v := by
    rintro e he ⟨v, hv⟩
    obtain ⟨name, hname⟩ := h.names e he
    exact ⟨_, (Consumes.u2 hname.1).bind
      (Consumes.lift_bind hname.2.utf8 (hv.map (Prod.mk name)))⟩
  have hfailed : ∀ e ∈ a.elements, value.FailsOn e.2.layout fault →
      (elementDecoder pool value).FailsOn (ElementImage.elementLayout e) fault := by
    intro e he hfail
    obtain ⟨name, hname⟩ := h.names e he
    exact .bind_right (Consumes.u2 hname.1)
      (.bind_right (Consumes.lift hname.2.utf8) (hfail.map (Prod.mk name)))
  obtain ⟨type, htype⟩ := h.type
  refine .bind_right (consumes_type htype) (FailsOn.map (.counted h.count ?_ ?_) _)
  · exact fun e he => (hvalue e he).imp (hconsumed e he) (hfailed e he)
  · obtain ⟨e, he, hfail⟩ := hfails
    exact ⟨e, he, hfailed e he hfail⟩

end Reading

/-! ## Values within the levels left, and beyond them -/

namespace ElementImage

variable {pool : ConstantPool}

/-- No part of the image has as many as `room` arrays and annotations around it. -/
def Within (room : Nat) (image : ElementImage) : Prop :=
  ∀ depth inner, Sits depth inner image → depth < room

theorem Within.item {room : Nat} {items : List ElementImage}
    (h : Within (room + 1) (.array items)) {item : ElementImage} (hitem : item ∈ items) :
    Within room item :=
  fun _ _ hsits => Nat.lt_of_succ_lt_succ (h _ _ (.item hitem hsits))

theorem Within.element {room type : Nat} {elements : List (Nat × ElementImage)}
    (h : Within (room + 1) (.nested type elements)) {e : Nat × ElementImage}
    (he : e ∈ elements) : Within room e.2 :=
  fun _ _ hsits => Nat.lt_of_succ_lt_succ (h _ _ (.element he hsits))

theorem truth_of_null {value : ConstantValue} (h : IsNull value) :
    ElementValue.truth value = false := by
  cases value with
  | integer v => simpa [ElementValue.truth, IsNull] using h
  | real x => simpa [ElementValue.truth, IsNull] using h
  | text s => simpa [ElementValue.truth, IsNull] using h

theorem truth_of_not_null {value : ConstantValue} (h : ¬ IsNull value) :
    ElementValue.truth value = true := by
  cases value with
  | integer v => simpa [ElementValue.truth, IsNull] using h
  | real x => simpa [ElementValue.truth, IsNull] using h
  | text s => simpa [ElementValue.truth, IsNull] using h

theorem character_char {c : Char} (h : c.toNat ≤ 0xFFFF) :
    ElementValue.character (.integer c.toNat) = .ok (.text (String.singleton c)) := by
  have hrange : (0 : Int) ≤ c.toNat ∧ (c.toNat : Int) ≤ 0xFFFF := by omega
  have hscalar' : ¬ ((0xD800 : Int) ≤ c.toNat ∧ (c.toNat : Int) < 0xE000) := by
    have := Text.isValidChar_iff.mp (Text.isValidChar_toNat c)
    omega
  rw [ElementValue.character, if_pos hrange, if_neg hscalar', Int.toNat_natCast, Char.ofNat_toNat]

theorem character_surrogate {unit : Nat} (hlo : 0xD800 ≤ unit) (hhi : unit < 0xE000) :
    ElementValue.character (.integer unit) = .ok (.surrogate unit) := by
  rw [ElementValue.character, if_pos (by omega), if_pos (by omega), Int.toNat_natCast]

theorem character_uncoded {value : ConstantValue} (h : ∀ v, value ≠ .integer v) :
    ElementValue.character value = .ok (ElementValue.ofConstant value) := by
  cases value with
  | integer v => exact absurd rfl (h v)
  | real x => rfl
  | text s => rfl

theorem layout_array (items : List ElementImage) :
    layout (.array items) = bigEndianBytes 1 '['.toNat ++ tableLayout layout items := by
  rw [layout, itemsLayout_eq, tableLayout]

theorem layout_nested (type : Nat) (elements : List (Nat × ElementImage)) :
    layout (.nested type elements) =
      bigEndianBytes 1 '@'.toNat ++ AnnotationImage.layout ⟨type, elements⟩ := by
  rw [layout, elementsLayout_eq, AnnotationImage.layout, tableLayout]

theorem consumes_decoder {room : Nat} {image : ElementImage} {value : ElementValue}
    (hwf : image.WellFormed pool) (h : image.Denotes pool value) (hroom : image.Within room) :
    (ElementValue.decoder pool room).Consumes image.layout value := by
  induction room generalizing image value with
  | zero => exact absurd (hroom 0 image (.self image)) (Nat.lt_irrefl 0)
  | succ room ih =>
      cases h with
      | scalar h =>
          rename_i kind constant value
          refine (Consumes.u1 (by cases kind <;> decide)).bind ?_
          cases kind <;> exact consumes_value h (Consumes.pure _)
      | no h hnull =>
          refine (Consumes.u1 (by decide)).bind (consumes_value h ?_)
          rw [truth_of_null hnull]
          exact Consumes.pure _
      | yes h hnull =>
          refine (Consumes.u1 (by decide)).bind (consumes_value h ?_)
          rw [truth_of_not_null hnull]
          exact Consumes.pure _
      | character h hle =>
          exact (Consumes.u1 (by decide)).bind (consumes_value h (Consumes.lift (character_char hle)))
      | surrogate h hlo hhi =>
          exact (Consumes.u1 (by decide)).bind
            (consumes_value h (Consumes.lift (character_surrogate hlo hhi)))
      | uncoded h hne =>
          exact (Consumes.u1 (by decide)).bind
            (consumes_value h (Consumes.lift (character_uncoded hne)))
      | enumConstant htype hname =>
          refine (Consumes.u1 (by decide)).bind ((consumes_type htype).bind ?_)
          exact (Consumes.u2 hname.1).check (Consumes.lift_bind hname.2.utf8 (Consumes.pure _))
      | classLiteral htype =>
          exact (Consumes.u1 (by decide)).bind ((consumes_type htype).map ElementValue.text)
      | array hitems =>
          cases hwf with
          | array hcount hwf =>
              rw [layout_array]
              have hread := Consumes.counted hcount hitems fun item hitem _ hvalue =>
                ih (hwf item hitem) hvalue (hroom.item hitem)
              exact (Consumes.u1 (by decide)).bind (hread.map ElementValue.list)
      | @nested type elements t named table htype hnamed hsettles =>
          cases hwf with
          | nested _ hcount _ hwf =>
              have hdenotes : AnnotationImage.Denotes pool ⟨type, elements⟩ (t, table) :=
                ⟨htype, named, hnamed, hsettles⟩
              have hread := hdenotes.consumes hcount
                fun e he _ hvalue => ih (hwf e he) hvalue (hroom.element he)
              rw [layout_nested]
              exact (Consumes.u1 (by decide)).bind
                (hread.map fun entry => ElementValue.nested entry.2.entries)

theorem exists_consumes_or {room : Nat} {image : ElementImage} {otherwise : Prop}
    (hwf : image.WellFormed pool)
    (h : ∀ depth inner, Sits depth inner image → room ≤ depth → otherwise) :
    (∃ v, (ElementValue.decoder pool room).Consumes image.layout v) ∨ otherwise := by
  by_cases hwithin : image.Within room
  · obtain ⟨v, hv⟩ := hwf.exists_denotes
    exact .inl ⟨v, consumes_decoder hwf hv hwithin⟩
  · simp only [Within, not_forall, Nat.not_lt] at hwithin
    obtain ⟨depth, inner, hsits, hdepth⟩ := hwithin
    exact .inr (h depth inner hsits hdepth)

theorem failsOn_decoder {room depth : Nat} {image inner : ElementImage}
    (hwf : image.WellFormed pool) (hsits : Sits depth inner image) (hdepth : room ≤ depth) :
    (ElementValue.decoder pool room).FailsOn image.layout (.nestedTooDeep ElementValue.maxDepth) := by
  induction room generalizing image inner depth with
  | zero => exact fun _ _ _ _ => rfl
  | succ room ih =>
      cases hsits with
      | self => exact absurd hdepth (Nat.not_succ_le_zero room)
      -- in front of the part that lies too deep, the parts are consumed or fail as well
      | item hitem hsits =>
          cases hwf with
          | array hcount hwf =>
              have hfail := FailsOn.counted hcount
                (fun item hitem => exists_consumes_or (hwf item hitem) fun _ _ => ih (hwf item hitem))
                ⟨_, hitem, ih (hwf _ hitem) hsits (Nat.le_of_succ_le_succ hdepth)⟩
              rw [layout_array]
              exact .bind_right (Consumes.u1 (by decide)) (hfail.map ElementValue.list)
      | element he hsits =>
          cases hwf with
          | nested htype hcount hnames hwf =>
              have hfail := AnnotationImage.WellFormed.failsOn (a := ⟨_, _⟩)
                ⟨htype, hcount, hnames, hwf⟩
                (fun e he => exists_consumes_or (hwf e he) fun _ _ => ih (hwf e he))
                ⟨_, he, ih (hwf _ he) hsits (Nat.le_of_succ_le_succ hdepth)⟩
              rw [layout_nested]
              exact .bind_right (Consumes.u1 (by decide))
                (hfail.map fun entry => ElementValue.nested entry.2.entries)

end ElementImage

/-! ## Annotations of attributes -/

namespace AnnotationImage

variable {pool : ConstantPool} {a : AnnotationImage}

/-- An element value of the annotation lies at a depth: that many arrays and nested annotations are
around it. -/
def HasValueAt (a : AnnotationImage) (depth : Nat) : Prop :=
  ∃ e ∈ a.elements, ∃ inner, ElementImage.Sits depth inner e.2

theorem WellFormed.consumes {entry : String × ElementTable} (hwf : a.WellFormed pool)
    (h : a.Denotes pool entry) (hdepth : ∀ depth, a.HasValueAt depth → depth ≤ 64) :
    (annotationDecoder pool (ElementValue.decoder pool (ElementValue.maxDepth + 1))).Consumes
      a.layout entry := by
  refine h.consumes hwf.count fun e he v hv => ?_
  refine ElementImage.consumes_decoder (hwf.values e he) hv fun depth inner hsits => ?_
  exact Nat.lt_succ_of_le (hdepth depth ⟨e, he, inner, hsits⟩)

theorem WellFormed.failsOn_of_deep {depth : Nat} (hwf : a.WellFormed pool) (h : a.HasValueAt depth)
    (hdepth : 64 < depth) :
    (annotationDecoder pool (ElementValue.decoder pool (ElementValue.maxDepth + 1))).FailsOn
      a.layout (.nestedTooDeep 64) := by
  obtain ⟨e, he, inner, hsits⟩ := h
  refine hwf.failsOn (fun e he => ?_) ⟨e, he, ?_⟩
  · exact ElementImage.exists_consumes_or (hwf.values e he) fun _ _ =>
      ElementImage.failsOn_decoder (hwf.values e he)
  · exact ElementImage.failsOn_decoder (hwf.values e he) hsits hdepth

end AnnotationImage

namespace Annotations

variable {pool : ConstantPool} {attributes : Attributes} {name : String}
  {images : List AnnotationImage}

/-- The attribute of the given name holds well-formed annotations in their written form. A missing
attribute holds none. -/
structure Held (attributes : Attributes) (pool : ConstantPool) (name : String)
    (images : List AnnotationImage) : Prop where
  count : images.length < 2 ^ 16
  wellFormed : ∀ a ∈ images, a.WellFormed pool
  body : attributes.get? name = some (tableLayout AnnotationImage.layout images) ∨
    attributes.get? name = none ∧ images = []

theorem runOn_of_consumes {α : Type} {d : Decoder α} {used : Bytes} {a : α}
    (h : d.Consumes used a) (subject : String) : d.runOn subject used = .ok a := by
  have hrun := h.runOn_append subject []
  rwa [List.append_nil] at hrun

theorem runOn_of_failsOn {α : Type} {d : Decoder α} {used : Bytes} {fault : Fault}
    (h : d.FailsOn used fault) (subject : String) : d.runOn subject used = .error fault := by
  rw [Decoder.runOn, h (Cursor.at subject used) [] (by simp [Cursor.at]) (by simp [Cursor.at])]
  rfl

theorem Held.ofAttribute_eq {entries : List (String × ElementTable)}
    (hheld : Held attributes pool name images)
    (h : List.Forall₂ (AnnotationImage.Denotes pool) images entries)
    (hdepth : ∀ a ∈ images, ∀ depth, a.HasValueAt depth → depth ≤ 64) :
    ofAttribute attributes pool name = .ok entries := by
  rcases hheld.body with hsome | ⟨hnone, rfl⟩
  · rw [Annotations.ofAttribute, hsome]
    exact runOn_of_consumes (Consumes.counted hheld.count h fun a ha entry hentry =>
      (hheld.wellFormed a ha).consumes hentry (hdepth a ha)) name
  · cases h
    rw [Annotations.ofAttribute, hnone]

theorem Held.ofAttribute_of_deep (hheld : Held attributes pool name images)
    (hdeep : ∃ a ∈ images, ∃ depth, a.HasValueAt depth ∧ 64 < depth) :
    ofAttribute attributes pool name = .error (.nestedTooDeep 64) := by
  obtain ⟨a, ha, depth, hvalue, hdepth⟩ := hdeep
  rcases hheld.body with hsome | ⟨-, rfl⟩
  · rw [Annotations.ofAttribute, hsome]
    refine runOn_of_failsOn (FailsOn.counted hheld.count (fun b hb => ?_)
      ⟨a, ha, (hheld.wellFormed a ha).failsOn_of_deep hvalue hdepth⟩) name
    have hwf := hheld.wellFormed b hb
    by_cases hshallow : ∀ depth, b.HasValueAt depth → depth ≤ 64
    · obtain ⟨entry, hentry⟩ := hwf.exists_denotes
      exact .inl ⟨entry, hwf.consumes hentry hshallow⟩
    · simp only [not_forall, Nat.not_le] at hshallow
      obtain ⟨d, hd, hlt⟩ := hshallow
      exact .inr (hwf.failsOn_of_deep hd hlt)
  · cases ha

/-- **Annotations are read back up to the limit of nesting.** Let the two attributes hold
well-formed annotations, which stand for types with their elements. If no element value lies deeper
than 64, decoding returns of each type the first annotation, the visible ones before the invisible
ones; if some value does, decoding fails for that reason. -/
theorem decode_layout {visible invisible : List AnnotationImage}
    (hvisible : Held attributes pool "RuntimeVisibleAnnotations" visible)
    (hinvisible : Held attributes pool "RuntimeInvisibleAnnotations" invisible) :
    (∃ entries, List.Forall₂ (AnnotationImage.Denotes pool) (visible ++ invisible) entries) ∧
    (∀ entries, List.Forall₂ (AnnotationImage.Denotes pool) (visible ++ invisible) entries →
      (∀ a ∈ visible ++ invisible, ∀ depth, a.HasValueAt depth → depth ≤ 64) →
      ∃ table, decode attributes pool = .ok table ∧ table.entries = Table.firsts entries) ∧
    ((∃ a ∈ visible ++ invisible, ∃ depth, a.HasValueAt depth ∧ 64 < depth) →
      decode attributes pool = .error (.nestedTooDeep 64)) := by
  refine ⟨?_, ?_, ?_⟩
  · refine exists_forall₂ fun a ha => ?_
    rcases List.mem_append.mp ha with ha | ha
    · exact (hvisible.wellFormed a ha).exists_denotes
    · exact (hinvisible.wellFormed a ha).exists_denotes
  · intro entries hentries hdepth
    have hfirst := List.forall₂_take visible.length hentries
    have hsecond := List.forall₂_drop visible.length hentries
    rw [List.take_left] at hfirst
    rw [List.drop_left] at hsecond
    have hread := hvisible.ofAttribute_eq hfirst fun a ha => hdepth a (List.mem_append_left _ ha)
    have hread' := hinvisible.ofAttribute_eq hsecond fun a ha => hdepth a (List.mem_append_right _ ha)
    refine ⟨_, ?_, Table.entries_foldl_insertIfNew_empty entries⟩
    rw [decode, hread, hread']
    show Except.ok (List.foldl _ ∅ (entries.take visible.length ++ entries.drop visible.length)) = _
    rw [List.take_append_drop]
  · rintro ⟨a, ha, hdeep⟩
    by_cases hfirst : ∃ a ∈ visible, ∃ depth, a.HasValueAt depth ∧ 64 < depth
    · rw [decode, hvisible.ofAttribute_of_deep hfirst]
      rfl
    · -- the visible annotations are read, and the value that lies too deep is met after them
      have hsecond : ∃ a ∈ invisible, ∃ depth, a.HasValueAt depth ∧ 64 < depth := by
        rcases List.mem_append.mp ha with ha | ha
        · exact absurd ⟨a, ha, hdeep⟩ hfirst
        · exact ⟨a, ha, hdeep⟩
      obtain ⟨first, hentries⟩ := exists_forall₂ fun a ha => (hvisible.wellFormed a ha).exists_denotes
      have hread := hvisible.ofAttribute_eq hentries fun a ha depth hvalue =>
        Nat.le_of_not_lt fun hlt => hfirst ⟨a, ha, depth, hvalue, hlt⟩
      rw [decode, hread, hinvisible.ofAttribute_of_deep hsecond]
      rfl

/-- A pool with a descriptor, a name and the code of a letter. -/
def samplePool : ConstantPool :=
  ⟨#[none, some (.utf8 "LMark;"), some (.utf8 "name"), some (.integer 65)]⟩

/-- A character inside so many arrays and annotations by turns. -/
def sampleValue : Nat → ElementImage
  | 0 => .character 3
  | n + 1 => if n % 2 = 0 then .array [sampleValue n] else .nested 1 [(2, sampleValue n)]

/-- An annotation that repeats an element, the second time with a value that lies deep. -/
def sampleMark (n : Nat) : AnnotationImage :=
  ⟨1, [(2, .scalar .string 2), (2, sampleValue n)]⟩

def sampleAttributes (n : Nat) : Attributes :=
  Table.ofList [("RuntimeInvisibleAnnotations",
    tableLayout AnnotationImage.layout [sampleMark 0, sampleMark n])]

theorem samplePool_slots :
    samplePool.NamesType 1 "Mark" ∧ samplePool.NamesText 2 "name" ∧
      samplePool.NamesValue 2 (.text "name") ∧ samplePool.NamesValue 3 (.integer 65) := by
  have hname : samplePool.Has 2 (.utf8 "name") := ⟨by decide, rfl⟩
  refine ⟨⟨"LMark;", ⟨by decide, by decide, rfl⟩, ?_⟩, ⟨by decide, hname⟩, ⟨by decide, .text hname⟩,
    by decide, .integer ⟨by decide, rfl⟩⟩
  exact ⟨0, _, _, @Descriptor.BaseToken.reference "Mark".toList (by decide), rfl, rfl⟩

theorem sampleValue_wellFormed (n : Nat) : (sampleValue n).WellFormed samplePool := by
  obtain ⟨htype, hname, -, hcode⟩ := samplePool_slots
  induction n with
  | zero =>
      refine .character ⟨_, hcode, fun v hv => ?_⟩
      cases hv
      decide
  | succ n ih =>
      rw [sampleValue]
      split
      · exact .array (by simp) (List.forall_mem_singleton.mpr ih)
      · exact .nested ⟨_, htype⟩ (by simp) (List.forall_mem_singleton.mpr ⟨_, hname⟩)
          (List.forall_mem_singleton.mpr ih)

theorem sits_sampleValue (n : Nat) : ElementImage.Sits n (.character 3) (sampleValue n) := by
  induction n with
  | zero => exact .self _
  | succ n ih =>
      rw [sampleValue]
      split
      · exact .item (List.mem_singleton_self _) ih
      · exact .element (List.mem_singleton_self (2, sampleValue n)) ih

theorem le_of_sits_sampleValue {n depth : Nat} {inner : ElementImage}
    (h : ElementImage.Sits depth inner (sampleValue n)) : depth ≤ n := by
  induction n generalizing depth with
  | zero =>
      cases h
      exact Nat.le_refl 0
  | succ n ih =>
      rw [sampleValue] at h
      split at h
      · cases h with
        | self => exact Nat.zero_le _
        | item hitem hsits =>
            rw [List.mem_singleton.mp hitem] at hsits
            exact Nat.succ_le_succ (ih hsits)
      · cases h with
        | self => exact Nat.zero_le _
        | element he hsits =>
            rw [List.mem_singleton.mp he] at hsits
            exact Nat.succ_le_succ (ih hsits)

theorem sampleMark_wellFormed (n : Nat) : (sampleMark n).WellFormed samplePool := by
  obtain ⟨htype, hname, htext, -⟩ := samplePool_slots
  refine ⟨⟨_, htype⟩, by simp [sampleMark], ?_, ?_⟩
  · exact List.forall_mem_cons.mpr ⟨⟨_, hname⟩, List.forall_mem_singleton.mpr ⟨_, hname⟩⟩
  · exact List.forall_mem_cons.mpr
      ⟨.scalar ⟨_, htext⟩, List.forall_mem_singleton.mpr (sampleValue_wellFormed n)⟩

theorem hasValueAt_sampleMark (n : Nat) : (sampleMark n).HasValueAt n :=
  ⟨(2, sampleValue n), by simp [sampleMark], _, sits_sampleValue n⟩

theorem le_of_hasValueAt_sampleMark {n depth : Nat}
    (h : (sampleMark n).HasValueAt depth) : depth ≤ n := by
  obtain ⟨e, he, inner, hsits⟩ := h
  rcases List.mem_cons.mp he with rfl | he
  · cases hsits
    exact Nat.zero_le n
  · rw [List.mem_singleton.mp he] at hsits
    exact le_of_sits_sampleValue hsits

theorem sampleAttributes_held (n : Nat) :
    Held (sampleAttributes n) samplePool "RuntimeVisibleAnnotations" [] ∧
      Held (sampleAttributes n) samplePool "RuntimeInvisibleAnnotations"
        [sampleMark 0, sampleMark n] := by
  refine ⟨⟨by simp, by simp, .inr ⟨rfl, rfl⟩⟩, ⟨by simp, ?_, .inl rfl⟩⟩
  exact List.forall_mem_cons.mpr ⟨sampleMark_wellFormed 0,
    List.forall_mem_singleton.mpr (sampleMark_wellFormed n)⟩

theorem decode_layout_sample :
    (∃ entries table, List.Forall₂ (AnnotationImage.Denotes samplePool)
        [sampleMark 0, sampleMark 64] entries ∧
      decode (sampleAttributes 64) samplePool = .ok table ∧ table.entries = Table.firsts entries) ∧
    decode (sampleAttributes 65) samplePool = .error (.nestedTooDeep 64) := by
  constructor
  · obtain ⟨hvisible, hinvisible⟩ := sampleAttributes_held 64
    obtain ⟨⟨entries, hentries⟩, hread, -⟩ := decode_layout hvisible hinvisible
    obtain ⟨table, htable, hfirsts⟩ := hread entries hentries (by
      refine List.forall_mem_cons.mpr ⟨fun depth h => ?_, List.forall_mem_singleton.mpr fun depth h => ?_⟩
      · exact (le_of_hasValueAt_sampleMark h).trans (Nat.zero_le 64)
      · exact le_of_hasValueAt_sampleMark h)
    exact ⟨entries, table, hentries, htable, hfirsts⟩
  · obtain ⟨hvisible, hinvisible⟩ := sampleAttributes_held 65
    refine (decode_layout hvisible hinvisible).2.2 ⟨sampleMark 65, by simp, 65, ?_, by decide⟩
    exact hasValueAt_sampleMark 65

end Annotations

end ClassAtlas.ClassFile
