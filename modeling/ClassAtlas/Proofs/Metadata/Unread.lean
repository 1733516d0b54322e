import Mathlib.Data.List.Nodup
import Mathlib.Data.List.Perm.Basic
import ClassAtlas.Proofs.ClassFile.Outline
import ClassAtlas.Proofs.Metadata.Interpretation
import ClassAtlas.Proofs.Order.Table

/-!
# Attributes that nothing reads

Each owner of an attribute table has a few names that are looked up in it, and of
several attributes with one name the first one counts. So a table may get further
attributes under other names, or under names that it has already further up, and
its attributes may change places where their names differ: the metadata stay the
same. This holds of the tables of the class, of its fields and of its methods,
and of those nested in method bodies, whose edit changes a body, its length and
the place of everything behind.
-/

namespace ClassAtlas

namespace ClassFile

/-! ## What is read -/

namespace Attributes

def readOnField : List String := ["RuntimeVisibleAnnotations", "RuntimeInvisibleAnnotations"]

def readOnClass : List String := "SourceFile" :: "Record" :: readOnField

def readOnMethod : List String := "Code" :: "Exceptions" :: "MethodParameters" :: readOnField

def readInCode : List String := ["LineNumberTable", "LocalVariableTable"]

end Attributes

/-! ## Edits -/

section Edits

variable (pool : ConstantPool)

/-- A table before and after an edit that leaves alone what is read under the given names. -/
inductive TableEdit (names : List String) : List AttributeImage → List AttributeImage → Prop
  /-- Anywhere, an attribute that is not read. -/
  | unread {front back : List AttributeImage} {a : AttributeImage} {text : String}
      (hname : pool.utf8 a.name = .ok text) (hunread : text ∉ names) :
      TableEdit names (front ++ back) (front ++ a :: back)
  /-- Behind an attribute, another one with its name. -/
  | repeated {front back : List AttributeImage} {a b : AttributeImage} (hb : b ∈ front)
      (hname : pool.utf8 a.name = pool.utf8 b.name) :
      TableEdit names (front ++ back) (front ++ a :: back)
  /-- Another order of attributes with different names. -/
  | permuted {table table' : List AttributeImage} (hperm : table.Perm table')
      (hnames : (table.map fun a => pool.utf8 a.name).Nodup) : TableEdit names table table'

/-- An edit of the table nested in a method body. -/
inductive CodeEdit : Bytes → Bytes → Prop
  | nested {image : CodeImage} {nested : List AttributeImage} (hrange : image.InRange)
      (hedit : TableEdit pool Attributes.readInCode image.nested nested)
      (hrange' : TableInRange nested) :
      CodeEdit image.layout { image with nested := nested }.layout

/-- An edit of an owner's table, or of one nested in a body that the table holds. -/
inductive OwnerEdit (names : List String) : List AttributeImage → List AttributeImage → Prop
  | own {table table' : List AttributeImage} (h : TableEdit pool names table table') :
      OwnerEdit names table table'
  | inCode {front back : List AttributeImage} {a : AttributeImage} {body : Bytes}
      (hname : pool.utf8 a.name = .ok "Code") (h : CodeEdit pool a.body body) :
      OwnerEdit names (front ++ a :: back) (front ++ { a with body := body } :: back)

end Edits

/-- A record before and after an edit of one of its attribute tables. -/
inductive Outline.Edited : Outline → Outline → Prop
  | ofClass {o : Outline} {table : List AttributeImage}
      (h : OwnerEdit o.front.pool Attributes.readOnClass o.attributes table) :
      Edited o { o with attributes := table }
  | ofField {o : Outline} {front back : List MemberImage} {m : MemberImage}
      {table : List AttributeImage} (hfields : o.fields = front ++ m :: back)
      (h : OwnerEdit o.front.pool Attributes.readOnField m.attributes table) :
      Edited o { o with fields := front ++ { m with attributes := table } :: back }
  | ofMethod {o : Outline} {front back : List MemberImage} {m : MemberImage}
      {table : List AttributeImage} (hmethods : o.methods = front ++ m :: back)
      (h : OwnerEdit o.front.pool Attributes.readOnMethod m.attributes table) :
      Edited o { o with methods := front ++ { m with attributes := table } :: back }

/-! ## Lists that stand for one another -/

section Lists

variable {ι α : Type} {R : ι → α → Prop}

theorem exists_append_of_forall₂ {front back : List ι} {values : List α}
    (h : List.Forall₂ R (front ++ back) values) :
    ∃ before behind, values = before ++ behind ∧ List.Forall₂ R front before ∧
      List.Forall₂ R back behind := by
  induction front generalizing values with
  | nil => exact ⟨[], values, rfl, .nil, h⟩
  | cons i rest ih =>
      obtain ⟨v, tail, hv, htail, rfl⟩ := List.forall₂_cons_left_iff.mp h
      obtain ⟨before, behind, rfl, hbefore, hbehind⟩ := ih htail
      exact ⟨v :: before, behind, rfl, .cons hv hbefore, hbehind⟩

/-- Where one item is replaced by one that stands for something alike, the lists stand for lists of
values that are alike. -/
theorem exists_forall₂_replace {S : α → α → Prop} (hrefl : ∀ a, S a a) {front back : List ι}
    {i j : ι} {values : List α} (h : List.Forall₂ R (front ++ i :: back) values)
    (hreplace : ∀ v, R i v → ∃ w, R j w ∧ S v w) :
    ∃ values', List.Forall₂ R (front ++ j :: back) values' ∧ List.Forall₂ S values values' := by
  obtain ⟨before, behind, rfl, hbefore, hbehind⟩ := exists_append_of_forall₂ h
  obtain ⟨v, tail, hv, htail, rfl⟩ := List.forall₂_cons_left_iff.mp hbehind
  obtain ⟨w, hw, hS⟩ := hreplace v hv
  have hsame : ∀ xs : List α, List.Forall₂ S xs xs :=
    fun xs => List.forall₂_same.mpr fun a _ => hrefl a
  exact ⟨before ++ w :: tail, List.rel_append hbefore (.cons hw htail),
    List.rel_append (hsame before) (.cons hS (hsame tail))⟩

end Lists

/-! ## Edited tables are read alike -/

section Tables

variable {pool : ConstantPool} {names : List String}

theorem nodup_names {table : List AttributeImage} {named : List (String × Bytes)}
    (h : List.Forall₂ (AttributeImage.Resolves pool) table named)
    (hnodup : (table.map fun a => pool.utf8 a.name).Nodup) : (named.map Prod.fst).Nodup := by
  have hmap : (table.map fun a => pool.utf8 a.name) = (named.map Prod.fst).map .ok := by
    rw [List.map_map, ← List.forall₂_eq_eq_eq, List.forall₂_map_left_iff,
      List.forall₂_map_right_iff]
    exact h.imp fun _ _ hresolves => hresolves.name
  rw [hmap] at hnodup
  exact hnodup.of_map

/-- An edited table has names too, and each name that is read finds what it found before. -/
theorem TableEdit.exists_named {table table' : List AttributeImage} {named : List (String × Bytes)}
    (h : TableEdit pool names table table')
    (hnamed : List.Forall₂ (AttributeImage.Resolves pool) table named) :
    ∃ named', List.Forall₂ (AttributeImage.Resolves pool) table' named' ∧
      ∀ k ∈ names, (named.find? fun e => e.1 = k) = named'.find? fun e => e.1 = k := by
  cases h with
  | @unread front back a text hname hunread =>
      obtain ⟨before, behind, rfl, hbefore, hbehind⟩ := exists_append_of_forall₂ hnamed
      refine ⟨before ++ (text, a.body) :: behind,
        List.rel_append hbefore (.cons ⟨hname, rfl⟩ hbehind), ?_⟩
      intro k hk
      have hne : text ≠ k := fun heq => hunread (heq ▸ hk)
      rw [List.find?_append, List.find?_append, List.find?_cons_of_neg (by simpa using hne)]
  | @repeated front back a b hb hname =>
      obtain ⟨before, behind, rfl, hbefore, hbehind⟩ := exists_append_of_forall₂ hnamed
      obtain ⟨e, he, hresolves⟩ := exists_mem_of_forall₂ hbefore hb
      refine ⟨before ++ (e.1, a.body) :: behind,
        List.rel_append hbefore (.cons ⟨hname.trans hresolves.name, rfl⟩ hbehind), ?_⟩
      intro k _
      rw [List.find?_append, List.find?_append]
      by_cases hek : e.1 = k
      · -- the one that was there is found first
        obtain ⟨found, hfound⟩ : ∃ found, (before.find? fun e => e.1 = k) = some found := by
          rw [← Option.isSome_iff_exists, List.find?_isSome]
          exact ⟨e, he, by simpa using hek⟩
        rw [hfound, Option.some_or, Option.some_or]
      · rw [List.find?_cons_of_neg (by simpa using hek)]
  | permuted hperm hnames =>
      obtain ⟨named', hnamed', hperm'⟩ := List.perm_comp_forall₂ hperm.symm hnamed
      refine ⟨named', hnamed', ?_⟩
      intro k _
      refine Table.find?_eq_of_perm hperm'.symm fun d hd e he hdk hek => ?_
      rw [decide_eq_true_eq] at hdk hek
      exact List.inj_on_of_nodup_map (nodup_names hnamed hnames) hd he (hdk.trans hek.symm)

theorem Attributes.get?_ofList (named : List (String × Bytes)) (k : String) :
    (Attributes.ofList named).get? k = (named.find? fun e => e.1 = k).map Prod.snd :=
  Table.get?_foldl_insertIfNew_empty named k

theorem TableEdit.exists_table {images images' : List AttributeImage} {table : Attributes}
    (h : TableEdit pool names images images') (htable : TableResolves pool images table) :
    ∃ table', TableResolves pool images' table' ∧ ∀ k ∈ names, table.get? k = table'.get? k := by
  obtain ⟨named, hnamed, rfl⟩ := htable
  obtain ⟨named', hnamed', hfind⟩ := h.exists_named hnamed
  refine ⟨Attributes.ofList named', ⟨named', hnamed', rfl⟩, ?_⟩
  intro k hk
  rw [Attributes.get?_ofList, Attributes.get?_ofList, hfind k hk]

/-- Where an attribute gets another body, the other names find what they found before, and so does
its own name unless it is the first one with that name. -/
theorem TableResolves.exists_replaced {front back : List AttributeImage} {a : AttributeImage}
    {text : String} {table : Attributes} (hname : pool.utf8 a.name = .ok text) (body : Bytes)
    (h : TableResolves pool (front ++ a :: back) table) :
    ∃ table', TableResolves pool (front ++ { a with body := body } :: back) table' ∧
      (∀ k, k ≠ text → table.get? k = table'.get? k) ∧
      (table.get? text = table'.get? text ∨
        table.get? text = some a.body ∧ table'.get? text = some body) := by
  obtain ⟨named, hnamed, rfl⟩ := h
  obtain ⟨before, behind, rfl, hbefore, hbehind⟩ := exists_append_of_forall₂ hnamed
  obtain ⟨⟨text', raw⟩, tail, hentry, htail, rfl⟩ := List.forall₂_cons_left_iff.mp hbehind
  obtain rfl : text' = text := Except.ok.inj (hentry.name.symm.trans hname)
  obtain rfl : raw = a.body := hentry.body
  refine ⟨Attributes.ofList (before ++ (text', body) :: tail),
    ⟨_, List.rel_append hbefore (.cons ⟨hname, rfl⟩ htail), rfl⟩, ?_, ?_⟩
  · intro k hk
    rw [Attributes.get?_ofList, Attributes.get?_ofList, List.find?_append, List.find?_append,
      List.find?_cons_of_neg (by simpa using Ne.symm hk),
      List.find?_cons_of_neg (by simpa using Ne.symm hk)]
  · simp only [Attributes.get?_ofList, List.find?_append]
    cases hfind : before.find? fun e => e.1 = text' with
    | some found => exact .inl rfl
    | none => exact .inr (by simp)

/-! ## Method bodies -/

theorem Code.linesOf_congr {table table' : Attributes}
    (h : table.get? "LineNumberTable" = table'.get? "LineNumberTable") :
    Code.linesOf table = Code.linesOf table' := by
  rw [Code.linesOf, Code.linesOf, h]

theorem Code.localsOf_congr {table table' : Attributes}
    (h : table.get? "LocalVariableTable" = table'.get? "LocalVariableTable") :
    Code.localsOf table pool = Code.localsOf table' pool := by
  rw [Code.localsOf, Code.localsOf, h]

/-- An edited body has the same calls, lines and variables. -/
theorem CodeEdit.ofBody_eq_ok {body body' : Bytes} {code : Code} (h : CodeEdit pool body body')
    (hcode : Code.ofBody body pool = .ok code) : Code.ofBody body' pool = .ok code := by
  cases h with
  | @nested image nested hrange hedit hrange' =>
      obtain ⟨⟨instructions, table⟩, hrun, -⟩ := Noted.exists_of_bind_eq_ok hcode
      obtain ⟨other, hother, hresolves, hlayout⟩ := Code.exists_image hrun
      obtain rfl := CodeImage.eq_of_layout_eq hrange hother hlayout
      obtain ⟨table', hresolves', hget⟩ := hedit.exists_table hresolves
      have hedited : { image with nested := nested }.InRange := { hrange with nested := hrange' }
      rw [← hcode, Code.ofBody, Code.ofBody, Code.runOn_bodyDecoder hrange hresolves,
        Code.runOn_bodyDecoder hedited hresolves']
      show (scanInstructions image.code pool >>= fun _ => _) =
        (scanInstructions image.code pool >>= fun _ => _)
      rw [Code.linesOf_congr (hget _ (by decide)), Code.localsOf_congr (hget _ (by decide))]

/-- An owner reads under the given names from the second table what it reads from the first one. Of
a method body it reads what is decoded from it. -/
structure Attributes.ReadAlike (pool : ConstantPool) (names : List String)
    (table table' : Attributes) : Prop where
  get : ∀ k ∈ names, k ≠ "Code" → table.get? k = table'.get? k
  code : "Code" ∈ names → ∀ code, Code.decode table pool = .ok code →
    Code.decode table' pool = .ok code

theorem Attributes.ReadAlike.refl (table : Attributes) : ReadAlike pool names table table :=
  ⟨fun _ _ _ => rfl, fun _ _ h => h⟩

theorem OwnerEdit.exists_table {images images' : List AttributeImage} {table : Attributes}
    (h : OwnerEdit pool names images images') (htable : TableResolves pool images table) :
    ∃ table', TableResolves pool images' table' ∧
      Attributes.ReadAlike pool names table table' := by
  cases h with
  | own h =>
      obtain ⟨table', htable', hget⟩ := h.exists_table htable
      refine ⟨table', htable', fun k hk _ => hget k hk, fun hmem code hcode => ?_⟩
      rwa [Code.decode, ← hget "Code" hmem]
  | @inCode front back a body hname h =>
      obtain ⟨table', htable', hother, hcode⟩ := htable.exists_replaced hname body
      refine ⟨table', htable', fun k _ hk => hother k hk, ?_⟩
      intro _ code hdecode
      rcases hcode with hsame | ⟨hbefore, hbehind⟩
      · rwa [Code.decode, ← hsame]
      · -- the edited body is the one that counts
        obtain ⟨decoded, hdecoded, rfl⟩ := (Code.decode_eq_ok_iff hbefore).mp hdecode
        exact (Code.decode_eq_ok_iff hbehind).mpr ⟨decoded, h.ofBody_eq_ok hdecoded, rfl⟩

end Tables

end ClassFile

open ClassAtlas.ClassFile

/-! ## Alike owners are interpreted alike -/

section Owners

variable {pool : ConstantPool} {table table' : Attributes}

theorem decode_annotations_congr (h : ∀ k ∈ Attributes.readOnField, table.get? k = table'.get? k) :
    Annotations.decode table pool = Annotations.decode table' pool := by
  have hone : ∀ k ∈ Attributes.readOnField,
      Annotations.ofAttribute table pool k = Annotations.ofAttribute table' pool k := by
    intro k hk
    rw [Annotations.ofAttribute, Annotations.ofAttribute, h k hk]
  rw [Annotations.decode, Annotations.decode, hone _ (by decide), hone _ (by decide)]

/-- The two stand for members that differ in attributes which are not read. -/
structure Member.Alike (pool : ConstantPool) (names : List String) (a b : Member) : Prop where
  access : a.access = b.access
  name : a.name = b.name
  descriptor : a.descriptor = b.descriptor
  attributes : Attributes.ReadAlike pool names a.attributes b.attributes

theorem Member.Alike.refl {names : List String} (m : Member) : Member.Alike pool names m m :=
  ⟨rfl, rfl, rfl, .refl _⟩

theorem FieldInfo.ofMember_eq_ok_of_alike {a b : Member} {f : FieldInfo}
    (h : Member.Alike pool Attributes.readOnField a b) (hf : FieldInfo.ofMember a pool = .ok f) :
    FieldInfo.ofMember b pool = .ok f := by
  have hannotations : Annotations.decode a.attributes pool = Annotations.decode b.attributes pool :=
    decode_annotations_congr fun k hk =>
      h.attributes.get k hk (by rintro rfl; exact absurd hk (by decide))
  rw [← hf, FieldInfo.ofMember, FieldInfo.ofMember, hannotations, h.access, h.name, h.descriptor]

/-- The two bodies make the same calls on the same lines and have the same variables. -/
structure BodiesAgree (code code' : Option Code) : Prop where
  calls : callsOf code' = callsOf code
  locals : code'.map (·.locals) = code.map (·.locals)

/-- Of a method's body the calls and the variables count, of its other attributes what is looked up
by name. -/
theorem MethodInfo.ofMember_eq_ok_of_reads {a b : Member} {m : MethodInfo}
    (haccess : a.access = b.access) (hname : a.name = b.name)
    (hdescriptor : a.descriptor = b.descriptor)
    (hget : ∀ k ∈ Attributes.readOnMethod, k ≠ "Code" →
      a.attributes.get? k = b.attributes.get? k)
    (hbody : ∀ code, Code.decode a.attributes pool = .ok code →
      ∃ code', Code.decode b.attributes pool = .ok code' ∧ BodiesAgree code code')
    (hm : MethodInfo.ofMember a pool = .ok m) : MethodInfo.ofMember b pool = .ok m := by
  obtain ⟨types, returnType, code, declared, annotations, exceptions, htypes, hcode, hdeclared,
    hdecode, hexceptions, rfl⟩ := MethodInfo.ofMember_eq_ok_iff.mp hm
  obtain ⟨code', hcode', hagree⟩ := hbody code hcode
  refine MethodInfo.ofMember_eq_ok_iff.mpr ⟨types, returnType, code', declared, annotations,
    exceptions, ?_, hcode', ?_, ?_, ?_, ?_⟩
  · rw [← hdescriptor, htypes]
  · rw [← hdeclared, declaredNames, declaredNames, hget "MethodParameters" (by decide) (by decide)]
  · rw [← hdecode]
    refine (decode_annotations_congr fun k hk => hget k ?_ ?_).symm
    · exact List.mem_cons_of_mem _ (List.mem_cons_of_mem _ (List.mem_cons_of_mem _ hk))
    · rintro rfl
      exact absurd hk (by decide)
  · rw [← hexceptions, declaredExceptions, declaredExceptions,
      hget "Exceptions" (by decide) (by decide)]
  · simp only [MethodInfo.ofParts, MethodInfo.namesOf, haccess, hname, hdescriptor, hagree.calls,
      hagree.locals]

theorem MethodInfo.ofMember_eq_ok_of_alike {a b : Member} {m : MethodInfo}
    (h : Member.Alike pool Attributes.readOnMethod a b) (hm : MethodInfo.ofMember a pool = .ok m) :
    MethodInfo.ofMember b pool = .ok m :=
  MethodInfo.ofMember_eq_ok_of_reads h.access h.name h.descriptor h.attributes.get
    (fun code hcode => ⟨code, h.attributes.code (by decide) code hcode, rfl, rfl⟩) hm

end Owners

/-! ## Alike structures -/

/-- Two structures that differ in attributes which are not read. -/
structure ClassStructure.Alike (raw raw' : ClassStructure) : Prop where
  front : raw' =
    { raw with fields := raw'.fields, methods := raw'.methods, attributes := raw'.attributes }
  fields : List.Forall₂ (Member.Alike raw.pool Attributes.readOnField) raw.fields raw'.fields
  methods : List.Forall₂ (Member.Alike raw.pool Attributes.readOnMethod) raw.methods raw'.methods
  attributes :
    Attributes.ReadAlike raw.pool Attributes.readOnClass raw.attributes raw'.attributes

/-- What stands for each first item stands for the second one. -/
theorem forall₂_of_alike {α β : Type} {S : α → α → Prop} {R : α → β → Prop} {xs ys : List α}
    {values : List β} (h : List.Forall₂ S xs ys) (hR : List.Forall₂ R xs values)
    (hstep : ∀ x y v, S x y → R x v → R y v) : List.Forall₂ R ys values := by
  induction h generalizing values with
  | nil => exact hR
  | cons hxy _ ih =>
      obtain ⟨v, rest, hv, hrest, rfl⟩ := List.forall₂_cons_left_iff.mp hR
      exact .cons (hstep _ _ v hxy hv) (ih hrest)

section Structures

variable {raw raw' : ClassStructure} (h : ClassStructure.Alike raw raw')

include h

theorem ClassStructure.Alike.get (k : String) (hk : k ∈ Attributes.readOnClass) :
    raw.attributes.get? k = raw'.attributes.get? k :=
  h.attributes.get k hk (by rintro rfl; exact absurd hk (by decide))

/-- A method and the one it is edited to are both left out or both kept. -/
theorem ClassStructure.Alike.keptMethods (includePrivate : Bool) :
    List.Forall₂ (Member.Alike raw.pool Attributes.readOnMethod)
      (keptMethods raw includePrivate) (keptMethods raw' includePrivate) := by
  refine List.rel_filter (fun a b halike => ?_) h.methods
  simp only [halike.access]

theorem ClassKind.ofStructure_congr : ClassKind.ofStructure raw = ClassKind.ofStructure raw' := by
  have hrecord : raw.attributes.contains "Record" = raw'.attributes.contains "Record" := by
    rw [Table.contains, Table.contains, h.get "Record" (by decide)]
  rw [ClassKind.ofStructure, ClassKind.ofStructure, hrecord, h.front]

theorem ClassInfo.ofStructure_eq_ok_of_alike {includePrivate : Bool} {info : ClassInfo}
    (hinfo : ClassInfo.ofStructure raw includePrivate = .ok info) :
    ClassInfo.ofStructure raw' includePrivate = .ok info := by
  obtain ⟨methods, fields, annotations, sourceFile, hmethods, hfields, hdecode, hsource, rfl⟩ :=
    ClassInfo.ofStructure_eq_ok_iff.mp hinfo
  have hpool : raw'.pool = raw.pool := by rw [h.front]
  refine ClassInfo.ofStructure_eq_ok_iff.mpr ⟨methods, fields, annotations, sourceFile, ?_, ?_, ?_,
    ?_, ?_⟩
  · rw [hpool]
    exact forall₂_of_alike (h.keptMethods includePrivate) hmethods fun _ _ _ =>
      MethodInfo.ofMember_eq_ok_of_alike
  · rw [hpool]
    exact forall₂_of_alike h.fields hfields fun _ _ _ => FieldInfo.ofMember_eq_ok_of_alike
  · rw [hpool, ← hdecode]
    refine (decode_annotations_congr fun k hk => h.get k ?_).symm
    exact List.mem_cons_of_mem _ (List.mem_cons_of_mem _ hk)
  · rw [hpool, ← hsource, sourceFileOf, sourceFileOf, h.get "SourceFile" (by decide)]
  · rw [ClassInfo.ofParts, ClassInfo.ofParts, ClassKind.ofStructure_congr h, h.front]

end Structures

/-! ## Edited records -/

namespace ClassFile

/-- An edited member stands for one that is alike. -/
theorem MemberImage.exists_alike {pool : ConstantPool} {names : List String} {m : MemberImage}
    {table : List AttributeImage} (h : OwnerEdit pool names m.attributes table) (member : Member)
    (hm : m.Resolves pool member) :
    ∃ member', MemberImage.Resolves pool { m with attributes := table } member' ∧
      Member.Alike pool names member member' := by
  obtain ⟨table', htable', halike⟩ := h.exists_table hm.attributes
  exact ⟨{ member with attributes := table' }, ⟨hm.access, hm.name, hm.descriptor, htable'⟩,
    rfl, rfl, rfl, halike⟩

theorem Outline.Edited.exists_alike {o o' : Outline} {raw : ClassStructure} (h : o.Edited o')
    (hraw : o.Resolves raw) : ∃ raw', o'.Resolves raw' ∧ ClassStructure.Alike raw raw' := by
  have hpool : raw.pool = o.front.pool := by rw [hraw.front]; rfl
  have hsame : ∀ (names : List String) (members : List Member),
      List.Forall₂ (Member.Alike raw.pool names) members members :=
    fun names members => List.forall₂_same.mpr fun m _ => .refl m
  have hfront := hraw.front
  cases h with
  | ofClass h =>
      obtain ⟨table, htable, halike⟩ := h.exists_table hraw.attributes
      refine ⟨{ raw with attributes := table }, ⟨?_, hraw.fields, hraw.methods, htable⟩,
        rfl, hsame _ _, hsame _ _, hpool ▸ halike⟩
      rw [hfront]
      rfl
  | ofField hfields h =>
      have hraw' := hraw.fields
      rw [hfields] at hraw'
      obtain ⟨fields, hresolves, halike⟩ := exists_forall₂_replace
        (S := Member.Alike o.front.pool Attributes.readOnField) .refl hraw'
        (MemberImage.exists_alike h)
      refine ⟨{ raw with fields := fields }, ⟨?_, hresolves, hraw.methods, hraw.attributes⟩,
        rfl, hpool ▸ halike, hsame _ _, .refl _⟩
      rw [hfront]
      rfl
  | ofMethod hmethods h =>
      have hraw' := hraw.methods
      rw [hmethods] at hraw'
      obtain ⟨methods, hresolves, halike⟩ := exists_forall₂_replace
        (S := Member.Alike o.front.pool Attributes.readOnMethod) .refl hraw'
        (MemberImage.exists_alike h)
      refine ⟨{ raw with methods := methods }, ⟨?_, hraw.fields, hresolves, hraw.attributes⟩,
        rfl, hsame _ _, hpool ▸ halike, .refl _⟩
      rw [hfront]
      rfl

theorem Outline.Edited.take_headerLength_layout {o o' : Outline} (h : o.Edited o') :
    o'.layout.take headerLength = o.layout.take headerLength := by
  rw [Outline.take_headerLength_layout, Outline.take_headerLength_layout]
  cases h <;> rfl

end ClassFile

/-- The body of a method whose metadata are extracted is the layout of an image. -/
theorem exists_codeImage {raw : ClassStructure} {includePrivate : Bool} {info : ClassInfo}
    (h : ClassInfo.ofStructure raw includePrivate = .ok info) {m : Member}
    (hm : m ∈ keptMethods raw includePrivate) {body : Bytes}
    (hbody : m.attributes.get? "Code" = some body) :
    ∃ image : CodeImage, image.InRange ∧ image.layout = body := by
  obtain ⟨methods, fields, annotations, sourceFile, hmethods, -⟩ :=
    ClassInfo.ofStructure_eq_ok_iff.mp h
  obtain ⟨_, -, hmember⟩ := exists_mem_of_forall₂ hmethods hm
  obtain ⟨types, returnType, code, declared, annotations, exceptions, -, hcode, -⟩ :=
    MethodInfo.ofMember_eq_ok_iff.mp hmember
  obtain ⟨_, hofBody, -⟩ := (Code.decode_eq_ok_iff hbody).mp hcode
  obtain ⟨parts, hparts, -⟩ := Noted.exists_of_bind_eq_ok hofBody
  obtain ⟨image, hrange, -, himage⟩ := Code.exists_image hparts
  exact ⟨image, hrange, himage.symm⟩

/-- **Attributes that nothing reads make no difference.** A record that yields metadata is the
layout of one outline, and each method body that is read is the layout of an image. In whatever way
a table of the record is edited, if the result can be laid out, it yields the same metadata. -/
theorem extractClass_of_edited {data : Bytes} {includePrivate : Bool} {info : ClassInfo}
    (h : extractClass data includePrivate = .ok info) :
    (∃! o : Outline, o.InRange ∧ o.layout = data) ∧
    (∃ raw, ClassStructure.parse data = .ok raw ∧ ∀ m ∈ keptMethods raw includePrivate,
      ∀ body, m.attributes.get? "Code" = some body →
        ∃ image : CodeImage, image.InRange ∧ image.layout = body) ∧
    ∀ o o' : Outline, o.InRange → o.layout = data → o.Edited o' → o'.InRange →
      extractClass o'.layout includePrivate = .ok info := by
  obtain ⟨hvalid, raw, hparse, hmodule, hinfo⟩ := extractClass_eq_ok_iff_structure.mp h
  refine ⟨?_, ⟨raw, hparse, fun m hm body => exists_codeImage hinfo hm⟩, ?_⟩
  · have hlen : 8 ≤ data.length := by
      by_contra hshort
      rw [validate_of_short (Nat.lt_of_not_le hshort)] at hvalid
      cases hvalid
    obtain ⟨o, hrange, -, rfl⟩ := Outline.exists_of_parse (by omega) hparse
    exact ⟨o, ⟨hrange, rfl⟩, fun other hother =>
      Outline.eq_of_layout_eq hother.1 hrange hother.2⟩
  · rintro o o' hrange rfl hedit hrange'
    have hraw := Outline.resolves_of_parse hrange hparse
    obtain ⟨raw', hraw', halike⟩ := hedit.exists_alike hraw
    refine extractClass_eq_ok_iff_structure.mpr ⟨?_, raw', ?_, ?_, ?_⟩
    · rw [← hvalid]
      exact validate_congr hedit.take_headerLength_layout
    · exact Outline.parse_of_resolves hrange' hraw'
    · rw [halike.front]
      exact hmodule
    · exact ClassInfo.ofStructure_eq_ok_of_alike halike hinfo

/-! ## A sample -/

def callingFront : Front where
  minor := 0
  major := 61
  pool := ⟨#[none, some (.utf8 "p/A"), some (.classRef 1), some (.utf8 "m"), some (.utf8 "(I)V"),
    some (.utf8 "Code"), some (.utf8 "I"), some (.nameAndType 3 4), some (.methodRef 2 7)]⟩
  access := 0x421
  name := "p.A"
  superclass := none
  interfaces := []

def callingBody : CodeImage where
  stack := 0
  locals := 1
  code := [0xB8, 0, 8, 0xB1]
  handlerCount := 0
  handlers := []
  nested := []
  behind := []

/-- The outline of `callingRecord`. -/
def callingOutline : Outline where
  opening := callingRecord.take 4
  head := (callingRecord.drop 4).take 55
  front := callingFront
  fields := [⟨0x18, 3, 6, []⟩]
  methods := [⟨9, 3, 4, [⟨5, callingBody.layout⟩]⟩]
  attributes := []
  trailing := []
  length_opening := rfl
  consumes_head := Front.local_decoder.consumes_of_run_before (by rfl)

/-- The body with an attribute nested in it. -/
def remarkedBody : CodeImage := { callingBody with nested := [⟨3, [1, 2, 3]⟩] }

def remarkedOutline : Outline :=
  { callingOutline with methods := [⟨9, 3, 4, [⟨5, remarkedBody.layout⟩]⟩] }

theorem edited_remarkedOutline : callingOutline.Edited remarkedOutline := by
  have hnested : TableEdit callingFront.pool Attributes.readInCode ([] ++ [])
      ([] ++ ⟨3, [1, 2, 3]⟩ :: []) := .unread rfl (by decide)
  have hcode : CodeEdit callingFront.pool callingBody.layout remarkedBody.layout :=
    .nested (by decide) hnested (by decide)
  have howner : OwnerEdit callingFront.pool Attributes.readOnMethod
      ([] ++ ⟨5, callingBody.layout⟩ :: []) ([] ++ ⟨5, remarkedBody.layout⟩ :: []) :=
    .inCode rfl hcode
  have hmethods : callingOutline.methods = [] ++ ⟨9, 3, 4, [⟨5, callingBody.layout⟩]⟩ :: [] := rfl
  exact .ofMethod hmethods howner

theorem extractClass_of_edited_sample :
    ∃ info, extractClass callingRecord = .ok info ∧ callingOutline.InRange ∧
      callingOutline.layout = callingRecord ∧ callingOutline.Edited remarkedOutline ∧
      remarkedOutline.InRange ∧ remarkedOutline.layout.length = callingRecord.length + 9 ∧
      extractClass remarkedOutline.layout = .ok info := by
  have hsome : (extractClass callingRecord).toOption.isSome = true := by decide +kernel
  have hrange : callingOutline.InRange := by decide
  have hrange' : remarkedOutline.InRange := by decide
  have hlayout : callingOutline.layout = callingRecord := by decide
  cases h : extractClass callingRecord with
  | error fault =>
      rw [h] at hsome
      cases hsome
  | ok info =>
      obtain ⟨-, -, hedited⟩ := extractClass_of_edited h
      exact ⟨info, rfl, hrange, hlayout, edited_remarkedOutline, hrange', by decide,
        hedited _ _ hrange hlayout edited_remarkedOutline hrange'⟩

end ClassAtlas
