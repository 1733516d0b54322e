import ClassAtlas.Proofs.Component.Agreement
import ClassAtlas.Proofs.Graph.Dependency

/-!
# Wiring and dependencies

Components are wired through the types of final instance fields, and every field
makes its class depend on its type. The two are found in different ways. For wires
the last class of a name stands for the name, and its fields are looked through in
order; for dependencies all classes of a name count, but none whose name is
excluded. Both bring names of types into one form by the same rule.

Main statement: `wiring_follows_fields`.
-/

namespace ClassAtlas.RoleCatalog

open ClassAtlas.Graph

variable {catalog : RoleCatalog} {classes : List ClassInfo} {c : ClassInfo} {name target : String}

/-! ## Classes with a role -/

/-- The name of a class that has a role. -/
def HasRole (catalog : RoleCatalog) (classes : List ClassInfo) (name : String) : Prop :=
  ∃ c ∈ classes, c.name = name ∧ catalog.classify c ≠ .other

theorem HasRole.mem_components (h : catalog.HasRole classes name) :
    name ∈ (catalog.components classes).map Component.name := by
  obtain ⟨c, hc, rfl, hrole⟩ := h
  exact List.mem_map.mpr ⟨catalog.component c (catalog.classify c),
    List.mem_filterMap.mpr ⟨c, hc, if_neg hrole⟩, rfl⟩

theorem of_mem_roleClasses (h : (name, c) ∈ (catalog.roleClasses classes).entries) :
    c ∈ classes ∧ c.name = name ∧ catalog.classify c ≠ .other := by
  obtain ⟨c', hc', hentry⟩ := List.mem_map.mp (Table.mem_of_get?_ofList (Table.get?_of_mem h))
  obtain ⟨rfl, rfl⟩ := Prod.mk.inj hentry
  obtain ⟨hmem, hrole⟩ := List.mem_filter.mp hc'
  exact ⟨hmem, rfl, of_decide_eq_true hrole⟩

theorem contains_roleClasses_iff :
    (catalog.roleClasses classes).contains name = true ↔ catalog.HasRole classes name := by
  rw [Table.contains, roleClasses, (Table.settles_ofList _).value, Option.isSome_map,
    List.find?_isSome]
  constructor
  · rintro ⟨e, he, hname⟩
    obtain ⟨c, hc, rfl⟩ := List.mem_map.mp (List.mem_reverse.mp he)
    obtain ⟨hmem, hrole⟩ := List.mem_filter.mp hc
    exact ⟨c, hmem, of_decide_eq_true hname, of_decide_eq_true hrole⟩
  · rintro ⟨c, hmem, hname, hrole⟩
    refine ⟨(c.name, c), List.mem_reverse.mpr (List.mem_map_of_mem ?_), decide_eq_true hname⟩
    exact List.mem_filter.mpr ⟨hmem, decide_eq_true hrole⟩

/-- Classes with different names all stand for their names. -/
theorem roleClasses_entries (catalog : RoleCatalog) (hnodup : (classes.map ClassInfo.name).Nodup) :
    (catalog.roleClasses classes).entries =
      (classes.filter fun c => catalog.classify c ≠ .other).map fun c => (c.name, c) := by
  refine Table.entries_ofList ?_
  rw [List.map_map]
  exact (List.filter_sublist.map ClassInfo.name).nodup hnodup

/-! ## Wires of a class -/

/-- The class has a final instance field of a type that goes by the name. -/
def Injects (c : ClassInfo) (target : String) : Prop :=
  ∃ f ∈ c.fields, f.isFinal = true ∧ f.isStatic = false ∧ normalizeType f.type = target

/-- Where the wires of a class lead, each place once. -/
def wiresOf (catalog : RoleCatalog) (classes : List ClassInfo) (c : ClassInfo) : List String :=
  distinct (((injectedTypes c).map normalizeType).filter (catalog.roleClasses classes).contains)

theorem mem_wiresOf_iff :
    target ∈ catalog.wiresOf classes c ↔ Injects c target ∧ catalog.HasRole classes target := by
  rw [wiresOf, mem_distinct, List.mem_filter, contains_roleClasses_iff]
  refine and_congr_left fun _ => ?_
  simp only [injectedTypes, Injects, List.mem_map, List.mem_filter, Bool.and_eq_true,
    Bool.not_eq_true']
  constructor
  · rintro ⟨_, ⟨f, ⟨hf, hfinal, hinstance⟩, rfl⟩, htarget⟩
    exact ⟨f, hf, hfinal, hinstance, htarget⟩
  · rintro ⟨f, hf, hfinal, hinstance, htarget⟩
    exact ⟨f.type, ⟨f, ⟨hf, hfinal, hinstance⟩, rfl⟩, htarget⟩

/-- Every class that stands for its name is listed with its wires, if it has any. -/
theorem wiring_eq (catalog : RoleCatalog) (classes : List ClassInfo) :
    catalog.wiring classes =
      ((catalog.roleClasses classes).entries.map fun e => (e.1, catalog.wiresOf classes e.2)).filter
        fun e => e.2 ≠ [] := by
  rw [← List.filterMap_eq_filter, List.filterMap_map, wiring]
  refine List.filterMap_congr ?_
  rintro ⟨name, c⟩ -
  simp only [Function.comp, Option.guard, decide_eq_true_eq]
  split
  · rename_i hnil
    exact (if_neg (not_not.mpr hnil)).symm
  · rename_i hne
    exact (if_pos hne).symm

theorem mem_wiring_iff {e : String × List String} : e ∈ catalog.wiring classes ↔
    ∃ c, (e.1, c) ∈ (catalog.roleClasses classes).entries ∧ catalog.wiresOf classes c = e.2 ∧
      e.2 ≠ [] := by
  rw [wiring_eq, List.mem_filter, List.mem_map, decide_eq_true_eq]
  constructor
  · rintro ⟨⟨entry, hentry, rfl⟩, hne⟩
    exact ⟨entry.2, hentry, rfl, hne⟩
  · rintro ⟨c, hentry, hwires, hne⟩
    exact ⟨⟨(e.1, c), hentry, Prod.ext rfl hwires⟩, hne⟩

theorem nodup_map_fst_wiring (catalog : RoleCatalog) (classes : List ClassInfo) :
    ((catalog.wiring classes).map Prod.fst).Nodup := by
  rw [wiring_eq]
  refine (List.filter_sublist.map Prod.fst).nodup ?_
  rw [List.map_map]
  exact (catalog.roleClasses classes).nodup

/-- Wires run from components to components. -/
theorem ends_of_mem_wiring {e : String × List String} (h : e ∈ catalog.wiring classes) :
    e.1 ∈ (catalog.components classes).map Component.name ∧
      ∀ target ∈ e.2, target ∈ (catalog.components classes).map Component.name := by
  obtain ⟨c, hentry, hwires, -⟩ := mem_wiring_iff.mp h
  obtain ⟨hmem, hname, hrole⟩ := of_mem_roleClasses hentry
  refine ⟨HasRole.mem_components ⟨c, hmem, hname, hrole⟩, fun target htarget => ?_⟩
  rw [← hwires] at htarget
  exact (mem_wiresOf_iff.mp htarget).2.mem_components

/-! ## Fields as dependencies -/

/-- A final instance field is a dependency, if neither of the names is excluded. -/
theorem mem_edges_of_injects {beginnings : List String} (hc : c ∈ classes) (h : Injects c target)
    (htarget : catalog.HasRole classes target) (hsource : Avoids beginnings c.name)
    (havoids : Avoids beginnings target) :
    ⟨c.name, target, .field⟩ ∈ (DependencyGraph.build beginnings classes).edges := by
  obtain ⟨f, hf, -, -, htype⟩ := h
  obtain ⟨c', hc', hname', -⟩ := htarget
  refine DependencyGraph.mem_edges_iff.mpr ⟨⟨?_, ?_⟩, c, hc, rfl, f.type, ?_, htype⟩
  · exact DependencyGraph.mem_nodes_iff.mpr ⟨⟨c, hc, rfl⟩, hsource⟩
  · exact DependencyGraph.mem_nodes_iff.mpr ⟨⟨c', hc', hname'⟩, havoids⟩
  · exact DependencyGraph.mem_references_iff.mpr (.field hf)

/-- Among classes with different names every final instance field whose type has a role is a
wire. -/
theorem exists_wire_of_injects (hnodup : (classes.map ClassInfo.name).Nodup) (hc : c ∈ classes)
    (hrole : catalog.classify c ≠ .other) (h : Injects c target)
    (htarget : catalog.HasRole classes target) :
    ∃ wires, (c.name, wires) ∈ catalog.wiring classes ∧ target ∈ wires := by
  have hwire : target ∈ catalog.wiresOf classes c := mem_wiresOf_iff.mpr ⟨h, htarget⟩
  refine ⟨catalog.wiresOf classes c, mem_wiring_iff.mpr ⟨c, ?_, rfl, List.ne_nil_of_mem hwire⟩, hwire⟩
  rw [catalog.roleClasses_entries hnodup]
  exact List.mem_map_of_mem (List.mem_filter.mpr ⟨hc, decide_eq_true hrole⟩)

/-- **Wires follow fields.** No component is listed twice. A component that is listed is a class
with a role, and so is every component it is wired to; these are one or more, each once, and where
neither name is excluded the dependency graph has the wire as a dependency through a field. Where
no two classes share a name, a dependency that a final instance field of a class with a role has on
a class with a role is a wire. -/
theorem wiring_follows_fields (catalog : RoleCatalog) (classes : List ClassInfo)
    (beginnings : List String) :
    ((catalog.wiring classes).map Prod.fst).Nodup ∧
    (∀ e ∈ catalog.wiring classes,
      catalog.HasRole classes e.1 ∧ e.2 ≠ [] ∧ e.2.Nodup ∧
        ∀ target ∈ e.2, catalog.HasRole classes target ∧
          (Avoids beginnings e.1 → Avoids beginnings target →
            ⟨e.1, target, .field⟩ ∈ (DependencyGraph.build beginnings classes).edges)) ∧
    ((classes.map ClassInfo.name).Nodup →
      ∀ c ∈ classes, catalog.classify c ≠ .other → ∀ target, Injects c target →
        ⟨c.name, target, .field⟩ ∈ (DependencyGraph.build beginnings classes).edges →
        catalog.HasRole classes target →
        ∃ wires, (c.name, wires) ∈ catalog.wiring classes ∧ target ∈ wires) := by
  refine ⟨nodup_map_fst_wiring catalog classes, fun e he => ?_,
    fun hnodup c hc hrole target hinjects _ htarget =>
      exists_wire_of_injects hnodup hc hrole hinjects htarget⟩
  obtain ⟨c, hentry, hwires, hne⟩ := mem_wiring_iff.mp he
  obtain ⟨hmem, hname, hrole⟩ := of_mem_roleClasses hentry
  refine ⟨⟨c, hmem, hname, hrole⟩, hne, ?_, fun target htarget => ?_⟩
  · rw [← hwires]
    exact nodup_distinct _
  · rw [← hwires] at htarget
    obtain ⟨hinjects, hhas⟩ := mem_wiresOf_iff.mp htarget
    refine ⟨hhas, fun hsource havoids => ?_⟩
    rw [← hname] at hsource ⊢
    exact mem_edges_of_injects hmem hinjects hhas hsource havoids

/-! ## A sample -/

def sampleField (type : String) (isStatic : Bool) : FieldInfo where
  name := "field"
  type := type
  modifiers := ["final"]
  annotations := []
  isStatic := isStatic
  isFinal := true
  isVolatile := false
  isTransient := false

/-- A class that is a service by an annotation of its own. -/
def sampleService (name : String) (fields : List FieldInfo) : ClassInfo where
  name := name
  simpleName := name
  packageName := ""
  kind := .ordinary
  superclass := none
  interfaces := []
  annotations := ["Service"]
  modifiers := []
  fields := fields
  methods := []
  isAbstract := false
  sourceFile := none
  major := 61
  minor := 0
  annotationValues := ∅

def sampleCatalog : RoleCatalog := RoleCatalog.default.assign .service "Service"

/-- Two services, of which one holds several of the other, and itself where it does not count. -/
def sampleOffice : List ClassInfo :=
  [sampleService "Desk" [sampleField "Desk" true, sampleField "Clerk[]" false],
    sampleService "Clerk" []]

theorem classify_sampleService (name : String) (fields : List FieldInfo) :
    sampleCatalog.classify (sampleService name fields) = .service := by
  simp [classify, sampleService, sampleCatalog, roleOf?_assign, Role.stronger, Role.priority]

theorem wiring_follows_fields_sample :
    (sampleOffice.map ClassInfo.name).Nodup ∧
      ⟨"Desk", "Clerk", .field⟩ ∈ (DependencyGraph.build ["java."] sampleOffice).edges ∧
      ∃ wires, ("Desk", wires) ∈ sampleCatalog.wiring sampleOffice ∧ "Clerk" ∈ wires ∧
        wires.Nodup := by
  have hnodup : (sampleOffice.map ClassInfo.name).Nodup := by decide
  have hdesk : sampleService "Desk" [sampleField "Desk" true, sampleField "Clerk[]" false] ∈
      sampleOffice := List.mem_cons_self
  have hrole : ∀ name fields, sampleCatalog.classify (sampleService name fields) ≠ .other := by
    simp [classify_sampleService]
  have hinjects : Injects (sampleService "Desk" [sampleField "Desk" true, sampleField "Clerk[]" false])
      "Clerk" :=
    ⟨sampleField "Clerk[]" false, by simp [sampleService], rfl, rfl, by decide⟩
  have hclerk : sampleCatalog.HasRole sampleOffice "Clerk" :=
    ⟨sampleService "Clerk" [], by simp [sampleOffice], rfl, hrole _ _⟩
  have hedge : ⟨"Desk", "Clerk", .field⟩ ∈ (DependencyGraph.build ["java."] sampleOffice).edges :=
    mem_edges_of_injects hdesk hinjects hclerk (by decide) (by decide)
  obtain ⟨-, hlisted, hfields⟩ := wiring_follows_fields sampleCatalog sampleOffice ["java."]
  obtain ⟨wires, hwires, htarget⟩ :=
    hfields hnodup _ hdesk (hrole _ _) "Clerk" hinjects hedge hclerk
  exact ⟨hnodup, hedge, wires, hwires, htarget, (hlisted _ hwires).2.2.1⟩

end ClassAtlas.RoleCatalog
