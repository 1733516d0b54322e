import ClassAtlas.Component.Detect
import ClassAtlas.Endpoint.Detect
import ClassAtlas.Proofs.Endpoint.Agreement
import ClassAtlas.Proofs.Graph.References
import ClassAtlas.Proofs.Order.Table

/-!
# What components and endpoints refer to

Beans are looked for in classes with the role of a configuration, while
configurations are told by a set of annotations. The two agree because a catalog
keeps the set in step with the roles: `RoleCatalog.InStep` holds of the usual
catalog and stays when annotations are added.
-/

namespace ClassAtlas

namespace RoleCatalog

variable {catalog : RoleCatalog} {classes : List ClassInfo}

/-! ## Roles and the set of configuration annotations -/

/-- Annotations with the role of a configuration are in the set of those. -/
def InStep (catalog : RoleCatalog) : Prop :=
  ∀ name, catalog.roleOf? name = some .configuration → name ∈ catalog.configuration

theorem inStep_default : RoleCatalog.default.InStep := by
  intro name hname
  have hpair := Table.mem_of_get?_ofList hname
  simp only [List.mem_append, List.mem_map] at hpair
  rcases hpair with (hpair | ⟨_, -, hpair⟩) | hpair
  · simp at hpair
  · cases hpair
  · have hconfiguration := (Prod.mk.inj (List.mem_singleton.mp hpair)).1
    rw [hconfiguration]
    exact List.mem_singleton_self _

theorem InStep.assign (h : catalog.InStep) (role : Role) (name : String) :
    (catalog.assign role name).InStep := by
  intro other hother
  rw [roleOf?, RoleCatalog.assign, Table.get?_insert] at hother
  show other ∈ if role = .configuration then catalog.configuration ++ [name] else catalog.configuration
  -- the annotation just added is in the set if its role is; any other one was there before
  by_cases hname : name = other
  · rw [if_pos hname, Option.some.injEq] at hother
    rw [if_pos hother, hname]
    exact List.mem_append_right _ (List.mem_singleton_self other)
  · rw [if_neg hname] at hother
    split
    · exact List.mem_append_left _ (h other hother)
    · exact h other hother

/-- What every single assignment keeps, an extension keeps. -/
theorem extend_induction {motive : RoleCatalog → Prop}
    (hassign : ∀ catalog role name, motive catalog → motive (catalog.assign role name))
    (h : motive catalog) (typeName : String) (names : List String) :
    motive (catalog.extend typeName names).1 := by
  unfold RoleCatalog.extend
  split
  · exact h
  · rename_i role _
    show motive (names.foldl (RoleCatalog.assign role) catalog)
    induction names generalizing catalog with
    | nil => exact h
    | cons name rest ih => exact ih (hassign catalog role name h)

theorem InStep.extend (h : catalog.InStep) (typeName : String) (names : List String) :
    (catalog.extend typeName names).1.InStep :=
  extend_induction (fun _ role name hstep => hstep.assign role name) h typeName names

/-! ## Roles of classes -/

theorem foldl_stronger_mem (roles : List Role) (role : Role) :
    roles.foldl Role.stronger role ∈ role :: roles := by
  induction roles generalizing role with
  | nil => exact List.mem_singleton_self role
  | cons r rest ih =>
      have hstronger : role.stronger r = role ∨ role.stronger r = r := by
        unfold Role.stronger
        split
        · exact .inr rfl
        · exact .inl rfl
      rw [List.foldl_cons]
      rcases List.mem_cons.mp (ih (role.stronger r)) with heq | hrest
      · rw [heq]
        rcases hstronger with h | h
        · rw [h]
          exact List.mem_cons_self
        · rw [h]
          exact List.mem_cons_of_mem _ List.mem_cons_self
      · exact List.mem_cons_of_mem _ (List.mem_cons_of_mem _ hrest)

/-- A role is given away by an annotation. -/
theorem exists_annotation_of_classify {c : ClassInfo} {role : Role} (h : catalog.classify c = role)
    (hrole : role ≠ .other) : ∃ a ∈ c.annotations, catalog.roleOf? a = some role := by
  have hmem := foldl_stronger_mem (c.annotations.filterMap catalog.roleOf?) .other
  rw [show (c.annotations.filterMap catalog.roleOf?).foldl Role.stronger .other = role from h] at hmem
  rcases List.mem_cons.mp hmem with heq | hmem
  · exact absurd heq hrole
  · exact List.mem_filterMap.mp hmem

/-! ## Components are classes -/

theorem exists_class_of_mem_components {x : Component} (h : x ∈ catalog.components classes) :
    ∃ c ∈ classes, c.name = x.name := by
  obtain ⟨c, hc, hx⟩ := List.mem_filterMap.mp h
  dsimp only at hx
  split at hx
  · cases hx
  · cases hx
    exact ⟨c, hc, rfl⟩

/-- Entities and configurations are told by a set of annotations. -/
theorem exists_class_of_mem_map_component {p : ClassInfo → Bool} {role : Role} {x : Component}
    (h : x ∈ (classes.filter p).map (catalog.component · role)) : ∃ c ∈ classes, c.name = x.name := by
  obtain ⟨c, hc, rfl⟩ := List.mem_map.mp h
  exact ⟨c, (List.mem_filter.mp hc).1, rfl⟩

theorem exists_class_of_mem_repositories {x : Component} (h : x ∈ catalog.repositories classes) :
    ∃ c ∈ classes, c.name = x.name := by
  obtain ⟨c, hc, hx⟩ := List.mem_filterMap.mp h
  unfold repository? at hx
  dsimp only at hx
  split at hx
  · cases hx
    exact ⟨c, hc, rfl⟩
  · split at hx
    · cases hx
      exact ⟨c, hc, rfl⟩
    · cases hx

/-- **A bean belongs to a listed configuration.** -/
theorem exists_configuration_of_mem_beans (hstep : catalog.InStep) {b : Bean}
    (h : b ∈ catalog.beans classes) :
    ∃ x ∈ catalog.configurations classes, x.name = b.configurationClass := by
  obtain ⟨c, hc, hb⟩ := List.mem_flatMap.mp h
  obtain ⟨m, -, rfl⟩ := List.mem_map.mp hb
  obtain ⟨hmem, hrole⟩ := List.mem_filter.mp hc
  obtain ⟨a, ha, hconfiguration⟩ :=
    exists_annotation_of_classify (of_decide_eq_true hrole) (by decide)
  have hany : anyIn c.annotations catalog.configuration = true :=
    List.any_eq_true.mpr ⟨a, ha, by simpa using hstep a hconfiguration⟩
  exact ⟨catalog.component c .configuration,
    List.mem_map_of_mem (List.mem_filter.mpr ⟨hmem, hany⟩), rfl⟩

end RoleCatalog

/-! ## Endpoints and entry points -/

theorem mem_methods_of_mem_entryPoints {routes : List String} {classes : List ClassInfo}
    {x : CataloguedMethod} (h : x ∈ entryPoints routes classes) :
    x.id ∈ (Graph.CallGraph.build classes).methods := by
  obtain ⟨c, hc, hx⟩ := List.mem_flatMap.mp (List.mem_filter.mp h).1
  obtain ⟨m, hm, rfl⟩ := List.mem_map.mp hx
  exact Graph.CallGraph.methodId_mem hc hm

/-- Whatever answers to a request is a point of entry. -/
theorem Endpoint.mem_entryPoints {routes : List String} {classes : List ClassInfo} {e : Endpoint}
    (h : e ∈ Endpoint.detect routes classes) :
    e.id ∈ (entryPoints routes classes).map CataloguedMethod.id := by
  exact (Endpoint.map_id_detect_sublist routes classes).subset (List.mem_map_of_mem h)

end ClassAtlas
