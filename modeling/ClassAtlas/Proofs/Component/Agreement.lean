import Mathlib.Data.List.Basic
import ClassAtlas.Proofs.Component.References

/-!
# Sections of a report that agree on roles

Components are told by the strongest role of their annotations, entities and
configurations by sets of annotations, repositories by role or by interface. A
class with a role must not be missing where classes of that role are listed.
This rests on the catalog: `RoleCatalog.Aligned` says that no annotation has a
role without being in the set for it, and no extension breaks that, whichever
annotations it gives to whichever roles.
-/

namespace ClassAtlas.RoleCatalog

variable {catalog : RoleCatalog}

/-! ## Extended catalogs -/

/-- Annotations with the role of an entity or of a configuration are in the set for it. -/
structure Aligned (catalog : RoleCatalog) : Prop where
  entity : ∀ name, catalog.roleOf? name = some .entity → name ∈ catalog.entity
  configuration : catalog.InStep

theorem roleOf?_assign (catalog : RoleCatalog) (role : Role) (name other : String) :
    (catalog.assign role name).roleOf? other =
      if name = other then some role else catalog.roleOf? other :=
  Table.get?_insert catalog.roles name other role

theorem aligned_default : RoleCatalog.default.Aligned where
  entity := by
    intro name hname
    have hpair := Table.mem_of_get?_ofList hname
    simp only [List.mem_append, List.mem_map] at hpair
    rcases hpair with (hpair | ⟨name, hentity, hpair⟩) | hpair
    · simp at hpair
    · cases hpair
      exact hentity
    · simp at hpair
  configuration := inStep_default

/-- An annotation that loses the role of an entity stays in the set; one that gains it joins. -/
theorem Aligned.assign (h : catalog.Aligned) (role : Role) (name : String) :
    (catalog.assign role name).Aligned where
  entity := by
    intro other hother
    rw [roleOf?_assign] at hother
    show other ∈ if role = .entity then catalog.entity ++ [name] else catalog.entity
    by_cases hname : name = other
    · rw [if_pos hname, Option.some.injEq] at hother
      simp [hother, hname]
    · rw [if_neg hname] at hother
      have hbefore := h.entity other hother
      split
      · exact List.mem_append_left _ hbefore
      · exact hbefore
  configuration := h.configuration.assign role name

theorem Aligned.extendAll (h : catalog.Aligned) (extra : List (String × List String)) :
    (catalog.extendAll extra).1.Aligned := by
  suffices hfold : ∀ start : RoleCatalog × List String, start.1.Aligned →
      (extra.foldl (fun state entry =>
        ((state.1.extend entry.1 entry.2).1, state.2 ++ (state.1.extend entry.1 entry.2).2))
        start).1.Aligned from
    hfold (catalog, []) h
  induction extra with
  | nil => exact fun _ hstart => hstart
  | cons entry rest ih =>
      intro start hstart
      exact ih _ (extend_induction (fun _ role name hal => hal.assign role name) hstart _ _)

/-- The usual catalog after one extension after the other. -/
def extended (extensions : List (List (String × List String))) : RoleCatalog :=
  extensions.foldl (fun catalog extra => (catalog.extendAll extra).1) RoleCatalog.default

theorem aligned_extended (extensions : List (List (String × List String))) :
    (extended extensions).Aligned := by
  suffices hfold : ∀ start : RoleCatalog, start.Aligned →
      (extensions.foldl (fun catalog extra => (catalog.extendAll extra).1) start).Aligned from
    hfold _ aligned_default
  induction extensions with
  | nil => exact fun _ hstart => hstart
  | cons extra rest ih => exact fun _ hstart => ih _ (hstart.extendAll extra)

/-! ## Classes of one role -/

/-- The components that have a given role. -/
def componentsWith (catalog : RoleCatalog) (role : Role) (classes : List ClassInfo) :
    List Component :=
  (catalog.components classes).filter fun x => x.role = role

theorem componentsWith_eq {role : Role} (hrole : role ≠ .other) (classes : List ClassInfo) :
    catalog.componentsWith role classes =
      (classes.filter fun c => catalog.classify c = role).map (catalog.component · role) := by
  rw [componentsWith, components, List.filter_filterMap, ← List.filterMap_eq_map,
    List.filterMap_filter]
  refine List.filterMap_congr fun c _ => ?_
  by_cases hother : catalog.classify c = .other
  · simp [hother, hrole.symm]
  · by_cases hc : catalog.classify c = role
    · simp [hc, hrole, component]
    · simp [hc, hother, component]

/-- An annotation that gives the class its role is in the set for that role. -/
theorem anyIn_of_classify {c : ClassInfo} {role : Role} {set : List String}
    (hset : ∀ name, catalog.roleOf? name = some role → name ∈ set) (hrole : role ≠ .other)
    (h : catalog.classify c = role) : anyIn c.annotations set = true := by
  obtain ⟨a, ha, hassigned⟩ := exists_annotation_of_classify h hrole
  exact List.any_eq_true.mpr ⟨a, ha, by simpa using hset a hassigned⟩

/-- Classes of a role are found, in order, among the classes with an annotation of its set. -/
theorem componentsWith_sublist {role : Role} {set : List String}
    (hset : ∀ name, catalog.roleOf? name = some role → name ∈ set) (hrole : role ≠ .other)
    (classes : List ClassInfo) :
    (catalog.componentsWith role classes).Sublist
      ((classes.filter fun c => anyIn c.annotations set).map (catalog.component · role)) := by
  rw [componentsWith_eq hrole]
  refine List.Sublist.map _ (List.monotone_filter_right classes ?_)
  intro c hc
  exact anyIn_of_classify hset hrole (of_decide_eq_true hc)

theorem componentsWith_repository_sublist (classes : List ClassInfo) :
    (catalog.componentsWith .repository classes).Sublist (catalog.repositories classes) := by
  rw [componentsWith_eq (by decide), repositories]
  induction classes with
  | nil => exact List.Sublist.slnil
  | cons c rest ih =>
      rw [List.filter_cons, List.filterMap_cons]
      by_cases hc : catalog.classify c = .repository
      · have hfound : catalog.repository? c = some (catalog.component c .repository) := if_pos hc
        rw [if_pos (by simpa using hc), hfound]
        exact ih.cons_cons _
      · rw [if_neg (by simpa using hc)]
        -- an interface of data access may come in between
        cases catalog.repository? c with
        | none => exact ih
        | some extra => exact ih.cons extra

theorem map_beans (classes : List ClassInfo) :
    (catalog.beans classes).map (fun b => (b.configurationClass, b.methodName)) =
      (catalog.componentsWith .configuration classes).flatMap fun x =>
        x.beanMethods.map fun m => (x.name, m) := by
  rw [componentsWith_eq (by decide), beans, List.map_flatMap, List.flatMap_map]
  congr 1
  funext c
  simp only [beansOf, component, List.map_map]
  rfl

/-- **Sections agree on roles.** However the usual catalog is extended, the components of each of
three roles stand, as the same records and in the same order, in the list of entities, of
configurations, of repositories; and the beans are the bean methods of the components that are
configurations, one after the other. -/
theorem roleSections_agree (extensions : List (List (String × List String)))
    (classes : List ClassInfo) :
    ((extended extensions).componentsWith .entity classes).Sublist
        ((extended extensions).entities classes) ∧
      ((extended extensions).componentsWith .configuration classes).Sublist
        ((extended extensions).configurations classes) ∧
      ((extended extensions).componentsWith .repository classes).Sublist
        ((extended extensions).repositories classes) ∧
      ((extended extensions).beans classes).map (fun b => (b.configurationClass, b.methodName)) =
        ((extended extensions).componentsWith .configuration classes).flatMap fun x =>
          x.beanMethods.map fun m => (x.name, m) := by
  have haligned := aligned_extended extensions
  refine ⟨?_, ?_, ?_, ?_⟩
  · exact componentsWith_sublist haligned.entity (by decide) classes
  · exact componentsWith_sublist haligned.configuration (by decide) classes
  · exact componentsWith_repository_sublist classes
  · exact map_beans classes

end ClassAtlas.RoleCatalog
