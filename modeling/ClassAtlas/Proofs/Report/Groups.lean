import ClassAtlas.Component.Detect
import ClassAtlas.Endpoint.Detect
import ClassAtlas.Proofs.Order.Grouping

/-!
# Groups of endpoints and components, and their figures

Endpoints are grouped by verb, by controller and by the first segment of their
path, components by role and by package. Figures are counted apart from the
groups, and are their sizes all the same.
-/

namespace ClassAtlas

/-- The figures are the sizes of the groups, each under the key of its group, and they add up to
`sum`. -/
structure Measures {α κ : Type} (groups : List (κ × List α)) (figures : List (κ × Nat)) (sum : Nat) :
    Prop where
  sizes : figures.Perm (groups.map fun g => (g.1, g.2.length))
  adds : total (figures.map Prod.snd) = sum

theorem Partitions.measures {α β κ : Type} [DecidableEq κ] [Ord β] {rank : κ → β} {key : α → κ}
    {xs : List α} {groups : List (κ × List α)} {figures : List (κ × Nat)}
    (h : Partitions rank key xs groups)
    (hsizes : figures.Perm (groups.map fun g => (g.1, g.2.length))) :
    Measures groups figures xs.length := by
  refine ⟨hsizes, ?_⟩
  rw [total_eq_of_perm (hsizes.map Prod.snd), List.map_map]
  exact h.total_sizes

theorem Role.priority_injective : Function.Injective Role.priority := by
  intro a b h
  cases a <;> cases b <;> simp_all [Role.priority]

/-- **Groupings are partitions, and figures are the sizes of their groups.** Endpoints are divided by
verb, by controller and by first segment, components by package, all with ascending keys, and
components by role, stronger roles first. The figures on verbs, controllers, roles and packages are
counted without the groups and agree with them. -/
theorem groupings_match_figures (endpoints : List Endpoint) (components : List Component) :
    Partitions id Endpoint.verb endpoints (Endpoint.byVerb endpoints) ∧
    Partitions id Endpoint.controller endpoints (Endpoint.byController endpoints) ∧
    Partitions id (fun e => Path.firstSegment e.path) endpoints
      (Endpoint.byFirstSegment endpoints) ∧
    Partitions Role.priority Component.role components (Component.byRole components) ∧
    Partitions id Component.packageName components (Component.byPackage components) ∧
    Measures (Endpoint.byVerb endpoints) (Endpoint.figures endpoints).byVerb
      (Endpoint.figures endpoints).total ∧
    Measures (Endpoint.byController endpoints) (Endpoint.figures endpoints).byController
      (Endpoint.figures endpoints).total ∧
    Measures (Component.byRole components) (Component.figures components).byRole
      (Component.figures components).total ∧
    Measures (Component.byPackage components) (Component.figures components).byPackage
      (Component.figures components).total := by
  have hendpoints : ∀ {κ : Type} [DecidableEq κ] [Ord κ] [Std.TransOrd κ] [Std.LawfulEqOrd κ]
      (key : Endpoint → κ), Partitions id key endpoints (Endpoint.groupBy key endpoints) :=
    fun key => partitions_groupBy Function.injective_id key endpoints
  have hroles : Partitions Role.priority Component.role components (Component.byRole components) :=
    partitions_groupBy Role.priority_injective Component.role components
  have hpackages :
      Partitions id Component.packageName components (Component.byPackage components) :=
    partitions_groupBy Function.injective_id Component.packageName components
  refine ⟨hendpoints _, hendpoints _, hendpoints _, hroles, hpackages, ?_, ?_, ?_, ?_⟩
  · exact (hendpoints _).measures (.of_eq (sortedBy_counts id Endpoint.verb endpoints))
  · exact (hendpoints _).measures (.of_eq (sortedBy_counts id Endpoint.controller endpoints))
  · exact hroles.measures (counts_perm_sortedBy Role.priority Component.role components)
  · exact hpackages.measures (.of_eq (sortedBy_counts id Component.packageName components))

end ClassAtlas
