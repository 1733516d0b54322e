import Mathlib.Algebra.Order.Field.Rat
import Mathlib.Combinatorics.Enumerative.DoubleCounting
import Mathlib.Data.Rat.Cast.Order
import ClassAtlas.Proofs.Graph.Neighbours
import ClassAtlas.Proofs.Graph.Packages

/-!
# What the figures of a dependency graph say

All figures are counted on one set, the pairs of different classes of which one
depends on the other. The list of pairs holds each of them once, because edges
are in order and those with the same ends stand next to each other. The bounds
count this set in two ways: pairs lie among all pairs of different nodes, and a
pair has two ends.

Main statement: `build_metrics_describes`.
-/

namespace ClassAtlas.Graph

/-! ## Quotients -/

namespace Ratio

/-- The number that a quotient stands for. -/
def value (r : Ratio) : ℚ := r.num / r.den

theorem value_nonneg (r : Ratio) : 0 ≤ r.value :=
  div_nonneg (Nat.cast_nonneg r.num) (Nat.cast_nonneg r.den)

theorem value_le_one {r : Ratio} (h : r.num ≤ r.den) : r.value ≤ 1 :=
  div_le_one_of_le₀ (Nat.cast_le.mpr h) (Nat.cast_nonneg r.den)

end Ratio

namespace DependencyGraph

variable {beginnings : List String} {classes : List ClassInfo} {v w : String}

/-! ## Pairs as a set -/

/-- The pairs of different ends that edges have, whatever their reasons. -/
def links (g : DependencyGraph) : Finset (String × String) :=
  (g.edges.map fun e => (e.source, e.target)).toFinset.filter fun p => p.1 ≠ p.2

/-- The pairs of which a class is an end. -/
def linksAt (g : DependencyGraph) (v : String) : Finset (String × String) :=
  g.links.filter fun p => p.1 = v ∨ p.2 = v

theorem mem_links_iff {g : DependencyGraph} : (v, w) ∈ g.links ↔ v ≠ w ∧ g.DependsOn v w := by
  rw [links, Finset.mem_filter, List.mem_toFinset, List.mem_map, ← exists_edge_iff_dependsOn,
    and_comm]
  simp only [Prod.mk.injEq]

theorem toFinset_pairs (g : DependencyGraph) : g.pairs.toFinset = g.links := by
  ext p
  simp only [links, pairs, List.mem_toFinset, mem_squeeze, Finset.mem_filter, List.mem_map,
    List.mem_filter, decide_eq_true_eq]
  constructor
  · rintro ⟨e, ⟨he, hne⟩, rfl⟩
    exact ⟨⟨e, he, rfl⟩, hne⟩
  · rintro ⟨⟨e, he, rfl⟩, hne⟩
    exact ⟨e, ⟨he, hne⟩, rfl⟩

section Order

attribute [local instance] Neighbours.pairOrd Neighbours.transOrd_pair Neighbours.lawfulEqOrd_pair

/-- Edges in order have their ends in order, the same ends as often as there are reasons. -/
theorem isLE_compare_ends {e e' : Dependency} (h : compare e e' = .lt) :
    (compare (e.source, e.target) (e'.source, e'.target)).isLE = true := by
  show ((compare e.source e'.source).then (compare e.target e'.target)).isLE = true
  rcases Ordering.then_eq_lt.mp h with hsource | ⟨hsource, hrest⟩
  · rw [show compare e.source e'.source = .lt from hsource]
    rfl
  · rw [show compare e.source e'.source = .eq from hsource, Ordering.eq_then]
    rcases Ordering.then_eq_lt.mp hrest with htarget | ⟨htarget, -⟩
    · rw [show compare e.target e'.target = .lt from htarget]
      rfl
    · rw [show compare e.target e'.target = .eq from htarget]
      rfl

theorem nodup_pairs : (build beginnings classes).pairs.Nodup := by
  refine (strictlyAscending_squeeze ?_).nodup
  refine List.pairwise_map.mpr (List.Pairwise.imp isLE_compare_ends ?_)
  exact strictlyAscending_edges.filter _

end Order

theorem length_pairs :
    (build beginnings classes).pairs.length = (build beginnings classes).links.card := by
  rw [← toFinset_pairs, List.toFinset_card_of_nodup nodup_pairs]

theorem degree_eq (v : String) :
    (build beginnings classes).degree v = ((build beginnings classes).linksAt v).card := by
  have hfilter : (build beginnings classes).degree v =
      ((build beginnings classes).pairs.filter fun p => p.1 = v ∨ p.2 = v).length := rfl
  rw [hfilter, ← List.toFinset_card_of_nodup (nodup_pairs.filter _), List.toFinset_filter,
    toFinset_pairs, linksAt]
  simp only [decide_eq_true_eq]

/-! ## Counting the pairs -/

theorem card_nodes : (build beginnings classes).nodes.toFinset.card =
    (build beginnings classes).nodes.length :=
  List.toFinset_card_of_nodup strictlyAscending_nodes.nodup

theorem links_subset_offDiag (beginnings : List String) (classes : List ClassInfo) :
    (build beginnings classes).links ⊆ (build beginnings classes).nodes.toFinset.offDiag := by
  rintro ⟨v, w⟩ hlink
  obtain ⟨hne, hdepends⟩ := mem_links_iff.mp hlink
  obtain ⟨hv, hw⟩ := mem_nodes_of_dependsOn hdepends
  exact Finset.mem_offDiag.mpr ⟨List.mem_toFinset.mpr hv, List.mem_toFinset.mpr hw, hne⟩

theorem card_links_le : (build beginnings classes).links.card ≤
    (build beginnings classes).nodes.length * ((build beginnings classes).nodes.length - 1) := by
  have hcard := Finset.card_le_card (links_subset_offDiag beginnings classes)
  rwa [Finset.offDiag_card, card_nodes, ← Nat.mul_sub_one] at hcard

/-- A pair has at most two ends in any set of classes. -/
theorem card_ends_le (s : Finset String) (p : String × String) :
    (s.filter fun v => p.1 = v ∨ p.2 = v).card ≤ 2 := by
  have hsubset : (s.filter fun v => p.1 = v ∨ p.2 = v) ⊆ {p.1, p.2} := by
    intro v hv
    rw [Finset.mem_insert, Finset.mem_singleton]
    exact (Finset.mem_filter.mp hv).2.imp Eq.symm Eq.symm
  exact (Finset.card_le_card hsubset).trans Finset.card_le_two

/-- **Classes with many pairs are few.** Counting ends by class and by pair, classes with at least
`k` pairs each have at most two ends for every pair among them. -/
theorem mul_card_le_two_mul_links {g : DependencyGraph} {s : Finset String} {k : Nat}
    (h : ∀ v ∈ s, k ≤ (g.linksAt v).card) : k * s.card ≤ 2 * g.links.card := by
  rw [Nat.mul_comm k, Nat.mul_comm 2]
  exact Finset.card_mul_le_card_mul (fun v (p : String × String) => p.1 = v ∨ p.2 = v) h
    fun p _ => card_ends_le s p

/-! ## Cycles -/

/-- A path to another class leaves the class it starts from. -/
theorem exists_link_of_reach {g : DependencyGraph} (h : Relation.ReflTransGen g.DependsOn v w)
    (hne : v ≠ w) : ∃ u, (v, u) ∈ g.links := by
  induction h using Relation.ReflTransGen.head_induction_on with
  | refl => exact absurd rfl hne
  | @head v u hdepends _ ih =>
      by_cases hself : v = u
      · subst hself
        exact ih hne
      · exact ⟨u, mem_links_iff.mpr ⟨hself, hdepends⟩⟩

theorem linksAt_nonempty_of_mem_cycles {group : List String}
    (hgroup : group ∈ (build beginnings classes).cycles) (hv : v ∈ group) :
    ((build beginnings classes).linksAt v).Nonempty := by
  have hcycle := mem_findCycles_iff.mp hgroup
  obtain ⟨w, hw, hne⟩ : ∃ w ∈ group, v ≠ w := by
    obtain ⟨a, ha, b, hb, hab⟩ := hcycle.exists_ne
    by_cases hva : v = a
    · exact ⟨b, hb, hva ▸ hab⟩
    · exact ⟨a, ha, hva⟩
  have hreach := ((hcycle.members v hv w).mp hw).2.1
  obtain ⟨u, hu⟩ := exists_link_of_reach (reach_adjacency_iff.mp hreach) hne
  exact ⟨(v, u), Finset.mem_filter.mpr ⟨hu, .inl rfl⟩⟩

/-! ## All figures -/

/-- Without nodes nothing is divided, and the least degree is three. -/
theorem connectedThreshold_eq (g : DependencyGraph) :
    g.connectedThreshold = max 3 (g.pairs.length / g.nodes.length) := by
  unfold connectedThreshold
  split
  · rfl
  · rename_i hnone
    rw [not_not] at hnone
    simp [hnone]

theorem density_of_few {g : DependencyGraph} (h : g.nodes.length ≤ 1) : g.density = .zero :=
  dif_neg (Nat.not_lt.mpr h)

theorem density_of_many {g : DependencyGraph} (h : 1 < g.nodes.length) :
    g.density.num = g.pairs.length ∧
      g.density.den = g.nodes.length * (g.nodes.length - 1) := by
  rw [density, dif_pos h]
  exact ⟨rfl, rfl⟩

theorem density_le_one (beginnings : List String) (classes : List ClassInfo) :
    (build beginnings classes).density.value ≤ 1 := by
  apply Ratio.value_le_one
  rcases Nat.lt_or_ge 1 (build beginnings classes).nodes.length with hmany | hfew
  · obtain ⟨hnum, hden⟩ := density_of_many hmany
    rw [hnum, hden, length_pairs]
    exact card_links_le
  · rw [density_of_few hfew]
    exact Nat.zero_le 1

theorem orphans_eq : (build beginnings classes).metrics.orphans =
    (build beginnings classes).nodes.filter fun v =>
      ∀ p ∈ (build beginnings classes).links, p.1 ≠ v ∧ p.2 ≠ v := by
  refine List.filter_congr fun v _ => decide_eq_decide.mpr ?_
  rw [degree_eq, Finset.card_eq_zero, linksAt, Finset.filter_eq_empty_iff]
  simp only [not_or, ne_eq]

theorem highlyConnected_eq : (build beginnings classes).metrics.highlyConnected =
    (build beginnings classes).nodes.filter fun v =>
      max 3 ((build beginnings classes).links.card / (build beginnings classes).nodes.length) ≤
        ((build beginnings classes).linksAt v).card := by
  refine List.filter_congr fun v _ => ?_
  rw [degree_eq, connectedThreshold_eq, length_pairs]

theorem three_le_of_mem_highlyConnected
    (h : v ∈ (build beginnings classes).metrics.highlyConnected) :
    3 ≤ ((build beginnings classes).linksAt v).card := by
  rw [highlyConnected_eq, List.mem_filter, decide_eq_true_eq] at h
  exact (Nat.le_max_left _ _).trans h.2

theorem linksAt_eq_empty_of_mem_orphans (h : v ∈ (build beginnings classes).metrics.orphans) :
    (build beginnings classes).linksAt v = ∅ := by
  rw [orphans_eq, List.mem_filter, decide_eq_true_eq] at h
  rw [linksAt, Finset.filter_eq_empty_iff]
  intro p hp
  rw [not_or]
  exact h.2 p hp

theorem three_mul_highlyConnected_le :
    3 * (build beginnings classes).metrics.highlyConnected.length ≤
      2 * (build beginnings classes).links.card := by
  have hnodup : (build beginnings classes).metrics.highlyConnected.Nodup :=
    strictlyAscending_nodes.nodup.filter _
  rw [← List.toFinset_card_of_nodup hnodup]
  exact mul_card_le_two_mul_links fun v hv =>
    three_le_of_mem_highlyConnected (List.mem_toFinset.mp hv)

end DependencyGraph

/-- The figures are those of the graph: edges are counted once for two different ends, the density
is what part of all pairs of different nodes they are, and nodes are sorted out by the pairs they
are an end of. The density is a quotient only where there are two nodes, from which its divisor is
positive; else it is zero. -/
structure Metrics.Describes (m : Metrics) (g : DependencyGraph) : Prop where
  nodeCount : m.nodeCount = g.nodes.length
  edgeCount : m.edgeCount = g.links.card
  edgeCount_le : m.edgeCount ≤ m.nodeCount * (m.nodeCount - 1)
  density_few : m.nodeCount ≤ 1 → m.density = .zero
  density_many : 1 < m.nodeCount →
    m.density.num = m.edgeCount ∧ m.density.den = m.nodeCount * (m.nodeCount - 1)
  density_bounds : 0 ≤ m.density.value ∧ m.density.value ≤ 1
  orphans : m.orphans = g.nodes.filter fun v => ∀ p ∈ g.links, p.1 ≠ v ∧ p.2 ≠ v
  highlyConnected : m.highlyConnected = g.nodes.filter fun v =>
    max 3 (m.edgeCount / m.nodeCount) ≤ (g.linksAt v).card
  disjoint : m.orphans.Disjoint m.highlyConnected
  highlyConnected_le : 3 * m.highlyConnected.length ≤ 2 * m.edgeCount
  connected : ∀ group ∈ g.cycles, ∀ v ∈ group, v ∉ m.orphans

namespace DependencyGraph

/-- **The figures fit the graph.** -/
theorem build_metrics_describes (beginnings : List String) (classes : List ClassInfo) :
    (build beginnings classes).metrics.Describes (build beginnings classes) := by
  have hcount : (build beginnings classes).metrics.edgeCount =
      (build beginnings classes).links.card := length_pairs
  have hle : (build beginnings classes).metrics.edgeCount ≤
      (build beginnings classes).metrics.nodeCount *
        ((build beginnings classes).metrics.nodeCount - 1) := hcount ▸ card_links_le
  refine
    { nodeCount := rfl
      edgeCount := hcount
      edgeCount_le := hle
      density_few := density_of_few
      density_many := density_of_many
      density_bounds := ⟨Ratio.value_nonneg _, density_le_one beginnings classes⟩
      orphans := orphans_eq
      highlyConnected := hcount ▸ highlyConnected_eq
      disjoint := fun v horphan hconnected => ?_
      highlyConnected_le := hcount ▸ three_mul_highlyConnected_le
      connected := fun group hgroup v hv horphan => ?_ }
  · have hthree := three_le_of_mem_highlyConnected hconnected
    rw [linksAt_eq_empty_of_mem_orphans horphan, Finset.card_empty] at hthree
    omega
  · have hlinked := linksAt_nonempty_of_mem_cycles hgroup hv
    rw [linksAt_eq_empty_of_mem_orphans horphan] at hlinked
    exact Finset.not_nonempty_empty hlinked

/-- In the ring of three classes no class stands alone. -/
theorem build_metrics_describes_sample :
    ["shop.Cart", "shop.Order", "stock.Item"] ∈ (build [] sampleShop).cycles ∧
      ∀ v ∈ ["shop.Cart", "shop.Order", "stock.Item"],
        v ∉ (build [] sampleShop).metrics.orphans := by
  refine ⟨mem_cycles_sampleShop, fun v hv => ?_⟩
  exact (build_metrics_describes [] sampleShop).connected _ mem_cycles_sampleShop v hv

end DependencyGraph

end ClassAtlas.Graph
