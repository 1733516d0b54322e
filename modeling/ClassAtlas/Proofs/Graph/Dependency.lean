import ClassAtlas.Proofs.Graph.Cycles
import ClassAtlas.Proofs.Graph.References
import ClassAtlas.Proofs.Graph.Reordering

/-!
# What is in a dependency graph

Nodes are the class names that have none of the excluded beginnings. Edges are
what classes name, as far as both ends are nodes. The adjacency in which cycles
are searched has an edge wherever there is a dependency, whatever its reason.

Main statements: all parts of the graph are given by what the classes mention
(`build_of_mentions`), and fewer classes have a part of the graph (`build_shrinks`).
-/

namespace ClassAtlas.Graph

/-- The name has none of the beginnings. -/
def Avoids (beginnings : List String) (name : String) : Prop :=
  ∀ b ∈ beginnings, ¬ b.toList <+: name.toList

instance (beginnings : List String) (name : String) : Decidable (Avoids beginnings name) :=
  inferInstanceAs (Decidable (∀ b ∈ beginnings, ¬ b.toList <+: name.toList))

theorem isExcluded_eq_false_iff {beginnings : List String} {name : String} :
    isExcluded beginnings name = false ↔ Avoids beginnings name := by
  simp [isExcluded, Avoids, Text.startsWith]

theorem avoids_append {beginnings further : List String} {name : String} :
    Avoids (beginnings ++ further) name ↔ Avoids beginnings name ∧ Avoids further name := by
  simp only [Avoids, List.forall_mem_append]

/-- Some class with the name of the source names the target for that reason. -/
def Named (classes : List ClassInfo) (e : Dependency) : Prop :=
  ∃ c ∈ classes, c.name = e.source ∧
    ∃ type, (type, e.reason) ∈ references c ∧ normalizeType type = e.target

theorem Named.append {classes : List ClassInfo} {e : Dependency} (h : Named classes e)
    (more : List ClassInfo) : Named (classes ++ more) e := by
  obtain ⟨c, hc, hrest⟩ := h
  exact ⟨c, List.mem_append_left more hc, hrest⟩

namespace DependencyGraph

variable {beginnings : List String} {classes : List ClassInfo} {name : String} {e : Dependency}

theorem mem_nodes_iff : name ∈ (build beginnings classes).nodes ↔
    (∃ c ∈ classes, c.name = name) ∧ Avoids beginnings name := by
  refine mem_ascending.trans ?_
  rw [List.mem_filter, List.mem_map, Bool.not_eq_true', isExcluded_eq_false_iff]

theorem mem_dependenciesFrom_iff {known : List String} {c : ClassInfo} :
    e ∈ dependenciesFrom known c ↔ (e.source ∈ known ∧ e.target ∈ known) ∧ c.name = e.source ∧
      ∃ type, (type, e.reason) ∈ references c ∧ normalizeType type = e.target := by
  constructor
  · intro h
    refine ⟨ends_of_mem_dependenciesFrom h, ?_⟩
    unfold dependenciesFrom at h
    split at h
    · obtain ⟨⟨type, reason⟩, href, hkept⟩ := List.mem_filterMap.mp h
      dsimp only at hkept
      split at hkept
      · cases hkept
        exact ⟨rfl, type, href, rfl⟩
      · cases hkept
    · cases h
  · rintro ⟨⟨hsource, htarget⟩, hname, type, href, htype⟩
    rw [dependenciesFrom, if_pos (hname ▸ hsource), List.mem_filterMap]
    refine ⟨(type, e.reason), href, ?_⟩
    dsimp only
    rw [if_pos (htype ▸ htarget), hname, htype]

theorem mem_edges_iff : e ∈ (build beginnings classes).edges ↔
    (e.source ∈ (build beginnings classes).nodes ∧ e.target ∈ (build beginnings classes).nodes) ∧
      Named classes e := by
  refine mem_ascending.trans (List.mem_flatMap.trans ?_)
  constructor
  · rintro ⟨c, hc, he⟩
    obtain ⟨hends, hname, href⟩ := mem_dependenciesFrom_iff.mp he
    exact ⟨hends, c, hc, hname, href⟩
  · rintro ⟨hends, c, hc, hname, href⟩
    exact ⟨c, hc, mem_dependenciesFrom_iff.mpr ⟨hends, hname, href⟩⟩

theorem strictlyAscending_nodes : StrictlyAscending (build beginnings classes).nodes :=
  strictlyAscending_ascending _

theorem strictlyAscending_edges : StrictlyAscending (build beginnings classes).edges :=
  strictlyAscending_ascending _

theorem nodes_adjacency :
    Adjacency.nodes (build beginnings classes).adjacency = (build beginnings classes).nodes := by
  show List.map Prod.fst (List.map _ (build beginnings classes).nodes) = _
  rw [List.map_map]
  exact List.map_id _

theorem mem_targets_iff {edges : List Dependency} {v w : String} :
    w ∈ ascending ((edges.filter fun e => e.source = v).map (·.target)) ↔
      ∃ e ∈ edges, e.source = v ∧ e.target = w := by
  simp only [mem_ascending, List.mem_map, List.mem_filter, decide_eq_true_eq, and_assoc]

/-- An edge of the adjacency is a dependency. -/
theorem edge_adjacency_iff {v w : String} :
    Adjacency.Edge (build beginnings classes).adjacency v w ↔
      ∃ e ∈ (build beginnings classes).edges, e.source = v ∧ e.target = w := by
  constructor
  · rintro ⟨targets, hfound, hw, -⟩
    obtain ⟨-, rfl⟩ := Adjacency.lookup_map_eq_some_iff.mp hfound
    exact mem_targets_iff.mp hw
  · rintro ⟨e, he, rfl, rfl⟩
    obtain ⟨hsource, htarget⟩ := ends_of_mem_edges he
    refine ⟨_, Adjacency.lookup_map_eq_some_iff.mpr ⟨hsource, rfl⟩,
      mem_targets_iff.mpr ⟨e, he, rfl, rfl⟩, ?_⟩
    rwa [nodes_adjacency]

/-- **A graph with fewer nodes and dependencies has smaller groups.** -/
theorem existsUnique_larger_cycle {beginnings' : List String} {classes' : List ClassInfo}
    (hnodes : (build beginnings classes).nodes ⊆ (build beginnings' classes').nodes)
    (hedges : (build beginnings classes).edges ⊆ (build beginnings' classes').edges)
    {group : List String} (h : group ∈ (build beginnings classes).cycles) :
    ∃! larger, larger ∈ (build beginnings' classes').cycles ∧ group ⊆ larger := by
  have hmem : ∀ v ∈ Adjacency.nodes (build beginnings classes).adjacency,
      v ∈ Adjacency.nodes (build beginnings' classes').adjacency := by
    rw [nodes_adjacency, nodes_adjacency]
    exact hnodes
  have hedge : ∀ v w, Adjacency.Edge (build beginnings classes).adjacency v w →
      Adjacency.Edge (build beginnings' classes').adjacency v w := by
    intro v w hvw
    obtain ⟨e, he, hends⟩ := edge_adjacency_iff.mp hvw
    exact edge_adjacency_iff.mpr ⟨e, hedges he, hends⟩
  exact existsUnique_larger hmem hedge h

/-! ## The whole graph -/

/-- The class names the type for that reason. -/
inductive Mentions (c : ClassInfo) : Reason → String → Prop where
  | supertype {type : String} : c.superclass = some type → type ≠ "" → Mentions c .supertype type
  | interface {type : String} : type ∈ c.interfaces → Mentions c .interface type
  | field {f : FieldInfo} : f ∈ c.fields → Mentions c .field f.type
  | parameter {m : MethodInfo} {p : Parameter} : m ∈ c.methods → p ∈ m.parameters →
      Mentions c .parameter p.type
  | result {m : MethodInfo} : m ∈ c.methods → Mentions c .result m.returnType

theorem mem_references_iff {c : ClassInfo} {type : String} {reason : Reason} :
    (type, reason) ∈ references c ↔ Mentions c reason type := by
  simp only [references, List.mem_append, List.mem_map, List.mem_flatMap, List.mem_filter,
    Option.mem_toList, Prod.mk.injEq, List.mem_singleton, decide_eq_true_eq]
  constructor
  · rintro (((⟨_, ⟨hsuper, hne⟩, rfl, rfl⟩ | ⟨_, hi, rfl, rfl⟩) | ⟨f, hf, rfl, rfl⟩) |
      ⟨m, hm, ⟨p, hp, rfl, rfl⟩ | ⟨rfl, rfl⟩⟩)
    · exact .supertype hsuper hne
    · exact .interface hi
    · exact .field hf
    · exact .parameter hm hp
    · exact .result hm
  · intro h
    cases h with
    | supertype hsuper hne => exact .inl (.inl (.inl ⟨type, ⟨hsuper, hne⟩, rfl, rfl⟩))
    | interface hi => exact .inl (.inl (.inr ⟨type, hi, rfl, rfl⟩))
    | @field f hf => exact .inl (.inr ⟨f, hf, rfl, rfl⟩)
    | @parameter m p hm hp => exact .inr ⟨m, hm, .inl ⟨p, hp, rfl, rfl⟩⟩
    | @result m hm => exact .inr ⟨m, hm, .inr ⟨rfl, rfl⟩⟩

/-- There is a dependency of `v` on `w`, for whatever reason. -/
def DependsOn (g : DependencyGraph) (v w : String) : Prop := ∃ reason, ⟨v, w, reason⟩ ∈ g.edges

theorem exists_edge_iff_dependsOn {g : DependencyGraph} {v w : String} :
    (∃ e ∈ g.edges, e.source = v ∧ e.target = w) ↔ g.DependsOn v w := by
  constructor
  · rintro ⟨⟨_, _, reason⟩, he, rfl, rfl⟩
    exact ⟨reason, he⟩
  · rintro ⟨reason, he⟩
    exact ⟨_, he, rfl, rfl⟩

theorem reach_adjacency_iff {v w : String} :
    Adjacency.Reach (build beginnings classes).adjacency v w ↔
      Relation.ReflTransGen (build beginnings classes).DependsOn v w := by
  have hedge : Adjacency.Edge (build beginnings classes).adjacency =
      (build beginnings classes).DependsOn := by
    funext v w
    rw [edge_adjacency_iff, exists_edge_iff_dependsOn]
  rw [Adjacency.Reach, hedge]

theorem mem_cycles_iff {group : List String} : group ∈ (build beginnings classes).cycles ↔
    StrictlyAscending group ∧ 2 ≤ group.length ∧
      ∃ v ∈ (build beginnings classes).nodes, ∀ w, w ∈ group ↔
        w ∈ (build beginnings classes).nodes ∧
          Relation.ReflTransGen (build beginnings classes).DependsOn v w ∧
          Relation.ReflTransGen (build beginnings classes).DependsOn w v := by
  have hcycles : (build beginnings classes).cycles =
      findCycles (build beginnings classes).adjacency := rfl
  rw [hcycles, mem_findCycles_iff, isCycle_iff_exists_member, nodes_adjacency]
  simp only [Adjacency.Mutual, reach_adjacency_iff]

/-- **The graph is what the classes name.** Nodes are the names of classes that have none of the
beginnings, in ascending order. There is an edge between two nodes for a reason exactly if a class
with the name of the first mentions the second for it, brackets and type arguments left out. The
adjacency lists for every node, in order, the nodes on which it depends, each once. Cycles are the
classes of mutual reachability along edges that have two or more members. -/
theorem build_of_mentions (beginnings : List String) (classes : List ClassInfo) :
    (StrictlyAscending (build beginnings classes).nodes ∧
      ∀ name, name ∈ (build beginnings classes).nodes ↔
        (∃ c ∈ classes, c.name = name) ∧ Avoids beginnings name) ∧
    ((build beginnings classes).edges.Nodup ∧
      ∀ source target reason, ⟨source, target, reason⟩ ∈ (build beginnings classes).edges ↔
        (source ∈ (build beginnings classes).nodes ∧ target ∈ (build beginnings classes).nodes) ∧
          ∃ c ∈ classes, c.name = source ∧
            ∃ type, Mentions c reason type ∧ normalizeType type = target) ∧
    (∃ targets : String → List String,
      (build beginnings classes).adjacency =
          (build beginnings classes).nodes.map (fun v => (v, targets v)) ∧
        ∀ v, StrictlyAscending (targets v) ∧
          ∀ w, w ∈ targets v ↔ (build beginnings classes).DependsOn v w) ∧
    ((build beginnings classes).cycles.Nodup ∧
      ∀ group, group ∈ (build beginnings classes).cycles ↔
        StrictlyAscending group ∧ 2 ≤ group.length ∧
          ∃ v ∈ (build beginnings classes).nodes, ∀ w, w ∈ group ↔
            w ∈ (build beginnings classes).nodes ∧
              Relation.ReflTransGen (build beginnings classes).DependsOn v w ∧
              Relation.ReflTransGen (build beginnings classes).DependsOn w v) := by
  refine ⟨⟨strictlyAscending_nodes, fun _ => mem_nodes_iff⟩,
    ⟨strictlyAscending_edges.nodup, fun source target reason => ?_⟩,
    ⟨fun v => ascending (((build beginnings classes).edges.filter fun e => e.source = v).map
      (·.target)), rfl, fun v => ⟨strictlyAscending_ascending _, fun w => ?_⟩⟩,
    ⟨(strictlyAscending_findCycles _).nodup, fun _ => mem_cycles_iff⟩⟩
  · simp only [mem_edges_iff, Named, mem_references_iff]
  · rw [mem_targets_iff, exists_edge_iff_dependsOn]

/-! ## Smaller sets of classes -/

section Shrink

variable (beginnings further : List String) (classes more : List ClassInfo)

theorem nodes_build_append_beginnings : (build (beginnings ++ further) classes).nodes =
    (build beginnings classes).nodes.filter fun name => Avoids further name := by
  refine strictlyAscending_nodes.eq_of_mem_iff (strictlyAscending_nodes.filter _) fun name => ?_
  rw [List.mem_filter, mem_nodes_iff, mem_nodes_iff, avoids_append, decide_eq_true_eq, and_assoc]

theorem edges_build_append_beginnings : (build (beginnings ++ further) classes).edges =
    (build beginnings classes).edges.filter fun e =>
      Avoids further e.source ∧ Avoids further e.target := by
  refine strictlyAscending_edges.eq_of_mem_iff (strictlyAscending_edges.filter _) fun e => ?_
  simp only [List.mem_filter, mem_edges_iff, nodes_build_append_beginnings, decide_eq_true_eq]
  tauto

theorem nodes_subset_build_append :
    (build beginnings classes).nodes ⊆ (build beginnings (classes ++ more)).nodes := by
  intro name hname
  obtain ⟨⟨c, hc, hcname⟩, havoids⟩ := mem_nodes_iff.mp hname
  exact mem_nodes_iff.mpr ⟨⟨c, List.mem_append_left more hc, hcname⟩, havoids⟩

theorem edges_subset_build_append :
    (build beginnings classes).edges ⊆ (build beginnings (classes ++ more)).edges := by
  intro e he
  obtain ⟨⟨hsource, htarget⟩, hnamed⟩ := mem_edges_iff.mp he
  have hnodes := nodes_subset_build_append beginnings classes more
  exact mem_edges_iff.mpr ⟨⟨hnodes hsource, hnodes htarget⟩, hnamed.append more⟩

/-- **Fewer classes, a part of the graph.** Excluding further beginnings takes from the graph the
nodes that have one of them and the dependencies that end at such a node, and nothing else. The
graph of some of the classes is a part of the graph of all. Either way each group of the smaller
graph lies in exactly one group of the larger. -/
theorem build_shrinks :
    ((build (beginnings ++ further) classes).nodes =
        (build beginnings classes).nodes.filter (fun name => Avoids further name) ∧
      (build (beginnings ++ further) classes).edges =
        (build beginnings classes).edges.filter (fun e =>
          Avoids further e.source ∧ Avoids further e.target) ∧
      ∀ group ∈ (build (beginnings ++ further) classes).cycles,
        ∃! larger, larger ∈ (build beginnings classes).cycles ∧ group ⊆ larger) ∧
    ((build beginnings classes).nodes ⊆ (build beginnings (classes ++ more)).nodes ∧
      (build beginnings classes).edges ⊆ (build beginnings (classes ++ more)).edges ∧
      ∀ group ∈ (build beginnings classes).cycles,
        ∃! larger, larger ∈ (build beginnings (classes ++ more)).cycles ∧ group ⊆ larger) := by
  have hnodes := nodes_build_append_beginnings beginnings further classes
  have hedges := edges_build_append_beginnings beginnings further classes
  have hnodes' := nodes_subset_build_append beginnings classes more
  have hedges' := edges_subset_build_append beginnings classes more
  refine ⟨⟨hnodes, hedges, fun group hgroup => ?_⟩, hnodes', hedges', fun group hgroup => ?_⟩
  · refine existsUnique_larger_cycle ?_ ?_ hgroup
    · rw [hnodes]
      exact List.filter_subset_self _
    · rw [hedges]
      exact List.filter_subset_self _
  · exact existsUnique_larger_cycle hnodes' hedges' hgroup

end Shrink

end DependencyGraph

end ClassAtlas.Graph
