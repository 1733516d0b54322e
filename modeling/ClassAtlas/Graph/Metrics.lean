import ClassAtlas.Graph.Dependency
import ClassAtlas.Number.Binary64

/-!
# Figures of a dependency graph

Figures count pairs of different classes, so several reasons for one dependency
count once and a class that names itself does not count at all.
-/

namespace ClassAtlas.Graph

/-- An exact quotient of natural numbers. Nothing is divided by zero: whoever makes a quotient shows
that its divisor is positive. -/
structure Ratio where
  num : Nat
  den : Nat
  den_pos : 0 < den
  deriving DecidableEq, Repr

namespace Ratio

/-- The quotient that stands for no figure. -/
def zero : Ratio := ⟨0, 1, Nat.one_pos⟩

/-- The whole part of a quotient. -/
def floor (r : Ratio) : Nat := r.num / r.den

/-- The quotient as a floating-point number. -/
def toBinary64 (r : Ratio) : Binary64 := Binary64.ofRatio false r.num r.den

end Ratio

/-- The figures of a dependency graph. -/
structure Metrics where
  nodeCount : Nat
  edgeCount : Nat
  /-- Pairs that depend on each other among all pairs that could. -/
  density : Ratio
  highlyConnected : List String
  orphans : List String
  circularCount : Nat
  deriving DecidableEq, Repr

namespace DependencyGraph

/-- The pairs of different classes that depend on each other, one after the other in order. -/
def pairs (g : DependencyGraph) : List (String × String) :=
  squeeze ((g.edges.filter fun e => e.source ≠ e.target).map fun e => (e.source, e.target))

/-- The number of pairs that a class is an end of. -/
def degree (g : DependencyGraph) (name : String) : Nat :=
  (g.pairs.filter fun (s, t) => s = name ∨ t = name).length

/-- The least degree of a highly connected class: three, or more in a dense graph. -/
def connectedThreshold (g : DependencyGraph) : Nat :=
  if h : g.nodes.length ≠ 0 then
    max 3 (Ratio.floor ⟨g.pairs.length, g.nodes.length, Nat.pos_of_ne_zero h⟩)
  else 3

/-- What part of the pairs of different classes depend on each other, if there are such pairs. -/
def density (g : DependencyGraph) : Ratio :=
  if h : 1 < g.nodes.length then
    { num := g.pairs.length
      den := g.nodes.length * (g.nodes.length - 1)
      den_pos := Nat.mul_pos (Nat.zero_lt_of_lt h) (Nat.sub_pos_of_lt h) }
  else .zero

/-- All figures of a graph. -/
def metrics (g : DependencyGraph) : Metrics :=
  { nodeCount := g.nodes.length
    edgeCount := g.pairs.length
    density := g.density
    highlyConnected := g.nodes.filter fun name => g.connectedThreshold ≤ g.degree name
    orphans := g.nodes.filter fun name => g.degree name = 0
    circularCount := g.circularCount }

end DependencyGraph

end ClassAtlas.Graph
