import ClassAtlas.Metadata.Basic
import ClassAtlas.Order.Ascending
import ClassAtlas.Text.Split

/-!
# The call graph of methods

Nodes are method ids. Overloads share an id, and a callee is known only by the
class and name that the calling instruction gives, so the graph may have nodes
that no analysed class declares.
-/

namespace ClassAtlas.Graph

/-- One side of a graph: each node that has neighbours with its neighbours, both ascending. -/
abbrev Neighbours := List (String × List String)

namespace Neighbours

/-- Puts together the second parts of neighbouring pairs with one first part. -/
def ofPairs : List (String × String) → Neighbours
  | [] => []
  | (a, b) :: rest =>
    match ofPairs rest with
    | (a', bs) :: groups => if a = a' then (a, b :: bs) :: groups else (a, [b]) :: (a', bs) :: groups
    | [] => [(a, [b])]

/-- The neighbours of a node, none if it has none. -/
def of (ns : Neighbours) (node : String) : List String :=
  ((ns.find? fun e => e.1 = node).map Prod.snd).getD []

end Neighbours

/-- Pairs in lexicographic order. -/
def pairOrder (a b : String × String) : Bool :=
  (compareLex (compareOn Prod.fst) (compareOn Prod.snd) a b).isLE

/-- Which methods call which. -/
structure CallGraph where
  /-- The ids of the methods that the classes declare, ascending. -/
  methods : List String
  /-- Callees by caller. -/
  outgoing : Neighbours
  /-- Callers by callee. -/
  incoming : Neighbours
  deriving DecidableEq, Repr

namespace CallGraph

/-- The ids of caller and callee of every call, in order of appearance. -/
def calls (classes : List ClassInfo) : List (String × String) :=
  classes.flatMap fun c => c.methods.flatMap fun m =>
    m.calls.map fun call => (c.methodId m, methodId call.owner call.name)

/-- The call graph of classes. Calls of methods that no class declares count too. -/
def build (classes : List ClassInfo) : CallGraph :=
  let edges := squeeze ((calls classes).mergeSort pairOrder)
  let reversed := squeeze ((edges.map fun (a, b) => (b, a)).mergeSort pairOrder)
  { methods := ascending (classes.flatMap fun c => c.methods.map c.methodId)
    outgoing := Neighbours.ofPairs edges
    incoming := Neighbours.ofPairs reversed }

/-- The methods that a method calls. -/
def callees (g : CallGraph) (id : String) : List String := g.outgoing.of id

/-- The methods that call a method. -/
def callers (g : CallGraph) (id : String) : List String := g.incoming.of id

/-- All ids, those of methods declared elsewhere included. -/
def nodes (g : CallGraph) : List String :=
  ascending (g.methods ++ g.outgoing.map Prod.fst ++ g.incoming.map Prod.fst)

/-- The number of pairs of caller and callee. -/
def edgeCount (g : CallGraph) : Nat := total (g.outgoing.map fun e => e.2.length)

/-- The first `n` nodes by their number of neighbours, most first and then by id. Nodes without
neighbours are left out. -/
def rank (ns : Neighbours) (n : Int) : List (String × Nat) :=
  (((ns.map fun e => (e.1, e.2.length)).mergeSort fun a b =>
    b.2 < a.2 || (a.2 == b.2 && a.1 ≤ b.1)).take n.toNat).filter fun e => e.2 ≠ 0

/-- Methods by number of callers. -/
def mostCalled (g : CallGraph) (n : Int) : List (String × Nat) := rank g.incoming n

/-- Methods by number of callees. -/
def mostComplex (g : CallGraph) (n : Int) : List (String × Nat) := rank g.outgoing n

/-- Whether an id names a constructor, an initializer or a generated method. -/
def isHidden (id : String) : Bool :=
  let name := (Text.splitFirst '#' id).2.toList
  name.contains '<' || name.contains '$'

/-- Declared methods that nothing calls. -/
def unused (g : CallGraph) : List String :=
  g.methods.filter fun id => (g.callers id).isEmpty && !isHidden id

end CallGraph

end ClassAtlas.Graph
