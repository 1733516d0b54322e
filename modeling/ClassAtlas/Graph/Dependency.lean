import ClassAtlas.Graph.Cycles
import ClassAtlas.Graph.Inheritance
import ClassAtlas.Metadata.Basic
import ClassAtlas.Text.Split

/-!
# The dependency graph of classes

A class depends on the classes it names as superclass, as interface, or as type
of a field, parameter or result. Only classes of the analysed set are nodes, and
of those only the ones whose name has none of the excluded beginnings.
-/

namespace ClassAtlas.Graph

open ClassAtlas.Text (splitLast?)

/-- Why one class depends on another. -/
inductive Reason where
  | supertype
  | interface
  | field
  | parameter
  | result
  deriving DecidableEq, Repr

namespace Reason

/-- The word for a reason in reports. -/
def label : Reason → String
  | supertype => "SUPERTYPE"
  | interface => "INTERFACE"
  | field => "FIELD"
  | parameter => "PARAMETER"
  | result => "RETURN"

end Reason

/-- A class that depends on another one, with the reason. -/
structure Dependency where
  source : String
  target : String
  reason : Reason
  deriving DecidableEq, Repr

/-- Dependencies are ordered by source, target and the word for the reason. -/
instance : Ord Dependency :=
  ⟨compareLex (compareOn (·.source)) (compareLex (compareOn (·.target)) (compareOn (·.reason.label)))⟩

/-- Names with one of these beginnings belong to the platform and stay out of graphs. -/
def platformPrefixes : List String :=
  ["java.", "javax.", "jdk.", "sun.", "com.sun.", "kotlin.", "scala."]

/-- Whether a name has one of the beginnings. -/
def isExcluded (beginnings : List String) (name : String) : Bool :=
  beginnings.any (Text.startsWith name)

/-- Leaves out every `[]`. -/
def dropBrackets : List Char → List Char
  | '[' :: ']' :: rest => dropBrackets rest
  | c :: rest => c :: dropBrackets rest
  | [] => []

/-- A type name without array brackets and type arguments. A name that is nothing but type
arguments stays as it is. -/
def normalizeType (type : String) : String :=
  let cs := dropBrackets type.toList
  let plain := cs.takeWhile (· ≠ '<')
  String.ofList (if plain.isEmpty then cs else plain)

/-- The package of classes whose name has no dot. -/
def defaultPackage : String := "(default)"

/-- The package of a class, which is its name up to the last dot. -/
def packageOf (name : String) : String :=
  match splitLast? '.' name with
  | some (package, _) => package
  | none => defaultPackage

/-- The types that a class names, each with the reason. -/
def references (c : ClassInfo) : List (String × Reason) :=
  (c.superclass.toList.filter (· ≠ "")).map (·, Reason.supertype) ++
    c.interfaces.map (·, Reason.interface) ++
    c.fields.map (fun f => (f.type, Reason.field)) ++
    c.methods.flatMap fun m =>
      m.parameters.map (fun p => (p.type, Reason.parameter)) ++ [(m.returnType, Reason.result)]

/-- Which classes depend on which. -/
structure DependencyGraph where
  /-- Class names in ascending order. -/
  nodes : List String
  /-- Dependencies in ascending order. -/
  edges : List Dependency
  /-- The targets of each node, nodes and targets in ascending order. -/
  adjacency : List (String × List String)
  /-- The inheritance depths, the classes in ascending order. -/
  depths : List (String × Nat)
  /-- The groups of classes that depend on each other. -/
  cycles : List (List String)
  deriving Repr

namespace DependencyGraph

/-- The names of the classes that become nodes. -/
def knownNames (beginnings : List String) (classes : List ClassInfo) : List String :=
  ascending ((classes.map (·.name)).filter fun name => !isExcluded beginnings name)

/-- The dependencies of one class on known ones. -/
def dependenciesFrom (known : List String) (c : ClassInfo) : List Dependency :=
  if c.name ∈ known then
    (references c).filterMap fun (type, reason) =>
      let target := normalizeType type
      if target ∈ known then some { source := c.name, target, reason } else none
  else []

/-- The superclass of the last class with a name. -/
def superclassOf (classes : List ClassInfo) (name : String) : Option String :=
  ((classes.reverse.find? fun c => c.name = name).map (·.superclass)).join

/-- The dependency graph of classes, those with an excluded beginning left out. -/
def build (beginnings : List String) (classes : List ClassInfo) : DependencyGraph :=
  let nodes := knownNames beginnings classes
  let edges := ascending (classes.flatMap (dependenciesFrom nodes))
  let adjacency := nodes.map fun name =>
    (name, ascending ((edges.filter fun e => e.source = name).map (·.target)))
  let superclasses : Superclasses :=
    Table.ofList (nodes.map fun name => (name, superclassOf classes name))
  let depths := inheritanceDepths superclasses
  { nodes := nodes
    edges := edges
    adjacency := adjacency
    depths := sortedBy Prod.fst depths.entries
    cycles := findCycles adjacency }

/-- The number of groups of classes that depend on each other. -/
def circularCount (g : DependencyGraph) : Nat := g.cycles.length

/-- The targets of a class, none for a class that is no node. -/
def dependenciesOf (g : DependencyGraph) (name : String) : List String :=
  ((g.adjacency.find? fun e => e.1 = name).map Prod.snd).getD []

/-- Classes that extend or implement `name` directly. -/
def subtypesOf (g : DependencyGraph) (name : String) : List String :=
  ascending ((g.edges.filter fun e =>
    e.target = name ∧ (e.reason = .supertype ∨ e.reason = .interface)).map (·.source))

/-- Which packages each package depends on. Dependencies inside a package do not count. -/
def packageGraph (g : DependencyGraph) : List (String × List String) :=
  let crossing := ((g.edges.map fun e => (packageOf e.source, packageOf e.target)).filter
    fun (p, q) => p ≠ q)
  (ascending (g.nodes.map packageOf)).map fun p =>
    (p, ascending ((crossing.filter fun e => e.1 = p).map Prod.snd))

end DependencyGraph

end ClassAtlas.Graph
