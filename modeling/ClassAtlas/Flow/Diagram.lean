import ClassAtlas.Flow.Basic

/-!
# Diagrams of data flow

A diagram shows the strongest links between producing and consuming methods. A
link is the stronger the more types flow along it. Methods get the names `n0`,
`n1`, … in order of first appearance and are declared before their first use.
-/

namespace ClassAtlas.Flow

/-- `pkg.Class#method` as `Class.method`. -/
def shortId (id : String) : String :=
  let (owner, name) := Text.splitFirst '#' id
  Text.afterLast '.' owner ++ "." ++ name

/-- The name of a type without its package. -/
def shortType (type : String) : String := Text.afterLast '.' type

/-- Two methods and the types that flow from the first to the second. -/
structure Link where
  source : String
  target : String
  types : List String
  deriving DecidableEq, Repr

/-- Links between the ends of paths. -/
def linksOf (paths : List FlowPath) : List Link :=
  (Table.groupBy (fun p : FlowPath => (p.source, p.target)) paths).entries.map
    fun ((source, target), group) => ⟨source, target, group.map (·.type)⟩

/-- Stronger links first, then by source and target. -/
def linkOrder (a b : Link) : Bool :=
  b.types.length < a.types.length || (a.types.length == b.types.length &&
    (compareLex (compareOn Link.source) (compareOn Link.target) a b).isLE)

/-- The methods that have a name so far, in order, and the lines written so far. -/
structure Sketch where
  aliased : List String
  lines : List String
  deriving DecidableEq, Repr

namespace Sketch

/-- The name of a method by its place. -/
def nameOf (s : Sketch) (method : String) : String := s!"n{s.aliased.idxOf method}"

/-- Declares a method, if it has no name yet. -/
def declare (s : Sketch) (method : String) : Sketch :=
  if method ∈ s.aliased then s
  else
    { aliased := s.aliased ++ [method]
      lines := s.lines ++ ["rectangle \"" ++ shortId method ++ "\" as n" ++ toString s.aliased.length] }

/-- Draws a link and declares its ends first. -/
def draw (s : Sketch) (link : Link) : Sketch :=
  let s := (s.declare link.source).declare link.target
  let label := String.intercalate ", " (ascending (link.types.map shortType))
  { s with lines := s.lines ++ [s.nameOf link.source ++ " --> " ++ s.nameOf link.target ++ " : " ++ label] }

end Sketch

/-- The lines of a diagram with at most `maxEdges` links. -/
def diagramLines (flow : DataFlow) (maxEdges : Int) : List String :=
  let links := ((linksOf flow.paths).mergeSort linkOrder).take maxEdges.toNat
  (links.foldl Sketch.draw ⟨[], ["@startuml"]⟩).lines ++ ["@enduml"]

/-- The text of a diagram, each line ended. -/
def diagram (flow : DataFlow) (maxEdges : Int) : String :=
  String.join ((diagramLines flow maxEdges).map (· ++ "\n"))

end ClassAtlas.Flow
