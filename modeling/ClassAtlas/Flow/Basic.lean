import ClassAtlas.Flow.Chain
import ClassAtlas.Method.Catalog

/-!
# Flow of data by declared types

A method produces the type it returns and consumes the types of its parameters.
Whatever produces a type may feed whatever consumes it. Types are compared by
name only. Constructors and initializers take no part.
-/

namespace ClassAtlas.Flow

open ClassAtlas.Graph (Neighbours pairOrder)

/-- Data of a type may flow from one method to another. -/
structure FlowPath where
  source : String
  target : String
  type : String
  deriving DecidableEq, Repr

instance : Ord FlowPath :=
  ⟨compareLex (compareOn (·.source)) (compareLex (compareOn (·.target)) (compareOn (·.type)))⟩

/-- A method that turns data of some types into data of another. -/
structure Transformation where
  method : String
  inputs : List String
  output : String
  deriving DecidableEq, Repr

/-- What is known about the data that flows between methods. -/
structure DataFlow where
  /-- Producing methods by type, types and methods ascending. -/
  producers : Neighbours
  /-- Consuming methods by type. -/
  consumers : Neighbours
  chains : List CallChain
  paths : List FlowPath
  transformations : List Transformation
  deriving DecidableEq, Repr

/-- Constructors and initializers. -/
def isSpecial (methodName : String) : Bool := Text.startsWith methodName "<"

/-- Ids of the methods that satisfy a condition, in order of appearance. -/
def idsWhere (classes : List ClassInfo) (p : MethodInfo → Bool) : List String :=
  distinct (classes.flatMap fun c => (c.methods.filter p).map c.methodId)

/-- Methods that return exactly the type. -/
def producersOf (classes : List ClassInfo) (type : String) : List String :=
  idsWhere classes fun m => m.returnType == type

/-- Methods with a parameter of exactly the type. -/
def consumersOf (classes : List ClassInfo) (type : String) : List String :=
  idsWhere classes fun m => m.parameters.any fun p => p.type == type

/-- Groups ids by type. -/
def groupIds (pairs : List (String × String)) : Neighbours :=
  Neighbours.ofPairs (squeeze (pairs.mergeSort pairOrder))

/-- The types that a method returns and takes, each with the method's id. -/
def typedIds (classes : List ClassInfo) (types : MethodInfo → List String) :
    List (String × String) :=
  classes.flatMap fun c => (c.methods.filter fun m => !isSpecial m.name).flatMap fun m =>
    (types m).map fun type => (type, c.methodId m)

/-- Methods by the type that they return. Special methods and those without a result are left out.
-/
def allProducers (classes : List ClassInfo) : Neighbours :=
  groupIds (typedIds classes fun m => if m.returnType = "void" then [] else [m.returnType])

/-- Methods by the types of their parameters. Special methods are left out. -/
def allConsumers (classes : List ClassInfo) : Neighbours :=
  groupIds (typedIds classes fun m => m.parameters.map (·.type))

/-- Every producer of a type joined with every other consumer of it. -/
def joinPaths (producers consumers : Neighbours) : List FlowPath :=
  sorted (producers.flatMap fun (type, sources) =>
    sources.flatMap fun source =>
      ((consumers.of type).filter (source ≠ ·)).map fun target => ⟨source, target, type⟩)

/-- Types whose values carry no structure of their own. -/
def scalarTypes : List String :=
  ["void", "boolean", "byte", "char", "short", "int", "long", "float", "double"] ++
    ["String", "Boolean", "Byte", "Character", "Short", "Integer", "Long", "Float",
      "Double"].map ("java.lang." ++ ·)

/-- How the names of converting methods begin. -/
def transformVerbs : List String := ["convert", "map", "transform", "to"]

/-- A method that is named for turning data into other data, and has such types. -/
def transformationOf? (c : ClassInfo) (m : MethodInfo) : Option Transformation :=
  let name := Text.lower m.name
  let inputs := (m.parameters.map (·.type)).filter fun t => !scalarTypes.contains t
  if transformVerbs.any (Text.startsWith name) && !inputs.isEmpty &&
      !scalarTypes.contains m.returnType then
    some ⟨c.methodId m, inputs, m.returnType⟩
  else none

/-- The transformations of all classes, in order of declaration. -/
def transformations (classes : List ClassInfo) : List Transformation :=
  classes.flatMap fun c => c.methods.filterMap (transformationOf? c)

/-- The depth limit of chains where none is given. -/
def defaultDepth : Int := 5

/-- The flow of data through the classes, with the chains found within the limits. -/
def analyzeFlow (classes : List ClassInfo) (chains : List CallChain) : DataFlow :=
  let producers := allProducers classes
  let consumers := allConsumers classes
  { producers := producers
    consumers := consumers
    chains := chains
    paths := joinPaths producers consumers
    transformations := transformations classes }

/-- Data flow in numbers. -/
structure FlowFigures where
  paths : Nat
  types : Nat
  /-- The ten types on the most paths. -/
  top : List (String × Nat)
  chains : Nat
  transformations : Nat
  deriving DecidableEq, Repr

/-- The numbers of a data flow. -/
def DataFlow.figures (flow : DataFlow) : FlowFigures :=
  let byType := frequencies (flow.paths.map (·.type))
  { paths := flow.paths.length
    types := byType.length
    top := byType.take 10
    chains := flow.chains.length
    transformations := flow.transformations.length }

end ClassAtlas.Flow
