import ClassAtlas.Graph.Metrics
import ClassAtlas.Method.Category
import ClassAtlas.Order.Ascending
import ClassAtlas.Pattern.Match
import ClassAtlas.Pattern.Parser

/-!
# The methods of a set of classes

Methods are listed in order of declaration, each with its owner, category and
signature. On the list stand searches, groupings and counts.
-/

namespace ClassAtlas

/-- A method with what is worked out about it. -/
structure CataloguedMethod where
  owner : String
  className : String
  method : MethodInfo
  category : Category
  signature : String

namespace CataloguedMethod

/-- The id of a catalogued method. -/
def id (m : CataloguedMethod) : String := methodId m.owner m.method.name

/-- The entry of a method in the catalogue. -/
def of (routes : List String) (owner : ClassInfo) (m : MethodInfo) : CataloguedMethod where
  owner := owner.name
  className := owner.simpleName
  method := m
  category := m.category routes
  signature := m.signature

end CataloguedMethod

/-- All methods in order of declaration. -/
def catalogue (routes : List String) (classes : List ClassInfo) : List CataloguedMethod :=
  classes.flatMap fun c => c.methods.map (CataloguedMethod.of routes c)

/-- Methods at which control enters from outside: the main method, and whatever handles requests,
an accessor included. -/
def entryPoints (routes : List String) (classes : List ClassInfo) : List CataloguedMethod :=
  (catalogue routes classes).filter fun m =>
    m.category == .entryPoint || m.category == .restEndpoint || m.method.isRouteHandler routes

/-- Criteria for a search; one that is not set holds of every method. -/
structure MethodFilter where
  /-- A pattern for the whole name. -/
  namePattern : Option String := none
  returnType : Option String := none
  /-- Parts of annotation names, one of which has to occur. -/
  annotations : List String := []
  categories : List Category := []
  publicOnly : Bool := false
  staticOnly : Bool := false
  deriving Repr

/-- Why a search cannot be made. -/
inductive FilterFault where
  | badPattern (text : String)
  deriving DecidableEq, Repr

namespace MethodFilter

/-- Whether a method satisfies all criteria but the one on its name. -/
def holdsBesideName (f : MethodFilter) (m : CataloguedMethod) : Bool :=
  f.returnType.all (m.method.returnType == ·) &&
    (f.annotations.isEmpty ||
      m.method.annotations.any fun a => f.annotations.any fun part => Text.containsText a part) &&
    (f.categories.isEmpty || f.categories.contains m.category) &&
    (!f.publicOnly || m.method.isPublic) &&
    (!f.staticOnly || m.method.isStatic)

/-- The methods that satisfy all criteria. The pattern is read only if there is a method to try. -/
def select (f : MethodFilter) (methods : List CataloguedMethod) :
    Except FilterFault (List CataloguedMethod) :=
  match f.namePattern with
  | none => .ok (methods.filter f.holdsBesideName)
  | some text =>
    if methods.isEmpty then .ok []
    else
      match Pattern.parse? text with
      | none => .error (.badPattern text)
      | some p => .ok (methods.filter fun m => p.matchesWhole (Text.points m.method.name) && f.holdsBesideName m)

end MethodFilter

/-- Methods by category, categories in order of first appearance. -/
def byCategory (methods : List CataloguedMethod) : Table Category (List CataloguedMethod) :=
  Table.groupBy (·.category) methods

/-- Ids that more than one method shares, ascending, each with its methods. -/
def overloaded (methods : List CataloguedMethod) : List (String × List CataloguedMethod) :=
  (sortedBy Prod.fst (Table.groupBy CataloguedMethod.id methods).entries).filter fun e => 1 < e.2.length

/-- Numbers of occurrences, most frequent first and then by name. -/
def frequencies (xs : List String) : List (String × Nat) :=
  (Table.counts xs).entries.mergeSort fun a b => b.2 < a.2 || (a.2 == b.2 && a.1 ≤ b.1)

/-- The mean of numbers; zero if there are none. -/
def mean (counts : List Nat) : Graph.Ratio :=
  if h : counts ≠ [] then ⟨total counts, counts.length, List.length_pos_iff.mpr h⟩ else .zero

/-- How many parameters methods have, and of which types. -/
structure ParameterFigures where
  /-- How many methods have how many parameters. -/
  distribution : List (Nat × Nat)
  types : List (String × Nat)
  most : Nat
  average : Graph.Ratio
  deriving Repr

/-- Parameters of all methods in numbers. -/
def parameterFigures (classes : List ClassInfo) : ParameterFigures :=
  let methods := classes.flatMap (·.methods)
  let counts := methods.map (·.parameters.length)
  { distribution := sortedBy Prod.fst (Table.counts counts).entries
    types := frequencies (methods.flatMap fun m => m.parameters.map (·.type))
    most := counts.foldl max 0
    average := mean counts }

/-- How often each type is returned, the most frequent first. -/
def returnTypeFrequencies (classes : List ClassInfo) : List (String × Nat) :=
  frequencies (classes.flatMap fun c => c.methods.map (·.returnType))

end ClassAtlas
