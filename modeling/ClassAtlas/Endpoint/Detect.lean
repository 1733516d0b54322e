import ClassAtlas.Endpoint.Path
import ClassAtlas.Method.Catalog

/-!
# Endpoints for requests

Methods of controller classes handle requests. Which verb and path they answer
to stands in the elements of their annotations; the class may give a base path.

A verb, a path or a role can be a character constant, and such a constant can be
a surrogate. These texts are therefore given by their code points.
-/

namespace ClassAtlas

open ClassAtlas.ClassFile (Annotations ElementTable ElementValue)
open ClassAtlas.Text (Points points)

/-- A method that answers requests, and the requests that it answers. -/
structure Endpoint where
  verb : Points
  path : Points
  controller : String
  methodName : String
  responseType : String
  parameters : List Parameter
  requiredRoles : List Points
  deprecated : Bool
  description : String
  deriving DecidableEq, Repr

/-- The id of the method behind an endpoint. -/
def Endpoint.id (e : Endpoint) : String := methodId e.controller e.methodName

namespace Endpoint

/-- Annotations of the web framework that make a class a controller. -/
def controllerAnnotations : List String :=
  ["org.springframework.stereotype.Controller", webName "RestController"]

/-- The general mapping, which may give a verb, a path or both. -/
def requestMapping : String := webName "RequestMapping"

/-- Annotations of the web framework that stand for one verb. -/
def webVerbs : List (String × String) :=
  [("GetMapping", "GET"), ("PostMapping", "POST"), ("PutMapping", "PUT"), ("DeleteMapping", "DELETE"),
    ("PatchMapping", "PATCH")].map fun (name, verb) => (webName name, verb)

/-- The path annotations of the service standard. They make a class a controller too. -/
def servicePaths : List String := serviceAnnotations ["Path"]

/-- The verb that an annotation of the service standard stands for. -/
def serviceVerb? (name : String) : Option String :=
  serviceVerbs.find? fun verb => (serviceAnnotations [verb]).contains name

/-- Annotations that restrict a method to callers in some roles. -/
def roleAnnotations : List String :=
  ["javax.annotation.security.RolesAllowed", "jakarta.annotation.security.RolesAllowed",
    "org.springframework.security.access.annotation.Secured",
    "org.springframework.security.access.prepost.PreAuthorize"]

/-- The text of an element, if it is one. A surrogate is a text of one code point. -/
def textOf? : ElementValue → Option Points
  | .text s => some (points s)
  | .surrogate unit => some [unit]
  | _ => none

/-- The texts of an element: itself, or the texts of an array. -/
def textsOf : Option ElementValue → List Points
  | some (.list items) => items.filterMap textOf?
  | some value => (textOf? value).toList
  | none => []

/-- The first text of `path`, else of `value`; nothing is the empty path. -/
def pathOf (elements : ElementTable) : Points :=
  (textsOf (elements.get? "path") ++ textsOf (elements.get? "value")).headD []

/-- The verb of a general mapping: the constant named by its first method, `GET` without one. -/
def verbOf (elements : ElementTable) : Points :=
  match textsOf (elements.get? "method") with
  | [] => points "GET"
  | first :: _ => Text.itemsAfterLast '.'.toNat first

/-- The elements of an annotation, none if the annotation is not there. -/
def elementsOf (values : Annotations) (name : String) : ElementTable := (values.get? name).getD ∅

/-- What the annotations read so far say about the route. -/
structure Route where
  verb : Option Points
  path : Points
  deriving DecidableEq, Repr

/-- Takes one more annotation into account; later ones win. -/
def Route.add (values : Annotations) (route : Route) (name : String) : Route :=
  let elements := elementsOf values name
  match webVerbs.lookup name with
  | some verb => ⟨some (points verb), pathOf elements⟩
  | none =>
    if name = requestMapping then ⟨some (verbOf elements), pathOf elements⟩
    else
      match serviceVerb? name with
      | some verb => { route with verb := some (points verb) }
      | none => if servicePaths.contains name then { route with path := pathOf elements } else route

/-- The route that the annotations of a method give together. -/
def Route.of (m : MethodInfo) : Route :=
  m.annotations.foldl (Route.add m.annotationValues) ⟨none, []⟩

/-- Whether the methods of a class can be endpoints. -/
def isController (c : ClassInfo) : Bool :=
  c.annotations.any fun a => controllerAnnotations.contains a || servicePaths.contains a

/-- The path that a class gives to all of its methods. -/
def basePath (c : ClassInfo) : Points :=
  match c.annotations.find? fun a => a = requestMapping || servicePaths.contains a with
  | some name => pathOf (elementsOf c.annotationValues name)
  | none => []

/-- The roles that a caller needs. -/
def requiredRolesOf (m : MethodInfo) : List Points :=
  (m.annotations.filter roleAnnotations.contains).flatMap fun a =>
    textsOf ((elementsOf m.annotationValues a).get? "value")

/-- Puts a blank before every ASCII capital. -/
def spaceCapitals (cs : List Char) : List Char :=
  cs.flatMap fun c => if 'A' ≤ c ∧ c ≤ 'Z' then [' ', c] else [c]

/-- A method name as a phrase: `getUserById` is "Get user by id". -/
def describe (methodName : String) : String :=
  let words :=
    match methodName.toList with
    | [] => []
    | c :: rest => c :: spaceCapitals rest
  match Text.lowerChars words with
  | [] => ""
  | c :: rest => String.ofList (Text.upperChar c ++ rest)

/-- The endpoint of a method, if it is one. -/
def ofMethod? (routes : List String) (c : ClassInfo) (m : MethodInfo) : Option Endpoint :=
  let route := Route.of m
  match m.isRouteHandler routes, route.verb with
  | true, some verb => some {
      verb := verb
      path := Path.normalize (basePath c ++ Path.slash :: route.path)
      controller := c.name
      methodName := m.name
      responseType := m.returnType
      parameters := m.parameters
      requiredRoles := requiredRolesOf m
      deprecated := m.annotations.contains "java.lang.Deprecated"
      description := describe m.name }
  | _, _ => none

/-- The endpoints of all controllers, in order of declaration. -/
def detect (routes : List String) (classes : List ClassInfo) : List Endpoint :=
  (classes.filter isController).flatMap fun c => c.methods.filterMap (ofMethod? routes c)

/-- Endpoints by a key, keys ascending. -/
def groupBy {κ : Type} [DecidableEq κ] [Ord κ] (key : Endpoint → κ) (endpoints : List Endpoint) :
    List (κ × List Endpoint) :=
  sortedBy (fun e : κ × List Endpoint => e.1) (Table.groupBy key endpoints).entries

/-- Endpoints by verb. -/
def byVerb (endpoints : List Endpoint) : List (Points × List Endpoint) := groupBy (·.verb) endpoints

/-- Endpoints by controller class. -/
def byController (endpoints : List Endpoint) : List (String × List Endpoint) :=
  groupBy (·.controller) endpoints

/-- Endpoints by the first segment of their path. -/
def byFirstSegment (endpoints : List Endpoint) : List (Points × List Endpoint) :=
  groupBy (fun e => Path.firstSegment e.path) endpoints

/-- The endpoints whose whole path fits a pattern. -/
def withPath (pattern : String) (endpoints : List Endpoint) : List Endpoint :=
  endpoints.filter fun e => Path.wildcardMatch pattern.toList e.path

/-- Endpoints in numbers. -/
structure Figures where
  total : Nat
  byVerb : List (Points × Nat)
  byController : List (String × Nat)
  authenticated : Nat
  deprecated : Nat
  deriving DecidableEq, Repr

/-- The numbers of a list of endpoints. -/
def figures (endpoints : List Endpoint) : Figures where
  total := endpoints.length
  byVerb := sortedBy (fun e : Points × Nat => e.1) (Table.counts (endpoints.map (·.verb))).entries
  byController := sortedBy (fun e : String × Nat => e.1)
    (Table.counts (endpoints.map (·.controller))).entries
  authenticated := (endpoints.filter fun e => !e.requiredRoles.isEmpty).length
  deprecated := (endpoints.filter (·.deprecated)).length

end Endpoint

end ClassAtlas
