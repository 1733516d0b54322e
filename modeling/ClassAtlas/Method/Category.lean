import ClassAtlas.Metadata.Basic
import ClassAtlas.Text.Case
import ClassAtlas.Text.Split

/-!
# What a method is for

Each method falls into one category, by name, shape and annotations; the first
rule that applies decides.
-/

namespace ClassAtlas

/-- What a method is for. -/
inductive Category where
  | constructor
  | staticInitializer
  | getter
  | setter
  | restEndpoint
  | entryPoint
  | business
  deriving DecidableEq, Repr

namespace Category

/-- The categories in their order. -/
def all : List Category :=
  [constructor, staticInitializer, getter, setter, restEndpoint, entryPoint, business]

/-- The word for a category in reports. -/
def label : Category → String
  | constructor => "CONSTRUCTOR"
  | staticInitializer => "STATIC_INITIALIZER"
  | getter => "GETTER"
  | setter => "SETTER"
  | restEndpoint => "REST_ENDPOINT"
  | entryPoint => "ENTRY_POINT"
  | business => "BUSINESS"

/-- The category with the given word. -/
def ofLabel? (s : String) : Option Category := all.find? fun c => c.label = s

end Category

/-- Annotations of the web framework that map requests to methods. -/
def webName (name : String) : String := "org.springframework.web.bind.annotation." ++ name

/-- Annotations of the service standard, under both of its names. -/
def serviceAnnotations (names : List String) : List String :=
  ["javax", "jakarta"].flatMap fun ns => names.map fun name => ns ++ ".ws.rs." ++ name

/-- The request verbs of the service standard. -/
def serviceVerbs : List String := ["GET", "POST", "PUT", "DELETE", "PATCH", "HEAD", "OPTIONS"]

/-- The annotations that make a method handle requests. -/
def routeAnnotations : List String :=
  ["RequestMapping", "GetMapping", "PostMapping", "PutMapping", "DeleteMapping",
    "PatchMapping"].map webName ++ serviceAnnotations (serviceVerbs ++ ["Path"])

/-- Whether a name is a verb followed by an upper case letter. -/
def isAccessor (verb name : String) : Bool :=
  let v := verb.toList
  let cs := name.toList
  v.isPrefixOf cs && ((cs.drop v.length).head?).any Text.isUpperCase

namespace MethodInfo

/-- Whether the method carries one of the given annotations. -/
def isRouteHandler (routes : List String) (m : MethodInfo) : Bool :=
  m.annotations.any fun a => routes.contains a

/-- A method that hands out a property and takes nothing. -/
def isGetter (m : MethodInfo) : Bool :=
  m.parameters.isEmpty && m.returnType != "void" &&
    (isAccessor "get" m.name || isAccessor "is" m.name)

/-- A method that takes the value of a property and returns nothing. -/
def isSetter (m : MethodInfo) : Bool :=
  m.parameters.length == 1 && m.returnType == "void" && isAccessor "set" m.name

/-- The method that starts a program. -/
def isMain (m : MethodInfo) : Bool :=
  m.name == "main" && m.isStatic && m.isPublic && m.parameters.map (·.type) == ["java.lang.String[]"]

/-- The category of a method. The tests are made in order, and the first that fits decides. -/
def category (routes : List String) (m : MethodInfo) : Category :=
  if m.name = "<init>" then .constructor
  else if m.name = "<clinit>" then .staticInitializer
  else if m.isGetter then .getter
  else if m.isSetter then .setter
  else if m.isRouteHandler routes then .restEndpoint
  else if m.isMain then .entryPoint
  else .business

end MethodInfo

/-- A type name without its package; the names of the language's own package may keep inner parts. -/
def simpleType (type : String) : String :=
  if Text.startsWith type "java.lang." then String.ofList (type.toList.drop "java.lang.".length)
  else Text.afterLast '.' type

/-- The first of the visibility words that the method carries. -/
def visibility (m : MethodInfo) : List String :=
  (["public", "protected", "private"].find? fun w => m.modifiers.contains w).toList

/-- A parameter in a signature: its type, and its name unless it is a made-up one. -/
def parameterText (p : Parameter) : String :=
  if Text.startsWith p.name "arg" then simpleType p.type else simpleType p.type ++ " " ++ p.name

/-- A readable signature. -/
def MethodInfo.signature (m : MethodInfo) : String :=
  let words := visibility m ++ (if m.isStatic then ["static"] else []) ++
    (if m.isAbstract then ["abstract"] else [])
  let head := simpleType m.returnType ++ " " ++ m.name ++ "(" ++
    String.intercalate ", " (m.parameters.map parameterText) ++ ")"
  let tail :=
    if m.exceptions.isEmpty then ""
    else " throws " ++ String.intercalate ", " (m.exceptions.map simpleType)
  String.intercalate " " (words ++ [head ++ tail])

end ClassAtlas
