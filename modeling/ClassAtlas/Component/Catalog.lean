import ClassAtlas.Order.Table
import ClassAtlas.Text.Case
import ClassAtlas.Text.Quoted

/-!
# Annotations that assign roles

The catalog says which annotations give a class a role. It is a value, so a
project can extend it; an extension keeps the sets of entity and configuration
annotations in step with the roles.
-/

namespace ClassAtlas

/-- The role of a class in an application. -/
inductive Role where
  | service
  | controller
  | repository
  | entity
  | configuration
  | other
  deriving DecidableEq, Repr

namespace Role

/-- All roles, the ones that win over others first. -/
def all : List Role := [service, controller, repository, entity, configuration, other]

/-- The word for a role in reports and settings. -/
def label : Role → String
  | service => "SERVICE"
  | controller => "CONTROLLER"
  | repository => "REPOSITORY"
  | entity => "ENTITY"
  | configuration => "CONFIGURATION"
  | other => "OTHER"

/-- The rank of a role; the lower one wins. -/
def priority : Role → Nat
  | service => 0
  | controller => 1
  | repository => 2
  | entity => 3
  | configuration => 4
  | other => 5

/-- The role with the given word. -/
def ofLabel? (s : String) : Option Role := all.find? fun r => r.label = s

end Role

/-- Which annotations say what about a class or a method. -/
structure RoleCatalog where
  roles : Table String Role
  entity : List String
  configuration : List String
  bean : List String
  primary : List String
  lazyInit : List String
  /-- Interfaces of data access whose extensions are repositories without an annotation. -/
  repositoryBases : List String

namespace RoleCatalog

/-- The role that an annotation assigns. -/
def roleOf? (catalog : RoleCatalog) (name : String) : Option Role := catalog.roles.get? name

/-- Gives one more annotation a role. -/
def assign (role : Role) (catalog : RoleCatalog) (name : String) : RoleCatalog :=
  { catalog with
    roles := catalog.roles.insert name role
    entity := if role = .entity then catalog.entity ++ [name] else catalog.entity
    configuration :=
      if role = .configuration then catalog.configuration ++ [name] else catalog.configuration }

/-- The notice about settings for a role that does not exist. -/
def unknownRoleNotice (typeName : String) : String :=
  s!"Unknown component type {Text.quoted typeName} in extra_annotations"

/-- Gives the annotations the role with the given name, in any case of letters. An unknown role
changes nothing and is noticed. -/
def extend (catalog : RoleCatalog) (typeName : String) (names : List String) :
    RoleCatalog × List String :=
  match Role.ofLabel? (Text.upper typeName) with
  | none => (catalog, [unknownRoleNotice typeName])
  | some role => (names.foldl (assign role) catalog, [])

/-- Extends a catalog by several roles in turn. -/
def extendAll (catalog : RoleCatalog) (extra : List (String × List String)) :
    RoleCatalog × List String :=
  extra.foldl (fun (catalog, notices) (typeName, names) =>
    let (catalog, more) := catalog.extend typeName names
    (catalog, notices ++ more)) (catalog, [])

/-- The full name of a stereotype annotation. -/
def stereotype (name : String) : String := "org.springframework.stereotype." ++ name

/-- The full name of an annotation of the application context. -/
def context (name : String) : String := "org.springframework.context.annotation." ++ name

/-- Annotations of classes that are stored. -/
def entityAnnotations : List String :=
  (["javax", "jakarta"].flatMap fun ns =>
    ["Entity", "Table", "MappedSuperclass"].map fun name => ns ++ ".persistence." ++ name) ++
    ["org.springframework.data.mongodb.core.mapping.Document"]

/-- The catalog for the usual frameworks. -/
def default : RoleCatalog where
  roles := Table.ofList (
    [(stereotype "Service", .service), (stereotype "Controller", .controller),
      ("org.springframework.web.bind.annotation.RestController", .controller),
      (stereotype "Repository", .repository)] ++
    entityAnnotations.map (·, .entity) ++ [(context "Configuration", .configuration)])
  entity := entityAnnotations
  configuration := [context "Configuration"]
  bean := [context "Bean"]
  primary := [context "Primary"]
  lazyInit := [context "Lazy"]
  repositoryBases :=
    ["Repository", "CrudRepository", "ListCrudRepository", "PagingAndSortingRepository"].map
      ("org.springframework.data.repository." ++ ·) ++
    ["org.springframework.data.jpa.repository.JpaRepository",
      "org.springframework.data.mongodb.repository.MongoRepository"]

end RoleCatalog

end ClassAtlas
