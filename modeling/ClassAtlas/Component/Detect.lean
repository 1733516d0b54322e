import ClassAtlas.Component.Catalog
import ClassAtlas.Graph.Dependency

/-!
# Components of an application

A class is a component if its annotations give it a role. Components are found
class by class and in order; the wiring between them follows their final
instance fields.
-/

namespace ClassAtlas

open ClassAtlas.Graph (normalizeType)

/-- A class with a role. -/
structure Component where
  name : String
  className : String
  packageName : String
  role : Role
  /-- The annotations, and for repositories the interfaces, that gave the role away. -/
  evidence : List String
  /-- Types of final instance fields. -/
  injected : List String
  beanMethods : List String
  exposedMethods : List String
  deriving DecidableEq, Repr

/-- An object that a configuration class provides by a method. -/
structure Bean where
  configurationClass : String
  methodName : String
  returnType : String
  isPrimary : Bool
  isLazy : Bool
  deriving DecidableEq, Repr

/-- Of two roles the one that wins. -/
def Role.stronger (a b : Role) : Role := if b.priority < a.priority then b else a

/-- Whether one of the annotations is in a set. -/
def anyIn (annotations set : List String) : Bool := annotations.any fun a => set.contains a

namespace RoleCatalog

/-- The role of a class. Of several the strongest wins; a class without one is `other`. -/
def classify (catalog : RoleCatalog) (c : ClassInfo) : Role :=
  (c.annotations.filterMap catalog.roleOf?).foldl Role.stronger .other

/-- Types of final instance fields, through which collaborators are passed in. -/
def injectedTypes (c : ClassInfo) : List String :=
  (c.fields.filter fun f => f.isFinal && !f.isStatic).map (·.type)

/-- A class in a role, with what gave the role away. -/
def component (catalog : RoleCatalog) (c : ClassInfo) (role : Role) : Component where
  name := c.name
  className := c.simpleName
  packageName := c.packageName
  role := role
  evidence := c.annotations.filter fun a =>
    catalog.roles.contains a || catalog.entity.contains a || catalog.configuration.contains a
  injected := injectedTypes c
  beanMethods := (c.methods.filter fun m => anyIn m.annotations catalog.bean).map (·.name)
  exposedMethods :=
    (c.methods.filter fun m => m.isPublic && !Text.startsWith m.name "<").map (·.name)

/-- The classes that have a role. -/
def components (catalog : RoleCatalog) (classes : List ClassInfo) : List Component :=
  classes.filterMap fun c =>
    let role := catalog.classify c
    if role = .other then none else some (catalog.component c role)

/-- The classes with an entity annotation, whatever other roles they have. -/
def entities (catalog : RoleCatalog) (classes : List ClassInfo) : List Component :=
  (classes.filter fun c => anyIn c.annotations catalog.entity).map (catalog.component · .entity)

/-- The classes with a configuration annotation, whatever other roles they have. -/
def configurations (catalog : RoleCatalog) (classes : List ClassInfo) : List Component :=
  (classes.filter fun c => anyIn c.annotations catalog.configuration).map
    (catalog.component · .configuration)

/-- Classes with the role of a repository, and interfaces that extend a base of data access. -/
def repository? (catalog : RoleCatalog) (c : ClassInfo) : Option Component :=
  let bases := c.interfaces.filter fun i => catalog.repositoryBases.contains i
  let component := catalog.component c .repository
  if catalog.classify c = .repository then some component
  else if !bases.isEmpty && c.kind == .interface then
    some { component with evidence := component.evidence ++ bases }
  else none

/-- The classes that are repositories by annotation or by interface. -/
def repositories (catalog : RoleCatalog) (classes : List ClassInfo) : List Component :=
  classes.filterMap catalog.repository?

/-- The beans that a class declares. -/
def beansOf (catalog : RoleCatalog) (c : ClassInfo) : List Bean :=
  (c.methods.filter fun m => anyIn m.annotations catalog.bean).map fun m =>
    { configurationClass := c.name
      methodName := m.name
      returnType := m.returnType
      isPrimary := anyIn m.annotations catalog.primary
      isLazy := anyIn m.annotations catalog.lazyInit }

/-- The beans of all classes with the role of a configuration. -/
def beans (catalog : RoleCatalog) (classes : List ClassInfo) : List Bean :=
  (classes.filter fun c => catalog.classify c = .configuration).flatMap catalog.beansOf

/-- The classes that have a role, by name; of several with one name the last. -/
def roleClasses (catalog : RoleCatalog) (classes : List ClassInfo) : Table String ClassInfo :=
  Table.ofList ((classes.filter fun c => catalog.classify c ≠ .other).map fun c => (c.name, c))

/-- Which components each component is wired to. Components without wires are left out. -/
def wiring (catalog : RoleCatalog) (classes : List ClassInfo) : List (String × List String) :=
  let known := catalog.roleClasses classes
  known.entries.filterMap fun (name, c) =>
    match distinct (((injectedTypes c).map normalizeType).filter known.contains) with
    | [] => none
    | targets => some (name, targets)

end RoleCatalog

/-- Components by role, stronger roles first. -/
def Component.byRole (components : List Component) : List (Role × List Component) :=
  sortedBy (fun e : Role × List Component => e.1.priority) (Table.groupBy (·.role) components).entries

/-- Components by package, packages ascending. -/
def Component.byPackage (components : List Component) : List (String × List Component) :=
  sortedBy (fun e : String × List Component => e.1) (Table.groupBy (·.packageName) components).entries

/-- Components in numbers. -/
structure ComponentFigures where
  total : Nat
  /-- In order of first appearance. -/
  byRole : List (Role × Nat)
  byPackage : List (String × Nat)
  beanMethods : Nat
  deriving DecidableEq, Repr

/-- The numbers of a list of components. -/
def Component.figures (components : List Component) : ComponentFigures where
  total := components.length
  byRole := (Table.counts (components.map (·.role))).entries
  byPackage := sortedBy (fun e : String × Nat => e.1)
    (Table.counts (components.map (·.packageName))).entries
  beanMethods := ClassAtlas.total (components.map fun c => c.beanMethods.length)

end ClassAtlas
