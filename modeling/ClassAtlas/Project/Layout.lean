import ClassAtlas.Metadata.Basic
import ClassAtlas.Order.Ascending
import ClassAtlas.Project.Tree
import ClassAtlas.Text.CharClass
import ClassAtlas.Xml.Document

/-!
# Class files of a project

Build tools put compiled classes in well-known directories. The modules of a
Maven project and the subprojects of a Gradle project are read from the files
that name them; without compiled output in the known places a directory is
searched as a whole.
-/

namespace ClassAtlas

open ClassAtlas.Text (isBlank isWordChar)

/-- Why the class files of a project cannot be found. -/
inductive LayoutFault where
  | malformedXml
  | unknownEncoding
  | notUtf8
  /-- A module is listed without a name. -/
  | namelessModule
  deriving DecidableEq, Repr

namespace Layout

/-! ## Maven modules -/

/-- The modules that a project description lists; a module may lack a name. -/
def modulesOf (description : Xml.Element) : List (Option String) :=
  (description.childrenNamed "modules").flatMap fun modules =>
    (modules.childrenNamed "module").map fun m =>
      m.text.map fun s => String.ofList (Text.trimmedBy isBlank s.toList)

/-- The modules of a Maven project. A description in an unsupported encoding lists none. -/
def mavenModules (root : FileTree) (project : Place) :
    Except LayoutFault (List (Option String)) :=
  match root.content? (project ++ ["pom.xml"]) with
  | none => .ok []
  | some data =>
    match Xml.parse data with
    | .ok description => .ok (modulesOf description)
    | .error .malformed => .error .malformedXml
    | .error .unknownEncoding => .error .unknownEncoding
    | .error .unsupportedEncoding => .ok []

/-! ## Gradle subprojects -/

/-- What follows the word `include` at the start of a line. -/
def includeStatement? (line : List Char) : Option (List Char) :=
  let cs := line.dropWhile isBlank
  let rest := cs.drop 7
  if "include".toList.isPrefixOf cs ∧ !(rest.head?.any isWordChar) then some rest else none

/-- Quotes around a module name in a build script. -/
def isQuote (c : Char) : Bool := c == '"' || c == '\''

/-- The parts of a statement that stand between two quotes, of either kind. The flag says whether
a quote opens the text at hand, which is collected in reverse. -/
def quotedParts : (opened : Bool) → (part : List Char) → List Char → List (List Char)
  | _, _, [] => []
  | opened, part, c :: rest =>
    if !isQuote c then quotedParts opened (c :: part) rest
    else if opened && !part.isEmpty then part.reverse :: quotedParts false [] rest
    else quotedParts true [] rest

/-- The directory of a subproject. -/
def subprojectPath (name : List Char) : String :=
  String.ofList ((name.dropWhile (· == ':')).map fun c => if c = ':' then '/' else c)

/-- The subprojects that a settings script includes. -/
def subprojectsOf (script : String) : List String :=
  let lines := Text.splitChars '\n' (Text.unifyLineBreaks script.toList)
  ((lines.filterMap includeStatement?).flatMap (quotedParts false [])).map subprojectPath

/-- The subprojects of a Gradle project. Of two settings scripts the first one counts. -/
def gradleSubprojects (root : FileTree) (project : Place) : Except LayoutFault (List String) :=
  match ["settings.gradle.kts", "settings.gradle"].findSome? fun name =>
      root.content? (project ++ [name]) with
  | none => .ok []
  | some data =>
    match Text.ofUtf8? data with
    | none => .error .notUtf8
    | some script => .ok (subprojectsOf script)

/-! ## Class files -/

/-- Where Maven puts the classes of a module. -/
def mavenOutput : List String := ["target", "classes"]

/-- Where Gradle puts the classes of a module. -/
def gradleOutput : List String := ["build", "classes", "java", "main"]

/-- The output directories that exist among those of several projects. -/
def existingOutputs (root : FileTree) (output : List String) (projects : List Place) : List Place :=
  (projects.map (· ++ output)).filter root.hasDirectory

/-- The directories with the compiled classes of a project: those of modules before that of the
project itself, and Maven before Gradle. -/
def outputDirectories (root : FileTree) (project : Place) : Except LayoutFault (List Place) := do
  let modules ← (← mavenModules root project).mapM fun name =>
    match name with
    | none => throw .namelessModule
    | some name => pure (Place.join project name)
  let subprojects := (← gradleSubprojects root project).map (Place.join project)
  let candidates := [
    existingOutputs root mavenOutput modules,
    existingOutputs root mavenOutput [project],
    existingOutputs root gradleOutput subprojects,
    existingOutputs root gradleOutput [project]]
  return (candidates.find? fun dirs => !dirs.isEmpty).getD []

/-- The ending of class files. -/
def classEnding : String := ".class"

/-- The class files below a directory, module descriptors apart. -/
def classFilesBelow (root : FileTree) (directory : Place) : List Place :=
  match root.find? directory with
  | none => []
  | some t =>
    ((t.files []).map fun f => directory ++ f.1).filter fun p =>
      classEnding.toList.isSuffixOf p.name.toList ∧ p.name ≠ "module-info.class"

/-- The class files of a project, a directory or a single file, in ascending order. -/
def classFiles (root : FileTree) (p : Place) : Except LayoutFault (List Place) := do
  if root.hasFile p then return if Place.ending p.name = classEnding then [p] else []
  if !root.hasDirectory p then return []
  let outputs ← outputDirectories root p
  return ascending ((if outputs.isEmpty then [p] else outputs).flatMap (classFilesBelow root))

/-- What a file is called in messages: its way from the base directory, if it lies below that. -/
def labelOf (root : FileTree) (base : Option Place) (p : Place) : String :=
  match base with
  | none => p.text
  | some b =>
    if root.hasDirectory b then
      match Place.below? b p with
      | some way => String.intercalate "/" way
      | none => p.text
    else p.text

/-- The records that files hold. -/
def readRecords (root : FileTree) (base : Option Place) (files : List Place) : List LabelledRecord :=
  files.filterMap fun p => (root.content? p).map fun data => ⟨labelOf root base p, data⟩

end Layout

end ClassAtlas
