import ClassAtlas.Batch.Run
import ClassAtlas.CommandLine.Arguments
import ClassAtlas.Project.Layout
import ClassAtlas.Report.Analysis
import ClassAtlas.Settings.Load

/-!
# The program

Finds the class files of a project, analyses them under the project's settings
and writes the report. The file system is a value here: the program reads a tree
and names the one file it would write.
-/

namespace ClassAtlas.CommandLine

open ClassAtlas.ClassFile (Bytes)

/-- Why the program breaks off. -/
inductive Failure where
  | encoding
  | layout (cause : LayoutFault)
  | setting (cause : SettingFault)
  | write (cause : WriteFault)
  deriving DecidableEq, Repr

namespace Failure

/-- What is said when the program breaks off. -/
def message : Failure → String
  | encoding => "a settings file is not UTF-8 text"
  | layout .malformedXml => "the project description is not well-formed"
  | layout .unknownEncoding => "the project description has an unknown encoding"
  | layout .notUtf8 => "the settings script is not UTF-8 text"
  | layout .namelessModule => "the project description lists a module without a name"
  | setting _ => "a setting has a value that cannot be used"
  | write .parentIsFile => "the directory for the report is a file"
  | write .aboveIsFile => "the path of the report leads through a file"
  | write .isDirectory => "the report would replace a directory"

end Failure

/-- How the program ends. -/
structure Completion where
  exitCode : Nat
  /-- The report and where it goes, if there is one. -/
  report : Option (Place × String)
  /-- The tree with the report in it. -/
  tree : FileTree

/-- Where the report goes if the command line does not say. -/
def defaultOutput : String := "classlens.json"

/-- The notice that there is nothing to analyse. -/
def nothingFoundNotice (p : Place) : String := "No class files found under " ++ p.text

/-- The notice that extraction took too long. -/
def timedOutNotice (message : String) : String := "Analysis timed out: " ++ message

/-- The settings that the command line gives. -/
def Arguments.overrides (a : Arguments) : List (String × Setting) := [
  ("workers", (a.workers.map Setting.integer).getD .absent),
  ("max_call_depth", (a.maxDepth.map Setting.integer).getD .absent),
  ("timeout", (a.timeout.map Setting.real).getD .absent)]

/-- What a text is as bytes. -/
def bytesOf (text : String) : Bytes := text.toUTF8.toList

/-- The settings for a project, changed by the command line. -/
def settingsFor (root : FileTree) (processors : Option Nat) (project : Place) (a : Arguments) :
    Noted Failure Settings := do
  let settings ← ((Settings.default processors).load root project).mapFault fun _ => Failure.encoding
  Noted.ofExcept ((settings.override a.overrides).mapError .setting)

/-- The analysis of the class files and their data flow. `none` if the time allowed is over. -/
def analyzeFiles (root : FileTree) (project : Place) (settings : Settings) (files : List Place) :
    Noted Failure (Option Document) := do
  match ← (Batch.run settings (Layout.readRecords root (some project) files)).attempt with
  | .error (.timedOut allowed overtime) =>
    Noted.note (timedOutNotice (Batch.overtimeMessage allowed overtime))
    return none
  | .error (.setting cause) => throw (.setting cause)
  | .ok analysis =>
    match ← (Batch.runFlow settings .absent analysis).attempt with
    | .ok flow => return some (Report.analysisDocument analysis (some flow))
    | .error (.setting cause) => throw (.setting cause)
    | .error (.timedOut _ _) => return none

/-- Runs the program in a working directory. -/
def run (root : FileTree) (cwd : Place) (processors : Option Nat) (a : Arguments) :
    Noted Failure Completion := do
  let place := (Place.join cwd a.path).resolve
  let project := if root.hasDirectory place then place else place.parent
  let settings ← settingsFor root processors project a
  let files ← Noted.ofExcept ((Layout.classFiles root place).mapError .layout)
  if files.isEmpty then
    Noted.note (nothingFoundNotice place)
    return ⟨1, none, root⟩
  match ← analyzeFiles root project settings files with
  | none => return ⟨1, none, root⟩
  | some document =>
    let text := document.render
    let target := Place.join cwd (a.output.getD defaultOutput)
    let tree ← Noted.ofExcept ((root.write target (bytesOf text)).mapError .write)
    return ⟨0, some (target, text), tree⟩

/-! ## What the program says about itself -/

/-- How the program is called, in short. -/
def usage : String :=
  "usage: classlens [-h] [-o OUTPUT] [--workers WORKERS] [--max-depth MAX_CALL_DEPTH]\n" ++
  "                 [--timeout TIMEOUT] [-v]\n" ++
  "                 path\n"

/-- The answer to a call for help. -/
def helpText : String :=
  usage ++
  "\nStructural analysis of compiled JVM classes: dependencies, call graph, data\n" ++
  "flow and components.\n" ++
  "\npositional arguments:\n" ++
  "  path                  A .class file, a directory of class files, or a\n" ++
  "                        Maven/Gradle project\n" ++
  "\noptions:\n" ++
  "  -h, --help            show this help message and exit\n" ++
  "  -o OUTPUT, --output OUTPUT\n" ++
  "                        Output JSON file path (default: classlens.json)\n" ++
  "  --workers WORKERS     Worker processes for extraction (1 runs inline)\n" ++
  "  --max-depth MAX_CALL_DEPTH\n" ++
  "                        Maximum call-chain length for the data-flow analysis\n" ++
  "                        (default: 5)\n" ++
  "  --timeout TIMEOUT     Seconds allowed for the extraction stage\n" ++
  "  -v, --verbose         Enable verbose (debug) output\n"

/-- The answer to a command line that is refused. -/
def usageMessage (fault : UsageFault) : String :=
  usage ++ "classlens: error: " ++ fault.message ++ "\n"

/-- The exit code of a command line that asks for nothing that can be run. -/
def Halt.exitCode : Halt → Nat
  | .help => 0
  | .usage _ => 2

end ClassAtlas.CommandLine
