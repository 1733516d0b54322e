import ClassAtlas.Project.Tree
import ClassAtlas.Settings.Basic
import ClassAtlas.Toml.Document

/-!
# Settings files of a project

Settings come from a file of their own in the project directory or else from a
table of the file that describes the project. A file that cannot be used is
passed over with a notice.
-/

namespace ClassAtlas

/-- The bytes of a file are no text. -/
inductive EncodingFault where
  | notUtf8
  deriving DecidableEq, Repr

namespace Settings

/-- The notice about a settings file that cannot be used. -/
def unreadableNotice (source : String) : String := "Could not read " ++ source

/-- The root table of a settings file. `none` if the file cannot be read as one. -/
def readFile (root : FileTree) (p : Place) : Except EncodingFault (Option Toml.Entries) :=
  match root.content? p with
  | none => .ok none
  | some data =>
    match Text.ofUtf8? data with
    | none => .error .notUtf8
    | some source => .ok (Toml.parse? source)

/-- The settings that a root table gives, starting from others. `choose` picks the table with
settings and may find that there is none; then the result is `none`. A missing root table is a
fault. -/
def fromRoot (initial : Settings) (source : String)
    (choose : Toml.Entries → Except SettingFault (Option Setting)) :
    Option Toml.Entries → Noted SettingFault (Option Settings)
  | none => throw .notTable
  | some entries => do
    match ← Noted.ofExcept (choose entries) with
    | none => return none
    | some table => return some (← initial.applyTable source (← Noted.ofExcept table.entries))

/-- The settings that a file gives, if it gives any. A file that cannot be used is noticed. -/
def fromFile (initial : Settings) (root : FileTree) (p : Place)
    (choose : Toml.Entries → Except SettingFault (Option Setting)) :
    Noted EncodingFault (Option Settings) := do
  if (root.find? p).isNone then return none
  let content ← Noted.ofExcept (readFile root p)
  match ← (fromRoot initial p.text choose content).attempt with
  | .ok settings => return settings
  | .error _ =>
    Noted.note (unreadableNotice p.text)
    return none

/-- The table of the file for settings alone; without it the file gives no settings, which is not
the same as no file. -/
def ownTable (entries : Toml.Entries) : Except SettingFault (Option Setting) :=
  .ok (some ((entries.lookup "classlens").getD (.table [])))

/-- The table of the file that describes the project. -/
def toolTable (entries : Toml.Entries) : Except SettingFault (Option Setting) := do
  let tools ← ((entries.lookup "tool").getD (.table [])).entries
  return tools.lookup "classlens"

/-- The settings for a project directory. -/
def load (initial : Settings) (root : FileTree) (directory : Place) :
    Noted EncodingFault Settings := do
  match ← fromFile initial root (directory ++ [".classlens.toml"]) ownTable with
  | some settings => return settings
  | none =>
    match ← fromFile initial root (directory ++ ["pyproject.toml"]) toolTable with
    | some settings => return settings
    | none => return initial

end Settings

end ClassAtlas
