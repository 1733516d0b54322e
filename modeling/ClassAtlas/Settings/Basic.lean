import ClassAtlas.Graph.Dependency
import ClassAtlas.Notices
import ClassAtlas.Settings.Value
import ClassAtlas.Text.Case
import ClassAtlas.Text.Quoted

/-!
# Settings of an analysis

Settings start from defaults that depend on the machine, are changed by a table
of a settings file and then by the command line. A key of the table that names no
setting is passed over with a notice.
-/

namespace ClassAtlas

/-- The settings by name. -/
inductive SettingName where
  | workers
  | timeout
  | maxCallDepth
  | maxChains
  | includePrivate
  | excludedBeginnings
  | extraAnnotations
  deriving DecidableEq, Repr

namespace SettingName

/-- The settings in the order of their declaration. -/
def all : List SettingName :=
  [workers, timeout, maxCallDepth, maxChains, includePrivate, excludedBeginnings, extraAnnotations]

/-- The name of a setting in a settings file. -/
def key : SettingName → String
  | workers => "workers"
  | timeout => "timeout"
  | maxCallDepth => "max_call_depth"
  | maxChains => "max_chains"
  | includePrivate => "include_private_methods"
  | excludedBeginnings => "exclude_prefixes"
  | extraAnnotations => "extra_annotations"

/-- The setting with exactly the name. -/
def ofKey? (key : String) : Option SettingName := all.find? fun name => name.key = key

/-- In a settings file a hyphen may stand for an underscore. -/
def ofFileKey? (key : String) : Option SettingName :=
  ofKey? (String.ofList (key.toList.map fun c => if c = '-' then '_' else c))

end SettingName

/-- Settings, not yet judged. -/
structure Settings where
  /-- How many records may be extracted at once. -/
  workers : Setting
  /-- Seconds allowed for extraction; absent for no limit. -/
  timeout : Setting := .absent
  /-- The greatest number of methods in a call chain. -/
  maxCallDepth : Setting := .integer 5
  /-- The number of call chains at which the search stops; absent for no cap. -/
  maxChains : Setting := .integer 10000
  includePrivate : Setting := .boolean true
  /-- Classes whose name has one of these beginnings stay out of graphs. -/
  excludedBeginnings : List Setting := Graph.platformPrefixes.map .text
  /-- Further annotations that assign a role, by role. -/
  extraAnnotations : Table String (List Setting) := ∅

namespace Settings

/-- The settings of a machine with the given number of processors, if it is known. -/
def default (processors : Option Nat) : Settings where
  workers := .integer (min 8 (max 1 (processors.getD 1)))

/-- Annotation names by role, the role in upper case. Of two spellings of a role the later counts. -/
def readAnnotations (value : Setting) : Except SettingFault (Table String (List Setting)) := do
  let entries ← value.entries
  let entries ← entries.mapM fun (role, names) => return (Text.upper role, ← names.items)
  return Table.ofList entries

/-- Gives a setting a value. -/
def assign (s : Settings) (name : SettingName) (value : Setting) : Except SettingFault Settings :=
  match name with
  | .workers => .ok { s with workers := value }
  | .timeout => .ok { s with timeout := value }
  | .maxCallDepth => .ok { s with maxCallDepth := value }
  | .maxChains => .ok { s with maxChains := value }
  | .includePrivate => .ok { s with includePrivate := value }
  | .excludedBeginnings => value.items.map fun items => { s with excludedBeginnings := items }
  | .extraAnnotations => (readAnnotations value).map fun t => { s with extraAnnotations := t }

/-- The notice about a key that names no setting. -/
def unknownKeyNotice (key source : String) : String :=
  "Ignoring unknown setting " ++ Text.quoted key ++ " in " ++ source

/-- Changes settings by one pair of a table. -/
def assignEntry (source : String) (s : Settings) (entry : String × Setting) :
    Noted SettingFault Settings :=
  match SettingName.ofFileKey? entry.1 with
  | none => do
    Noted.note (unknownKeyNotice entry.1 source)
    return s
  | some name => Noted.ofExcept (s.assign name entry.2)

/-- Changes settings by a table that was found in `source`. -/
def applyTable (s : Settings) (source : String) (entries : List (String × Setting)) :
    Noted SettingFault Settings :=
  entries.foldlM (assignEntry source) s

/-- Overrides that give a value; the others say nothing. -/
def effective (overrides : List (String × Setting)) : List (String × Setting) :=
  overrides.filter fun e => match e.2 with
    | .absent => false
    | _ => true

/-- Changes settings by overrides, which are named exactly. -/
def override (s : Settings) (overrides : List (String × Setting)) : Except SettingFault Settings :=
  (effective overrides).foldlM (fun s (key, value) =>
    match SettingName.ofKey? key with
    | none => .error (.unknownName key)
    | some name => s.assign name value) s

/-- Whether a name has one of the beginnings. They are tried in turn, and one that is no text
cannot be tried. -/
def hasBeginning (beginnings : List Setting) (name : String) : Except SettingFault Bool :=
  match beginnings with
  | [] => .ok false
  | .text s :: rest => if Text.startsWith name s then .ok true else hasBeginning rest name
  | _ :: _ => .error .notText

/-- Whether a class stays out of graphs. -/
def isExcluded (s : Settings) (name : String) : Except SettingFault Bool :=
  hasBeginning s.excludedBeginnings name

end Settings

end ClassAtlas
