import ClassAtlas.CommandLine.Run

/-!
# The command line

Reads the part of the file system that the program looks at, runs the program on
it and carries out what it decides.
-/

namespace ClassAtlas.CommandLine

/-- Files other than class files whose content is looked at. -/
def describingFiles : List String :=
  [".classlens.toml", "pyproject.toml", "pom.xml", "settings.gradle.kts", "settings.gradle"]

/-- Whether the content of a file is looked at. -/
def isRead (name : String) : Bool :=
  describingFiles.contains name || Layout.classEnding.toList.isSuffixOf name.toList

/-- Reads what is at a path. Links to directories are not followed. -/
partial def readTree (path : String) : IO (Option FileTree) := do
  let here := (← IO.currentDir) / path
  if !(← here.pathExists) then return none
  if ← here.isDir then
    let mut entries : List (String × FileTree) := []
    for entry in ← here.readDir do
      let isLink := (← entry.path.symlinkMetadata).type matches .symlink
      if !(isLink && (← entry.path.isDir)) then
        if let some t ← readTree entry.path.toString then
          entries := (entry.fileName, t) :: entries
    return some (.directory entries)
  else if isRead (here.fileName.getD "") then
    return some (.file (← IO.FS.readBinFile here).toList)
  else return some (.file [])

/-- Adds what is at a place to a tree. -/
def addPlace (root : FileTree) (p : Place) : IO FileTree := do
  match ← readTree p.text with
  | some t => return (FileTree.put? t p root).getD root
  | none => return root

/-- Directories of modules that do not lie below the project. -/
def outsideModules (root : FileTree) (project : Place) : List Place :=
  let names :=
    (((Layout.mavenModules root project).toOption.getD []).filterMap id).map (·, Layout.mavenOutput) ++
      ((Layout.gradleSubprojects root project).toOption.getD []).map (·, Layout.gradleOutput)
  (names.map fun (name, output) => (Place.join project name ++ output).resolve).filter fun p =>
    !project.isPrefixOf p

/-- Reads all that the program looks at for a path. -/
def readWorld (cwd : Place) (path : String) : IO FileTree := do
  let place := (Place.join cwd path).resolve
  let root ← addPlace (.directory []) place
  if root.hasDirectory place then
    let mut root := root
    for p in outsideModules root place do
      root ← addPlace root p
    return root
  else
    let mut root := (FileTree.put? (.directory []) place.parent (.directory [])).getD root
    for name in place.name :: describingFiles do
      root ← addPlace root (place.parent ++ [name])
    return root

/-- Runs the program and carries out what it decides. -/
def carryOut (a : Arguments) : IO UInt32 := do
  let cwd := Place.partsOf (← IO.currentDir).toString
  let root ← readWorld cwd a.path
  let (outcome, notices) := (run root cwd none a).results
  for notice in notices do
    IO.eprintln notice
  match outcome with
  | .error failure =>
    IO.eprintln failure.message
    return 1
  | .ok completion =>
    if let some (target, text) := completion.report then
      IO.FS.createDirAll target.parent.text
      IO.FS.writeFile target.text text
    return UInt32.ofNat completion.exitCode

end ClassAtlas.CommandLine

open ClassAtlas.CommandLine in
/-- The program on its command-line arguments. -/
def main (arguments : List String) : IO UInt32 := do
  match parse arguments with
  | .ok a => carryOut a
  | .error halt =>
    match halt with
    | .help => IO.print helpText
    | .usage fault => IO.eprint (usageMessage fault)
    return UInt32.ofNat halt.exitCode
