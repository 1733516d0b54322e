import ClassAtlas.ClassFile.Cursor
import ClassAtlas.Text.Split

/-!
# File trees

A tree of directories and files as a value. Places in it are named by the parts
of an absolute path. A place is taken as written: `..` is followed when the place
is looked up, so every directory in front of it has to exist.
-/

namespace ClassAtlas

open ClassAtlas.ClassFile (Bytes)

/-- A file with its bytes, or a directory with its entries by name. -/
inductive FileTree where
  | file (data : Bytes)
  | directory (entries : List (String × FileTree))
  deriving Repr, Inhabited

/-- The parts of an absolute path. -/
abbrev Place := List String

namespace Place

/-- The parts of a path that say something. -/
def partsOf (path : String) : List String :=
  (Text.splitAll '/' path).filter fun part => part ≠ "" ∧ part ≠ "."

/-- The place that a path names, seen from a directory. An absolute path starts anew. -/
def join (base : Place) (path : String) : Place :=
  if Text.startsWith path "/" then partsOf path else base ++ partsOf path

/-- A place as it is written. -/
def text (p : Place) : String := "/" ++ String.intercalate "/" p

/-- The name at the end, empty for the root. -/
def name (p : Place) : String := p.getLastD ""

/-- The directory of a place. -/
def parent (p : Place) : Place := p.dropLast

/-- Takes every `..` back by one part. -/
def resolve (p : Place) : Place :=
  p.foldl (fun done part => if part = ".." then done.dropLast else done ++ [part]) []

/-- The ending of a file name from its last dot on. A dot in first or last place begins no
ending. -/
def ending (name : String) : String :=
  match Text.splitLast? '.' name with
  | some (stem, rest) => if stem = "" ∨ rest = "" then "" else "." ++ rest
  | none => ""

/-- The way from a directory to a place below it, as written. -/
def below? (base p : Place) : Option (List String) :=
  if base.isPrefixOf p then some (p.drop base.length) else none

end Place

namespace FileTree

/-- Whether the top of the tree is a file. -/
def isFile : FileTree → Bool
  | file _ => true
  | directory _ => false

/-- Whether the top of the tree is a directory. -/
def isDirectory (t : FileTree) : Bool := !t.isFile

/-- The entry of a directory by name. -/
def child? (t : FileTree) (name : String) : Option FileTree :=
  match t with
  | file _ => none
  | directory entries => entries.lookup name

/-- Follows parts of a path from the innermost of a stack of directories. Above the root is the
root. -/
def follow : (above : List FileTree) → FileTree → List String → Option FileTree
  | _, t, [] => some t
  | above, t, part :: rest =>
    if t.isFile then none
    else if part = ".." then
      match above with
      | [] => follow [] t rest
      | parent :: above => follow above parent rest
    else
      match t.child? part with
      | none => none
      | some inner => follow (t :: above) inner rest

/-- What is at a place. -/
def find? (root : FileTree) (p : Place) : Option FileTree := follow [] root p

/-- Whether a file is at the place. -/
def hasFile (root : FileTree) (p : Place) : Bool := (root.find? p).any isFile

/-- Whether a directory is at the place. -/
def hasDirectory (root : FileTree) (p : Place) : Bool := (root.find? p).any isDirectory

/-- The content of the file at a place. -/
def content? (root : FileTree) (p : Place) : Option Bytes :=
  match root.find? p with
  | some (file data) => some data
  | _ => none

mutual

/-- All files of a tree, each with its way from the top. -/
def files (way : List String) : FileTree → List (List String × Bytes)
  | file data => [(way, data)]
  | directory entries => filesOf way entries

/-- The files below the entries of a directory that is reached by `way`. -/
def filesOf (way : List String) : List (String × FileTree) → List (List String × Bytes)
  | [] => []
  | (name, t) :: rest => files (way ++ [name]) t ++ filesOf way rest

end

/-- Puts an entry in the place of one of the same name, or behind all others. -/
def putEntry (name : String) (t : FileTree) : List (String × FileTree) → List (String × FileTree)
  | [] => [(name, t)]
  | e :: rest => if e.1 = name then (name, t) :: rest else e :: putEntry name t rest

/-- Puts a tree at a place without `..`; directories missing on the way are created. Nothing can
be put below a file. -/
def put? (new : FileTree) : Place → FileTree → Option FileTree
  | [], _ => some new
  | _ :: _, file _ => none
  | part :: rest, directory entries =>
    let inner := (entries.lookup part).getD (directory [])
    (put? new rest inner).map fun inner => directory (putEntry part inner entries)

end FileTree

/-- Why a file cannot be written. -/
inductive WriteFault where
  /-- The directory to write to is a file. -/
  | parentIsFile
  /-- Something above the directory to write to is a file. -/
  | aboveIsFile
  | isDirectory
  deriving DecidableEq, Repr

/-- Writes a file; directories missing on the way are created. -/
def FileTree.write (root : FileTree) (p : Place) (data : Bytes) : Except WriteFault FileTree :=
  let target := p.resolve
  let isFileUpTo (n : Nat) : Bool := root.hasFile (Place.resolve (p.take n))
  if (List.range (p.length - 1)).any isFileUpTo then .error .aboveIsFile
  else if isFileUpTo (p.length - 1) then .error .parentIsFile
  else if root.hasDirectory target then .error .isDirectory
  else
    match FileTree.put? (.file data) target root with
    | some root => .ok root
    | none => .error .aboveIsFile

end ClassAtlas
