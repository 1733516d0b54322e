import ClassAtlas.ClassFile.Header
import ClassAtlas.Metadata.Extract

/-!
# Extraction of a batch

Each record of a batch is read on its own, so a record that cannot be read costs
nothing but itself: it is reported by a diagnostic. Of several records for one
class the first counts. Records may be read one after the other or at once; in
the second case an outcome is kept under the number of its record, so the order
in which they come in does not matter.
-/

namespace ClassAtlas

namespace Batch

/-- Why a record is not part of the result. -/
inductive DiagnosticKind where
  /-- The header is that of no class record. -/
  | parsing
  /-- What follows the header cannot be decoded. -/
  | analysis
  /-- An earlier record holds the class. -/
  | duplicate
  deriving DecidableEq, Repr

/-- The word for a kind in reports. -/
def DiagnosticKind.label : DiagnosticKind → String
  | parsing => "parsing"
  | analysis => "analysis"
  | duplicate => "duplicate"

/-- Why a record of a batch gave no class. -/
structure Diagnostic where
  record : String
  kind : DiagnosticKind
  message : String
  deriving DecidableEq, Repr

/-- What reading one record gives. -/
inductive Outcome where
  | extracted (info : ClassInfo)
  | rejected (diagnostic : Diagnostic)

/-- The message about a record whose header is refused. -/
def noClassRecord : String := "not a class record (short header or bad magic)"

/-- Reads one record. -/
def process (includePrivate : Bool) (r : LabelledRecord) : Outcome :=
  if ClassFile.validate (some r.data) then
    match extractClass r.data includePrivate with
    | .ok info => .extracted info
    | .error (.header cause) => .rejected ⟨r.label, .parsing, cause.message⟩
    | .error (.body cause) => .rejected ⟨r.label, .analysis, cause.message⟩
  else .rejected ⟨r.label, .parsing, noClassRecord⟩

/-- Extraction took too long; `done` records had been read. -/
structure Overtime where
  done : Nat
  total : Nat
  deriving DecidableEq, Repr

/-- Reads records one after the other. `inTime` says of each whether there is still time for it
when its turn comes. -/
def extractInTurn (includePrivate : Bool) (inTime : Nat → Bool) (records : List LabelledRecord) :
    Except Overtime (List Outcome) :=
  match (List.range records.length).find? fun i => !inTime i with
  | some i => .error ⟨i, records.length⟩
  | none => .ok (records.map (process includePrivate))

/-- Keeps outcomes under their numbers, in the order in which they come in. -/
def collect (count : Nat) (arrivals : List (Nat × Outcome)) : List (Option Outcome) :=
  arrivals.foldl (fun slots (i, outcome) => slots.set i (some outcome)) (List.replicate count none)

/-- The outcomes of records that are done in the given order, each with the number of its record. -/
def arrivals (includePrivate : Bool) (order : List Nat) (records : List LabelledRecord) :
    List (Nat × Outcome) :=
  order.filterMap fun i => records[i]?.map fun r => (i, process includePrivate r)

/-- Reads records at once; they are done in the given order. Records that the order leaves out are
not done in time. -/
def extractAtOnce (includePrivate : Bool) (order : List Nat) (records : List LabelledRecord) :
    Except Overtime (List Outcome) :=
  let slots := collect records.length (arrivals includePrivate order records)
  match slots.mapM id with
  | some outcomes => .ok outcomes
  | none => .error ⟨slots.countP Option.isSome, records.length⟩

/-- The classes of a batch and the diagnostics of the records that gave none. -/
structure Merged where
  classes : List ClassInfo
  diagnostics : List Diagnostic

/-- The message about a class that was read before, with the record that held it. -/
def duplicateMessage (name first : String) : String := name ++ " already read from " ++ first

/-- Puts outcomes together in the order of their records. `seen` holds the names read so far, each
with the label of its record. -/
def mergeFrom (seen : List (String × String)) : List (LabelledRecord × Outcome) → Merged
  | [] => ⟨[], []⟩
  | (_, .rejected d) :: rest =>
    let merged := mergeFrom seen rest
    { merged with diagnostics := d :: merged.diagnostics }
  | (r, .extracted info) :: rest =>
    match seen.lookup info.name with
    | some first =>
      let merged := mergeFrom seen rest
      let d : Diagnostic := ⟨r.label, .duplicate, duplicateMessage info.name first⟩
      { merged with diagnostics := d :: merged.diagnostics }
    | none =>
      let merged := mergeFrom ((info.name, r.label) :: seen) rest
      { merged with classes := info :: merged.classes }

/-- Classes and diagnostics of a whole batch, in the order of its records. -/
def merge (records : List LabelledRecord) (outcomes : List Outcome) : Merged :=
  mergeFrom [] (records.zip outcomes)

/-- How a diagnostic is put to the user. -/
def Diagnostic.notice (d : Diagnostic) : String :=
  s!"Skipped {d.record} ({d.kind.label}): {d.message}"

end Batch

end ClassAtlas
