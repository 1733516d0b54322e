import ClassAtlas.Batch.Analysis
import ClassAtlas.Settings.Basic

/-!
# Runs of an analysis under settings

A run judges each setting where it needs it. What a run passes over, and what it
finds wrong with records, it reports by notices.
-/

namespace ClassAtlas

namespace Batch

open ClassAtlas.Flow (ChainLimits DataFlow)

/-- Why a run ends without a result. -/
inductive RunFault where
  /-- The time allowed, as the settings give it, and how far extraction came. -/
  | timedOut (allowed : String) (overtime : Overtime)
  | setting (cause : SettingFault)
  deriving DecidableEq, Repr

/-- The message of a run that took too long. -/
def overtimeMessage (allowed : String) (o : Overtime) : String :=
  s!"extraction exceeded {allowed}s after {o.done} of {o.total} records"

/-- Judges a setting. -/
def judged {α : Type} (x : Except SettingFault α) : Noted RunFault α :=
  Noted.ofExcept (x.mapError .setting)

/-- Whether the time allowed is over before it starts. Without a limit it never is; every other
limit gives time enough. -/
def isOverAtOnce (timeout : Setting) : Except SettingFault Bool :=
  match timeout with
  | .absent => .ok false
  | _ => return !(← timeout.exceeds 0) && !isIncomparable timeout
where
  /-- What is no number is neither greater nor less than any. -/
  isIncomparable : Setting → Bool
  | .real x => x.isNaN
  | _ => false

/-- Whether records are read at once rather than one after the other. -/
def readsAtOnce (workers : Setting) (count : Nat) : Except SettingFault Bool := do
  let several ← workers.exceeds 1
  if !several || count ≤ 1 then return false
  match workers with
  | .real _ => throw .notWhole
  | _ => return true

/-- Extracts all records of a batch. Those that are read at once are done in the given order. -/
def extractAll (s : Settings) (records : List LabelledRecord)
    (order : List Nat := List.range records.length) : Noted RunFault (List Outcome) := do
  let atOnce ← judged (readsAtOnce s.workers records.length)
  let expired ← judged (isOverAtOnce s.timeout)
  let includePrivate := s.includePrivate.isYes
  let outcomes :=
    if atOnce then
      extractAtOnce includePrivate (if expired then [] else order) records
    else extractInTurn includePrivate (fun _ => !expired) records
  Noted.ofExcept (outcomes.mapError (.timedOut s.timeout.numberText))

/-- The names among annotation settings. Other single values name nothing, and lists and tables
cannot stand for a name. -/
def annotationNames (values : List Setting) : Except SettingFault (List String) :=
  match values with
  | [] => .ok []
  | .text s :: rest => (annotationNames rest).map (s :: ·)
  | .list _ :: _ => .error .notName
  | .table _ :: _ => .error .notName
  | _ :: rest => annotationNames rest

/-- Extends a catalog by the annotations of one role. -/
def extendCatalog (catalog : RoleCatalog) (entry : String × List Setting) :
    Noted RunFault RoleCatalog := do
  let names ← judged (match Role.ofLabel? (Text.upper entry.1) with
    | none => .ok []
    | some _ => annotationNames entry.2)
  let (catalog, notices) := catalog.extend entry.1 names
  Noted.noteAll notices
  return catalog

/-- The texts among settings. -/
def textsOf (values : List Setting) : List String :=
  values.filterMap fun v => match v with
    | .text s => some s
    | _ => none

/-- The beginnings of names that stay out of graphs. Each class name is tried against them, and
one that is no text must not be reached. -/
def beginningsFor (s : Settings) (classes : List ClassInfo) : Except SettingFault (List String) := do
  let _ ← classes.mapM fun c => s.isExcluded c.name
  return textsOf s.excludedBeginnings

/-- Analyses a batch. -/
def run (s : Settings) (records : List LabelledRecord)
    (order : List Nat := List.range records.length) : Noted RunFault Analysis := do
  let outcomes ← extractAll s records order
  let merged := merge records outcomes
  Noted.noteAll (merged.diagnostics.map Diagnostic.notice)
  let catalog ← s.extraAnnotations.entries.foldlM extendCatalog RoleCatalog.default
  let beginnings ← judged (beginningsFor s merged.classes)
  return .ofMerged ⟨beginnings, catalog⟩ merged

/-- The limit on the length of call chains. A limit between zero and one lets nothing through. -/
def depthLimit (depth : Setting) : Except SettingFault (Option Int) :=
  match depth with
  | .absent => .ok (some Flow.defaultDepth)
  | _ => do if ← depth.fallsBelow 1 then return some 0 else depth.reachedAt

/-- The data flow of a batch. The cap on call chains is judged only once a chain is found. -/
def runFlow (s : Settings) (depth : Setting) (analysis : Analysis) : Noted RunFault DataFlow := do
  let depth ← judged (depthLimit (match depth with
    | .absent => s.maxCallDepth
    | _ => depth))
  let cap ← (match s.maxChains with
    | .absent => pure none
    | cap =>
      match cap.reachedAt with
      | .ok cap => pure cap
      | .error fault =>
        if (Flow.callChains analysis.classes ⟨depth, some 0⟩).chains.isEmpty then pure none
        else throw (.setting fault))
  let (flow, notices) := analysis.flow ⟨depth, cap⟩
  Noted.noteAll notices
  return flow

end Batch

end ClassAtlas
