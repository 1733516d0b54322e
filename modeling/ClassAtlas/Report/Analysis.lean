import ClassAtlas.Batch.Analysis
import ClassAtlas.Report.Sections

/-!
# The report of an analysis

All sections in their order. The data flow comes last and only if it was computed.
-/

namespace ClassAtlas.Report

open ClassAtlas.Batch (Analysis Diagnostic)
open ClassAtlas.Flow (DataFlow)

/-- A diagnostic in a report. -/
def diagnosticDocument (d : Diagnostic) : Document := .object [
  ("record", .text d.record),
  ("kind", .text d.kind.label),
  ("message", .text d.message)]

/-- The whole report. Data flow is a part of it if it was asked for. -/
def analysisDocument (a : Analysis) (flow : Option DataFlow) : Document := .object ([
  ("classes", .list (a.classes.map classDocument)),
  ("dependencyGraph", dependencyDocument a.dependencies),
  ("packageGraph", textTable a.packages),
  ("callGraph", callGraphDocument a.calls),
  ("entryPoints", .texts (a.entryPoints.map CataloguedMethod.id)),
  ("components", .list (a.components.map componentDocument)),
  ("entities", .list (a.entities.map componentDocument)),
  ("repositories", .list (a.repositories.map componentDocument)),
  ("configurations", .list (a.configurations.map componentDocument)),
  ("beans", .list (a.beans.map beanDocument)),
  ("componentDependencies", textTable a.wiring),
  ("endpoints", .list (a.endpoints.map endpointDocument)),
  ("diagnostics", .list (a.diagnostics.map diagnosticDocument)),
  ("metrics", metricsDocument a.metrics)] ++
  (flow.map fun f => ("dataFlow", flowDocument f)).toList)

end ClassAtlas.Report
