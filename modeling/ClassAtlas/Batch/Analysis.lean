import ClassAtlas.Batch.Extraction
import ClassAtlas.Component.Detect
import ClassAtlas.Endpoint.Detect
import ClassAtlas.Flow.Basic
import ClassAtlas.Graph.Metrics

/-!
# Analysis of a batch

Everything that follows from the classes of a batch. The data flow is left to a
step of its own, because call chains can be many.
-/

namespace ClassAtlas

namespace Batch

open ClassAtlas.Graph (DependencyGraph CallGraph Metrics)
open ClassAtlas.Flow (ChainLimits DataFlow)

/-- What the analysis of a batch depends on beside its records. -/
structure Options where
  /-- Classes whose name has one of these beginnings stay out of graphs. -/
  beginnings : List String
  catalog : RoleCatalog

/-- What is known about a batch. -/
structure Analysis where
  classes : List ClassInfo
  diagnostics : List Diagnostic
  dependencies : DependencyGraph
  packages : List (String × List String)
  metrics : Metrics
  calls : CallGraph
  entryPoints : List CataloguedMethod
  components : List Component
  entities : List Component
  repositories : List Component
  configurations : List Component
  beans : List Bean
  wiring : List (String × List String)
  endpoints : List Endpoint

/-- The analysis of classes that have been merged. -/
def Analysis.ofMerged (options : Options) (merged : Merged) : Analysis :=
  let classes := merged.classes
  let graph := DependencyGraph.build options.beginnings classes
  { classes := classes
    diagnostics := merged.diagnostics
    dependencies := graph
    packages := graph.packageGraph
    metrics := graph.metrics
    calls := CallGraph.build classes
    entryPoints := ClassAtlas.entryPoints routeAnnotations classes
    components := options.catalog.components classes
    entities := options.catalog.entities classes
    repositories := options.catalog.repositories classes
    configurations := options.catalog.configurations classes
    beans := options.catalog.beans classes
    wiring := options.catalog.wiring classes
    endpoints := Endpoint.detect routeAnnotations classes }

/-- The data flow of a batch and the notices of the search for call chains. -/
def Analysis.flow (analysis : Analysis) (limits : ChainLimits) : DataFlow × List String :=
  let report := Flow.callChains analysis.classes limits
  (Flow.analyzeFlow analysis.classes report.chains, report.notices)

end Batch

end ClassAtlas
