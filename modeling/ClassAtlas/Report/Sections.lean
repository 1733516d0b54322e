import ClassAtlas.ClassFile.Header
import ClassAtlas.Component.Detect
import ClassAtlas.Endpoint.Detect
import ClassAtlas.Flow.Basic
import ClassAtlas.Graph.Metrics
import ClassAtlas.Report.Document

/-!
# Sections of a report

How each kind of finding is laid out. Field names and their order are part of
the format. Some fields are left out when they say nothing.
-/

namespace ClassAtlas.Report

open ClassAtlas.Graph (DependencyGraph CallGraph Metrics)
open ClassAtlas.Flow (DataFlow)

/-- Texts under ascending or otherwise ordered keys. -/
def textTable (entries : List (String × List String)) : Document :=
  .object (entries.map fun (key, xs) => (key, .texts xs))

/-- A field in a report. -/
def fieldDocument (f : FieldInfo) : Document := .object [
  ("fieldName", .text f.name),
  ("type", .text f.type),
  ("accessModifiers", .texts f.modifiers),
  ("annotations", .texts f.annotations),
  ("static", .bool f.isStatic),
  ("final", .bool f.isFinal)]

/-- A parameter in a report. -/
def parameterDocument (p : Parameter) : Document := .object [
  ("name", .text p.name),
  ("type", .text p.type),
  ("index", .integer p.index)]

/-- A call in a report; the line is null if it is not known. -/
def callDocument (c : MethodCall) : Document := .object [
  ("ownerClass", .text c.owner),
  ("methodName", .text c.name),
  ("lineNumber", (c.line.map Document.integer).getD .null)]

/-- A method in a report. -/
def methodDocument (m : MethodInfo) : Document := .object ([
  ("methodName", .text m.name),
  ("accessModifiers", .texts m.modifiers),
  ("returnType", .text m.returnType),
  ("parameters", .list (m.parameters.map parameterDocument)),
  ("invocations", .list (m.calls.map callDocument)),
  ("annotations", .texts m.annotations),
  ("static", .bool m.isStatic)] ++
  (if m.exceptions.isEmpty then [] else [("exceptions", .texts m.exceptions)]) ++
  (if m.isAbstract then [("abstract", .bool true)] else []))

/-- A class in a report. -/
def classDocument (c : ClassInfo) : Document := .object ([
  ("className", .text c.simpleName),
  ("packageName", .text c.packageName),
  ("fullyQualifiedName", .text c.name),
  ("classType", .text c.kind.label),
  ("superClassName", .optionalText c.superclass),
  ("interfaces", .texts c.interfaces),
  ("annotations", .texts c.annotations),
  ("accessModifiers", .texts c.modifiers),
  ("fields", .list (c.fields.map fieldDocument)),
  ("methods", .list (c.methods.map methodDocument)),
  ("platformVersion", .text (ClassFile.platform c.major))] ++
  (c.sourceFile.map fun s => ("sourceFile", Document.text s)).toList)

/-- The dependency graph in a report. -/
def dependencyDocument (g : DependencyGraph) : Document := .object [
  ("nodes", .texts g.nodes),
  ("edges", .list (g.edges.map fun e => .object [
    ("source", .text e.source),
    ("target", .text e.target),
    ("reason", .text e.reason.label)])),
  ("inheritanceDepth", .object (g.depths.map fun (name, depth) => (name, .integer depth))),
  ("cycles", .list (g.cycles.map .texts)),
  ("circularDependencies", .integer g.circularCount)]

/-- The call graph in a report. Callers follow from the callees and are left out. -/
def callGraphDocument (g : CallGraph) : Document := .object [
  ("methods", .texts g.methods),
  ("calls", textTable g.outgoing)]

/-- A component in a report. -/
def componentDocument (c : Component) : Document := .object [
  ("className", .text c.className),
  ("packageName", .text c.packageName),
  ("fullyQualifiedName", .text c.name),
  ("componentType", .text c.role.label),
  ("evidence", .texts c.evidence),
  ("injectedDependencies", .texts c.injected),
  ("beanMethods", .texts c.beanMethods),
  ("exposedMethods", .texts c.exposedMethods)]

/-- A bean in a report. -/
def beanDocument (b : Bean) : Document := .object [
  ("configurationClass", .text b.configurationClass),
  ("methodName", .text b.methodName),
  ("returnType", .text b.returnType),
  ("primary", .bool b.isPrimary),
  ("lazy", .bool b.isLazy)]

/-- An endpoint in a report. -/
def endpointDocument (e : Endpoint) : Document := .object ([
  ("httpMethod", .points e.verb),
  ("path", .points e.path),
  ("controllerClass", .text e.controller),
  ("methodName", .text e.methodName),
  ("responseType", .text e.responseType),
  ("parameters", .list (e.parameters.map fun p =>
    .object [("name", .text p.name), ("type", .text p.type)])),
  ("description", .text e.description)] ++
  (if e.requiredRoles.isEmpty then [] else [("requiredRoles", .list (e.requiredRoles.map .points))]) ++
  (if e.deprecated then [("deprecated", .bool true)] else []))

/-- The data flow in a report. -/
def flowDocument (flow : DataFlow) : Document := .object [
  ("producers", textTable flow.producers),
  ("consumers", textTable flow.consumers),
  ("callChains", .list (flow.chains.map fun c =>
    .object [("methods", .texts c.methods), ("purpose", .text c.purpose)])),
  ("paths", .list (flow.paths.map fun p => .object [
    ("source", .text p.source),
    ("target", .text p.target),
    ("dataType", .text p.type)])),
  ("transformations", .list (flow.transformations.map fun t => .object [
    ("method", .text t.method),
    ("inputTypes", .texts t.inputs),
    ("outputType", .text t.output)]))]

/-- The numbers of a dependency graph in a report. -/
def metricsDocument (m : Metrics) : Document := .object [
  ("nodeCount", .integer m.nodeCount),
  ("edgeCount", .integer m.edgeCount),
  ("density", .real m.density.toBinary64),
  ("highlyConnected", .texts m.highlyConnected),
  ("orphans", .texts m.orphans),
  ("circularDependencies", .integer m.circularCount)]

end ClassAtlas.Report
