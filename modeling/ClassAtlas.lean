import ClassAtlas.Batch.Analysis
import ClassAtlas.Batch.Extraction
import ClassAtlas.Batch.Run
import ClassAtlas.ClassFile.Annotation
import ClassAtlas.ClassFile.Code
import ClassAtlas.ClassFile.ConstantPool
import ClassAtlas.ClassFile.Cursor
import ClassAtlas.ClassFile.Descriptor
import ClassAtlas.ClassFile.Fault
import ClassAtlas.ClassFile.Header
import ClassAtlas.ClassFile.ModifiedUtf8
import ClassAtlas.ClassFile.Session
import ClassAtlas.ClassFile.Structure
import ClassAtlas.CommandLine.Arguments
import ClassAtlas.CommandLine.Run
import ClassAtlas.Component.Catalog
import ClassAtlas.Component.Detect
import ClassAtlas.Endpoint.Detect
import ClassAtlas.Endpoint.Path
import ClassAtlas.Flow.Basic
import ClassAtlas.Flow.Chain
import ClassAtlas.Flow.Diagram
import ClassAtlas.Graph.Call
import ClassAtlas.Graph.Cycles
import ClassAtlas.Graph.Dependency
import ClassAtlas.Graph.Inheritance
import ClassAtlas.Graph.Metrics
import ClassAtlas.Main
import ClassAtlas.Metadata.Basic
import ClassAtlas.Metadata.Extract
import ClassAtlas.Method.Catalog
import ClassAtlas.Method.Category
import ClassAtlas.Notices
import ClassAtlas.Number.Arithmetic
import ClassAtlas.Number.Binary64
import ClassAtlas.Number.Literal
import ClassAtlas.Number.Shortest
import ClassAtlas.Order.Ascending
import ClassAtlas.Order.Table
import ClassAtlas.Pattern.Basic
import ClassAtlas.Pattern.Match
import ClassAtlas.Pattern.Parser
import ClassAtlas.Project.Layout
import ClassAtlas.Project.Tree
import ClassAtlas.Report.Analysis
import ClassAtlas.Report.Document
import ClassAtlas.Report.Sections
import ClassAtlas.Settings.Basic
import ClassAtlas.Settings.Load
import ClassAtlas.Settings.Value
import ClassAtlas.Text.Case
import ClassAtlas.Text.CaseTable
import ClassAtlas.Text.CharClass
import ClassAtlas.Text.Codec
import ClassAtlas.Text.Printable
import ClassAtlas.Text.Quoted
import ClassAtlas.Text.Reader
import ClassAtlas.Text.Split
import ClassAtlas.Toml.Document
import ClassAtlas.Toml.Token
import ClassAtlas.Xml.Document
import ClassAtlas.Xml.Encoding
import ClassAtlas.Proofs.ClassFile.Consumption
import ClassAtlas.Proofs.ClassFile.Layout
import ClassAtlas.Proofs.ClassFile.Inversion
import ClassAtlas.Proofs.Order.Table
import ClassAtlas.Proofs.ClassFile.RoundTrip
import ClassAtlas.Proofs.ClassFile.Truncation
import ClassAtlas.Proofs.ClassFile.Tables
import ClassAtlas.Proofs.ClassFile.Rows
import ClassAtlas.Proofs.ClassFile.Lines
import ClassAtlas.Proofs.ClassFile.Outline
import ClassAtlas.Proofs.ClassFile.Operands
import ClassAtlas.Proofs.ClassFile.Instructions
import ClassAtlas.Proofs.Batch.Accounting
import ClassAtlas.Proofs.Batch.Extraction
import ClassAtlas.Proofs.Batch.Run
import ClassAtlas.Proofs.Batch.Isolation
import ClassAtlas.Proofs.ClassFile.Annotation
import ClassAtlas.Proofs.Order.Ascending
import ClassAtlas.Proofs.Order.Grouping
import ClassAtlas.Proofs.Batch.Reordering
import ClassAtlas.Proofs.Flow.References
import ClassAtlas.Proofs.Flow.Search
import ClassAtlas.Proofs.Flow.Chain
import ClassAtlas.Proofs.Flow.Limits
import ClassAtlas.Proofs.Flow.Paths
import ClassAtlas.Proofs.Flow.Diagram
import ClassAtlas.Proofs.Component.References
import ClassAtlas.Proofs.Component.Agreement
import ClassAtlas.Proofs.Endpoint.Agreement
import ClassAtlas.Proofs.Endpoint.Path
import ClassAtlas.Proofs.Pattern.Match
import ClassAtlas.Proofs.Pattern.Quoted
import ClassAtlas.Proofs.Endpoint.Wildcard
import ClassAtlas.Proofs.Report.Path
import ClassAtlas.Proofs.Report.Integrity
import ClassAtlas.Proofs.Graph.Reordering
import ClassAtlas.Proofs.Graph.Call
import ClassAtlas.Proofs.Graph.Neighbours
import ClassAtlas.Proofs.Graph.Cycles
import ClassAtlas.Proofs.Graph.Dependency
import ClassAtlas.Proofs.Graph.Inheritance
import ClassAtlas.Proofs.Graph.Packages
import ClassAtlas.Proofs.Graph.Reach
import ClassAtlas.Proofs.Graph.References
import ClassAtlas.Proofs.Graph.Superclass
import ClassAtlas.Proofs.Graph.Supertypes
import ClassAtlas.Proofs.Graph.Traversal
import ClassAtlas.Proofs.Metadata.Interpretation
import ClassAtlas.Proofs.Metadata.Soundness
import ClassAtlas.Proofs.Metadata.Unread
import ClassAtlas.Proofs.Metadata.PrivateMethods
import ClassAtlas.Proofs.Metadata.CallLines
import ClassAtlas.Proofs.Metadata.ParameterNames
import ClassAtlas.Proofs.Graph.Metrics
import ClassAtlas.Proofs.Graph.Unused
import ClassAtlas.Proofs.ClassFile.Session
import ClassAtlas.Proofs.ClassFile.Pool
import ClassAtlas.Proofs.Report.Groups
import ClassAtlas.Proofs.Settings.Load
