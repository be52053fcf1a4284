import FlowCheck.Api
import FlowCheck.Api.Reader
import FlowCheck.Calendar
import FlowCheck.Catalog
import FlowCheck.Command
import FlowCheck.Command.Arguments
import FlowCheck.Command.Drawing
import FlowCheck.Command.Flag
import FlowCheck.Command.Listing
import FlowCheck.Command.Outcome
import FlowCheck.Command.Request
import FlowCheck.Command.Row
import FlowCheck.Command.Validation
import FlowCheck.Consistency
import FlowCheck.Consistency.DataFlow
import FlowCheck.Consistency.Finding
import FlowCheck.Consistency.Parameters
import FlowCheck.Consistency.Positions
import FlowCheck.Consistency.Suggestion
import FlowCheck.Consistency.Targets
import FlowCheck.Console.Fit
import FlowCheck.Console.Line
import FlowCheck.Console.Markup
import FlowCheck.Console.Notice
import FlowCheck.Console.Panel
import FlowCheck.Console.Picture
import FlowCheck.Console.Picture.Names
import FlowCheck.Console.Picture.People
import FlowCheck.Console.Table
import FlowCheck.Document
import FlowCheck.Document.Equality
import FlowCheck.Document.Fields
import FlowCheck.Document.Reader
import FlowCheck.Document.References
import FlowCheck.Document.Rules
import FlowCheck.Document.Writer
import FlowCheck.Expression
import FlowCheck.Fault
import FlowCheck.Folder
import FlowCheck.Graph
import FlowCheck.Graph.Build
import FlowCheck.Graph.Check
import FlowCheck.Graph.Cycle
import FlowCheck.Graph.Dot
import FlowCheck.Graph.Mermaid
import FlowCheck.Graph.Record
import FlowCheck.Graph.Sorting
import FlowCheck.Keyed
import FlowCheck.LoadError
import FlowCheck.Loading
import FlowCheck.Logging
import FlowCheck.Main
import FlowCheck.Number.Binary64
import FlowCheck.Number.Decimal
import FlowCheck.Path
import FlowCheck.Proofs.Api.Endpoints
import FlowCheck.Proofs.Api.Operations
import FlowCheck.Proofs.Api.Parameters
import FlowCheck.Proofs.Api.Readable
import FlowCheck.Proofs.Api.Reference
import FlowCheck.Proofs.Catalog.Addition
import FlowCheck.Proofs.Catalog.Lookup
import FlowCheck.Proofs.Catalog.OperationId
import FlowCheck.Proofs.Catalog.OtherSource
import FlowCheck.Proofs.Catalog.QualifiedId
import FlowCheck.Proofs.Command.Exit
import FlowCheck.Proofs.Consistency.Call
import FlowCheck.Proofs.Consistency.DataFlow
import FlowCheck.Proofs.Consistency.Failure
import FlowCheck.Proofs.Consistency.Finding
import FlowCheck.Proofs.Consistency.KeyLine
import FlowCheck.Proofs.Consistency.Location
import FlowCheck.Proofs.Consistency.NewSource
import FlowCheck.Proofs.Consistency.ParameterChange
import FlowCheck.Proofs.Consistency.Parameters
import FlowCheck.Proofs.Consistency.Phases
import FlowCheck.Proofs.Consistency.Position
import FlowCheck.Proofs.Consistency.Ranking
import FlowCheck.Proofs.Consistency.Suggestion
import FlowCheck.Proofs.Consistency.Target
import FlowCheck.Proofs.Distinct
import FlowCheck.Proofs.Document.Ending
import FlowCheck.Proofs.Document.Grammar
import FlowCheck.Proofs.Document.Held
import FlowCheck.Proofs.Document.Kept
import FlowCheck.Proofs.Document.Numbered
import FlowCheck.Proofs.Document.Parts
import FlowCheck.Proofs.Document.References
import FlowCheck.Proofs.Document.Rereading
import FlowCheck.Proofs.Document.Reusable
import FlowCheck.Proofs.Document.RoundTrip
import FlowCheck.Proofs.Document.Valid
import FlowCheck.Proofs.Expression.Embedded
import FlowCheck.Proofs.Expression.Form
import FlowCheck.Proofs.Expression.Grammar
import FlowCheck.Proofs.Expression.Position
import FlowCheck.Proofs.Graph.Agreement
import FlowCheck.Proofs.Graph.Answers
import FlowCheck.Proofs.Graph.Build
import FlowCheck.Proofs.Graph.Course
import FlowCheck.Proofs.Graph.Coverage
import FlowCheck.Proofs.Graph.DotReader
import FlowCheck.Proofs.Graph.Edges
import FlowCheck.Proofs.Graph.Export
import FlowCheck.Proofs.Graph.Flowchart
import FlowCheck.Proofs.Graph.Interface
import FlowCheck.Proofs.Graph.Least
import FlowCheck.Proofs.Graph.Links
import FlowCheck.Proofs.Graph.Method
import FlowCheck.Proofs.Graph.NodeId
import FlowCheck.Proofs.Graph.Options
import FlowCheck.Proofs.Graph.Order
import FlowCheck.Proofs.Graph.Search
import FlowCheck.Proofs.Graph.Sorting
import FlowCheck.Proofs.Graph.StepCycle
import FlowCheck.Proofs.Graph.StepOrder
import FlowCheck.Proofs.Graph.Stuck
import FlowCheck.Proofs.Loading
import FlowCheck.Proofs.Number.Rounding
import FlowCheck.Proofs.Result
import FlowCheck.Proofs.Settings.Cache
import FlowCheck.Proofs.Sources
import FlowCheck.Proofs.Text.Similarity
import FlowCheck.Proofs.Value.Display
import FlowCheck.Proofs.Value.Entries
import FlowCheck.Proofs.Value.Json
import FlowCheck.Proofs.Yaml.Spots
import FlowCheck.Proofs.Yaml.Written
import FlowCheck.Report
import FlowCheck.Settings
import FlowCheck.Settings.Reader
import FlowCheck.Sources
import FlowCheck.Text.Blank
import FlowCheck.Text.Fold
import FlowCheck.Text.Lines
import FlowCheck.Text.Printable
import FlowCheck.Text.Quoted
import FlowCheck.Text.Similarity
import FlowCheck.Text.Upper
import FlowCheck.Text.Width
import FlowCheck.Value
import FlowCheck.Value.Display
import FlowCheck.Value.Json
import FlowCheck.Yaml.Cursor
import FlowCheck.Yaml.Lines
import FlowCheck.Yaml.Node
import FlowCheck.Yaml.Node.Reader
import FlowCheck.Yaml.Node.Value
import FlowCheck.Yaml.Printer
import FlowCheck.Yaml.Printer.Style
import FlowCheck.Yaml.Schema
import FlowCheck.Yaml.Stamp
import FlowCheck.Yaml.Token
import FlowCheck.Yaml.Token.Block
import FlowCheck.Yaml.Token.Lexer
import FlowCheck.Yaml.Token.Plain
import FlowCheck.Yaml.Token.Property
import FlowCheck.Yaml.Token.Quoted
import FlowCheck.Proofs.Graph.Addition
import FlowCheck.Proofs.InOrder
import FlowCheck.Proofs.Expression.Occurrence
import FlowCheck.Proofs.Document.Scans
