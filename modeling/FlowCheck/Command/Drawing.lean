import FlowCheck.Command.Validation
import FlowCheck.Graph.Dot
import FlowCheck.Graph.Mermaid
import FlowCheck.Graph.Record

/-!
# Drawing the graph of a workflow

The graph of one workflow is written in one of three formats. What the checks of the graph find is
told on the error console, and does not keep the graph from being written.
-/

namespace FlowCheck.Command.Visualize

/-- The graph as text in a format. -/
def render (graph : FlowGraph) (format : GraphFormat) : Except Fault String :=
  match format with
  | .dot => graph.toDot
  | .json => (graph.toJson (some 2)).map (· ++ "\n")
  | .mermaid => graph.toMermaid

/-- What is told about sources that could not be loaded. -/
def sourceNotes (errors : List SourceError) : List String :=
  errors.map fun error => Console.Markup.styled "yellow" ("⚠ " ++ Console.Markup.escape error.text)

/-- What is told about a graph. -/
def graphNotes (verdict : GraphVerdict) : List String :=
  (verdict.errors.map fun error =>
    Console.Markup.styled "red" ("✗ " ++ Console.Markup.escape error.message)) ++
  verdict.warnings.map fun warning =>
    Console.Markup.styled "dim" (Console.Markup.escape warning.message)

/-- Runs the request for a workflow of a document. -/
def draw (request : Visualize) (settings : Settings) (folder : Folder) (document : Document)
    (workflow : Workflow) : Except Fault Outcome := do
  let named ← loadSources folder request.document document.sources Catalog.empty
  let graph := FlowGraph.ofWorkflow workflow (Validation.interfaceOf named.catalog) settings.graph
  let notes := String.join
    ((sourceNotes named.errors ++ graphNotes graph.verdict).map Console.printed)
  let text ← render graph (request.format.getD settings.graphFormat)
  match filled? request.output with
  | none => return { code := .clean, out := text, err := notes }
  | some path =>
    return {
      code := .clean
      err := notes ++ Console.success ("Output written to: " ++ path)
      save := some (path, text) }

/-- Runs the request. -/
def run (request : Visualize) (settings : Settings) (folder : Folder) : Except Fault Outcome :=
  withDocument folder request.document fun document =>
    match document.workflows, request.workflow with
    | [], _ => .ok (Outcome.refused "Nothing to visualize" "No workflows found in Arazzo file")
    | first :: _, none => request.draw settings folder document first
    | workflows, some id =>
      match document.workflow? id with
      | some workflow => request.draw settings folder document workflow
      | none =>
        .ok (Outcome.refused s!"Workflow '{id}' not found"
          ("Known workflows: " ++ String.intercalate ", " (workflows.map (·.id))))

end FlowCheck.Command.Visualize
