import FlowCheck.Command.Outcome
import FlowCheck.Command.Request
import FlowCheck.Command.Row
import FlowCheck.Consistency
import FlowCheck.Consistency.Positions
import FlowCheck.Graph.Check

/-!
# Validating a document

A document is checked against its sources, and the flow graph of each of its workflows is checked.
All that is found goes into one list of rows: sources that could not be loaded, errors and warnings
about the consistency, errors and warnings about the graphs. The orders of the workflows are notes
and not rows. The exit code depends on the rows alone.
-/

namespace FlowCheck.Command

/-- What validating a document finds. -/
structure Validation where
  /-- The rows of the report. -/
  rows : List Row
  /-- The notes below the report. -/
  notes : List String := []
deriving Inhabited

namespace Validation

/-- Findings one after the other. -/
def append (first second : Validation) : Validation :=
  ⟨first.rows ++ second.rows, first.notes ++ second.notes⟩

/-- The row for a source that could not be loaded. -/
def sourceRow (file : String) (error : SourceError) : Row where
  severity := .warning
  file := file
  line := none
  context := s!"source '{error.source}'"
  message := error.url ++ ": " ++ error.failure.message

/-- The row for an error about the consistency. -/
def errorRow (file : String) (finding : ErrorFinding) : Row where
  severity := .error
  file := (filled? finding.place.file).getD file
  line := finding.place.line
  context := Row.contextOf finding.place.workflow finding.place.step
  message := finding.message
  suggestion := finding.suggestion

/-- The row for a warning about the consistency. -/
def warningRow (file : String) (finding : WarningFinding) : Row where
  severity := .warning
  file := (filled? finding.place.file).getD file
  line := finding.place.line
  context := Row.contextOf finding.place.workflow finding.place.step
  message := finding.message

/-- The rows for findings about the consistency. -/
def findingRows (file : String) (findings : Findings) : List Row :=
  findings.errors.map (errorRow file) ++ findings.warnings.map (warningRow file)

/-- The note for a warning about a graph, if it tells the order of the steps. -/
def noteOf (workflow : String) (warning : GraphWarning) : Option String :=
  match warning with
  | .order _ => some (workflow ++ ": " ++ warning.message)
  | _ => none

/-- A row for something found about the graph of a workflow. -/
def graphRow (file : String) (positions : Positions) (workflow message : String)
    (severity : Severity) : Row where
  severity := severity
  file := file
  line := (positions.workflows.lookup workflow).map Int.ofNat
  context := Row.contextOf (some workflow) none
  message := message

/-- Where the methods of operations are looked up: nowhere if there is no source. -/
def interfaceOf (catalog : Catalog) : Interface :=
  if catalog.sources.isEmpty then .absent else .catalog catalog

/-- What is found about the graph of a workflow. -/
def ofGraph (file : String) (positions : Positions) (workflow : String)
    (verdict : GraphVerdict) : Validation :=
  let row := graphRow file positions workflow
  let warnings := verdict.warnings.filter fun warning => (noteOf workflow warning).isNone
  { rows := verdict.errors.map (fun error => row error.message .error) ++
      warnings.map fun warning => row warning.message .warning
    notes := verdict.warnings.filterMap (noteOf workflow) }

/-- What is found about the graphs of all workflows. -/
def ofGraphs (file : String) (positions : Positions) (document : Document) (catalog : Catalog)
    (options : FlowGraph.Options) : Validation :=
  (document.workflows.map fun workflow =>
    ofGraph file positions workflow.id
      (FlowGraph.ofWorkflow workflow (interfaceOf catalog) options).verdict).foldl append ⟨[], []⟩

/-- What is found about a document at a path with a text. -/
def ofDocument (settings : Settings) (file text : String) (document : Document)
    (catalog : Catalog) : Except Fault Validation := do
  let verdict ← (checkConsistency document catalog (.real settings.cutoff.value)).mapError
    SuggestError.toFault
  let located ← verdict.annotate file text
  let positions ← Positions.ofText text
  let consistency : Validation := { rows := findingRows file located.toReport }
  return consistency.append (ofGraphs file positions document catalog settings.graph)

/-- The number of errors. -/
def errorCount (validation : Validation) : Nat :=
  (validation.rows.filter (·.severity == .error)).length

/-- The number of rows that are not errors. -/
def warningCount (validation : Validation) : Nat :=
  validation.rows.length - validation.errorCount

/-- How a run with these findings ends. -/
def exitCode (validation : Validation) (strict : Bool) : ExitCode :=
  if validation.errorCount > 0 then .findings
  else if strict && validation.warningCount > 0 then .findings
  else .clean

/-- A number of things in a style, or nothing if there are none. -/
def counted (style noun : String) (n : Nat) : List String :=
  if n = 0 then []
  else [Console.Markup.styled style (s!"{n} {noun}" ++ if n = 1 then "" else "s")]

/-- The line below the report. -/
def summary (validation : Validation) (quiet : Bool) : String :=
  if validation.rows.isEmpty then
    if quiet then "" else Console.printed (Console.Markup.styled "green" "All workflows valid.")
  else
    Console.printed ("\nValidation complete: " ++ String.intercalate ", "
      (counted "red" "error" validation.errorCount ++
        counted "yellow" "warning" validation.warningCount))

/-- What is printed about findings. -/
def print (validation : Validation) (file : String) (format : OutputFormat) (quiet : Bool) :
    String :=
  let notes := validation.notes.map fun note =>
    Console.printed (Console.Markup.styled "dim" (Console.Markup.escape note))
  (if quiet then "" else Console.printed ("Validating: " ++ Console.Markup.escape file)) ++
    Row.print format quiet validation.rows ++ (if quiet then "" else String.join notes) ++
    validation.summary quiet

end Validation

namespace Validate

/-- Goes on with a catalog to which the API descriptions of the command line are added. -/
def withExtra (folder : Folder) (catalog : Catalog) (next : Catalog → Except Fault Outcome) :
    List NamedPath → Except Fault Outcome
  | [] => next catalog
  | extra :: rest =>
    withLoaded s!"Could not load OpenAPI document '{extra.name}'" (Api.load folder extra.path)
      fun api => withExtra folder (catalog.add extra.name api) next rest

/-- Runs the request. -/
def run (request : Validate) (settings : Settings) (folder : Folder) : Except Fault Outcome :=
  withDocument folder request.document fun document => do
    let named ← loadSources folder request.document document.sources Catalog.empty
    withExtra folder named.catalog (fun catalog => do
      let text := folder.textOrEmpty request.document
      let found ← Validation.ofDocument settings request.document text document catalog
      let validation := Validation.append
        { rows := named.errors.map (Validation.sourceRow request.document) } found
      return {
        code := validation.exitCode request.strict
        out := validation.print request.document (request.format.getD settings.outputFormat)
          request.quiet }) request.extra

end Validate

end FlowCheck.Command
