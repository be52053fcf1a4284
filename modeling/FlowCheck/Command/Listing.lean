import FlowCheck.Command.Outcome
import FlowCheck.Console.Table
import FlowCheck.Value.Display

/-!
# Listing the workflows of a document

A table of all steps, with what each of them calls.
-/

namespace FlowCheck.Command.Listing

/-- A text that is shown as it is. -/
def shown (text : String) : String :=
  Console.Markup.escape text

/-- What a step calls. -/
def target (step : Step) : Except Fault String :=
  match step.operationId, step.operationPath with
  | .null, .null => (step.workflowId.text).map ("workflow: " ++ ·)
  | .null, path => shownText path
  | id, _ => shownText id
where
  /-- A value that has to be a text. -/
  shownText : Value → Except Fault String
    | .str text => .ok text
    | _ => .error .notShown

/-- The description of a step. One that is not given shows as nothing. -/
def description (step : Step) : Except Fault String :=
  match step.description with
  | .str text => .ok text
  | other => if other.isGiven then .error .notShown else .ok ""

/-- The cells of a step; its workflow is named beside the first step only. -/
def cells (workflow : Workflow) (entry : Step × Nat) : Except Fault (List String) := do
  let target ← target entry.1
  let description ← description entry.1
  return [if entry.2 = 0 then shown workflow.id else "", s!"{entry.2 + 1}", shown entry.1.id,
    shown target, shown description]

/-- The rows of a workflow. -/
def rows (workflow : Workflow) : Except Fault (List (List String)) :=
  workflow.steps.zipIdx.mapM (cells workflow)

/-- The table of the workflows of a document. -/
def table (workflows : List Workflow) : Except Fault Console.Table := do
  let rows ← workflows.mapM rows
  return {
    title := s!"Workflows ({workflows.length})"
    columns := ["Workflow", "#", "Step", "Operation", "Description"]
    rows := rows.flatten }

/-- The line above the table. -/
def heading (document : Document) : String :=
  Console.Markup.styled "bold" (shown document.info.title) ++ " " ++ shown document.info.version ++
    " (Arazzo " ++ shown document.version ++ ")"

/-- Lists the document at a path. -/
def run (folder : Folder) (path : String) : Except Fault Outcome :=
  withDocument folder path fun document => do
    let heading := Console.printed (heading document)
    if document.workflows.isEmpty then
      let note := Console.Markup.styled "yellow" "No workflows found"
      return { code := .clean, out := heading ++ Console.printed note }
    let table ← table document.workflows
    return { code := .clean, out := heading ++ table.printed }

end FlowCheck.Command.Listing
