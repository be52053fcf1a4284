import FlowCheck.Catalog
import FlowCheck.Consistency.Finding
import FlowCheck.Consistency.Suggestion
import FlowCheck.Document

/-!
# What steps refer to

The first phase of the checks: every step has to refer to an operation of a known source or to a
workflow of the document. An error offers similar names.
-/

namespace FlowCheck

/-- A text that a reference has to be. -/
def Value.needText : Value → Except Fault String
  | .str s => .ok s
  | _ => .error .notText

namespace Catalog

/-- The operation of a step that refers to one by id or by path. -/
def operationOf (catalog : Catalog) (step : Step) : Except Fault (Option Hit) :=
  if !step.operationId.isNull then do
    let id ← step.operationId.needText
    return catalog.byId? id none
  else if !step.operationPath.isNull then do
    let text ← step.operationPath.needText
    return (splitPath? text).bind fun (method, path) => catalog.byPath? path method
  else .ok none

end Catalog

/-- The message of the errors about operations starts with this text. -/
def operationNotFound : String := "Operation not found: "

/-- What is wrong with an operation id that is not found: the message, and the name and the
candidates for a suggestion. -/
def unknownOperation (catalog : Catalog) (id : String) : String × String × List Value :=
  match splitId id with
  | (some source, bare) =>
    if (catalog.api? source).isNone then
      (s!"{operationNotFound}operationId '{id}' refers to unknown source '{source}'", source,
        catalog.names.map .str)
    else
      (s!"{operationNotFound}operationId '{bare}' does not exist in OpenAPI source '{source}'",
        bare, catalog.operationIds (some source))
  | (none, _) =>
    (s!"{operationNotFound}operationId '{id}' does not exist in any OpenAPI source", id,
      catalog.operationIds none)

/-- A check of a reference: nothing, or an error. -/
abbrev TargetCheck := Except SuggestError (Option ErrorFinding)

/-- A fault as the end of a check. -/
def SuggestError.stop {α : Type} (result : Except Fault α) : Except SuggestError α :=
  result.mapError .fault

/-- Checks an operation id. -/
def checkOperationId (catalog : Catalog) (cutoff : Cutoff) (place : Place) (value : Value) :
    TargetCheck := do
  let id ← SuggestError.stop value.needText
  if (catalog.byId? id none).isSome then return none
  let (message, reference, candidates) := unknownOperation catalog id
  let suggestion ← suggest reference candidates Suggestion.standardLimit cutoff
  return some {
    kind := .operationIdNotFound, message, place, suggestion, source := (splitId id).1 }

/-- Checks an operation path. -/
def checkOperationPath (catalog : Catalog) (cutoff : Cutoff) (place : Place) (value : Value) :
    TargetCheck := do
  let text ← SuggestError.stop value.needText
  let parts := splitPath? text
  let hit := parts.bind fun (method, path) => catalog.byPath? path method
  if hit.isSome then return none
  let reference := (parts.map fun (method, path) => method ++ " " ++ path).getD text
  let candidates := catalog.operationPaths.map Value.str
  let suggestion ← suggest reference candidates Suggestion.standardLimit cutoff
  return some {
    kind := .operationPathNotFound, place, suggestion
    message :=
      s!"{operationNotFound}operationPath '{text}' does not exist in any OpenAPI source" }

/-- Checks the id of a workflow. -/
def checkWorkflowId (document : Document) (cutoff : Cutoff) (place : Place) (value : Value) :
    TargetCheck := do
  if document.workflows.any fun workflow => value.isStr workflow.id then return none
  let shown ← SuggestError.stop value.text
  let reference ← SuggestError.stop (value.str?.elim (.error .noLength) .ok)
  let candidates := document.workflows.map fun workflow => Value.str workflow.id
  let suggestion ← suggest reference candidates Suggestion.standardLimit cutoff
  return some {
    kind := .workflowRefNotFound, place, suggestion
    message :=
      s!"Workflow reference not found: workflowId '{shown}' does not exist in Arazzo spec" }

/-- Checks what a step refers to. -/
def checkTarget (document : Document) (catalog : Catalog) (cutoff : Cutoff) (place : Place)
    (step : Step) : TargetCheck :=
  if !step.operationId.isNull then checkOperationId catalog cutoff place step.operationId
  else if !step.operationPath.isNull then
    checkOperationPath catalog cutoff place step.operationPath
  else if !step.workflowId.isNull then
    checkWorkflowId document cutoff place step.workflowId
  else .ok none

/-- The steps of a document, each with its place. -/
def Document.placedSteps (document : Document) : List (Place × Step) :=
  document.workflows.flatMap fun workflow =>
    workflow.steps.map fun step =>
      ({ workflow := some workflow.id, step := some step.id }, step)

/-- The errors about what the steps of a document refer to. -/
def checkTargets (document : Document) (catalog : Catalog) (cutoff : Cutoff) :
    Except SuggestError Findings := do
  let found ← document.placedSteps.mapM fun (place, step) =>
    checkTarget document catalog cutoff place step
  return ⟨found.filterMap id, []⟩

end FlowCheck
