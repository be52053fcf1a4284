import FlowCheck.Document.Fields
import FlowCheck.LoadError
import FlowCheck.Value.Display

/-!
# Reading workflow documents

`Document.ofValue` builds a document from a value. Required fields have to be there and not null,
lists and mappings have to be where they belong, and a parameter that refers to a reusable one
takes its name, its location and, unless it has one, its value from there. Places are read in the
order of the fields below, and the first that does not fit decides the reason.
-/

namespace FlowCheck

/-- The text of a value, as part of loading. -/
def textOf (value : Value) : Except LoadError String :=
  Fault.stop value.text

/-- The value of a required field. -/
def required (entries : Entries) (field place : String) : Except LoadError Value :=
  let value := Entries.get entries field
  if value.isNull then LoadError.refuse (.missingField field place) else .ok value

/-- The text of a required field. -/
def requiredText (entries : Entries) (field place : String) : Except LoadError String :=
  required entries field place >>= textOf

/-- The entries of a value that has to be a mapping. -/
def mappingAt (value : Value) (place : String) : Except LoadError Entries :=
  match value with
  | .map entries => .ok entries
  | other => LoadError.refuse (.notMapping place other.kind)

/-- The items of a value that has to be a list; nothing counts as the empty list. -/
def listAt (value : Value) (place : String) : Except LoadError (List Value) :=
  match value with
  | .null => .ok []
  | .list items => .ok items
  | other => LoadError.refuse (.notList place other.kind)

/-- What is read from a value that may be null; nothing, if it is. -/
def readOptional {α : Type} (read : Value → String → Except LoadError α) (value : Value)
    (place : String) : Except LoadError (Option α) :=
  if value.isNull then .ok none else (read value place).map some

/-- The items of a list, each read at its numbered place from `index` on. -/
def readItems {α : Type} (read : Value → String → Except LoadError α) (place : String) :
    Nat → List Value → Except LoadError (List α)
  | _, [] => .ok []
  | index, item :: rest => do
    let first ← read item s!"{place}[{index}]"
    let others ← readItems read place (index + 1) rest
    return first :: others

/-- The items of a list, each read at its numbered place. -/
def readList {α : Type} (read : Value → String → Except LoadError α) (value : Value)
    (place : String) : Except LoadError (List α) := do
  let items ← listAt value place
  readItems read place 0 items

/-- What follows the last point of a text; the whole text if it has none. -/
def lastPart (text : String) : String :=
  String.ofList (text.toList.reverse.takeWhile (· ≠ '.')).reverse

/-- Reads the description of a document. -/
def Info.ofValue (value : Value) : Except LoadError Info := do
  let entries ← mappingAt value "info"
  let title ← requiredText entries "title" "info"
  let version ← requiredText entries "version" "info"
  return {
    title, version
    summary := Entries.get entries "summary"
    description := Entries.get entries "description"
    extensions := Entries.without entries Info.fields }

/-- Reads a source. -/
def Source.ofValue (value : Value) : Except LoadError Source := do
  let entries ← mappingAt value "sourceDescription"
  let name ← requiredText entries "name" "sourceDescription"
  let url ← requiredText entries "url" "sourceDescription"
  return {
    name, url
    type := Entries.get entries "type"
    extensions := Entries.without entries Source.fields }

/-- Reads a parameter. One that refers to a reusable parameter gets its name and its location
from `Parameter.resolve`. -/
def Parameter.ofValue (value : Value) (place : String) : Except LoadError Parameter := do
  let entries ← mappingAt value place
  let reference := Entries.get entries "reference"
  if reference.isNull then
    let name ← requiredText entries "name" place
    return {
      name
      location := Entries.get entries "in"
      value := Entries.get entries "value"
      reference := none
      inherited := false }
  else
    -- the name stands in until the reference is followed
    let reference ← textOf reference
    return {
      name := lastPart reference
      location := .null
      value := Entries.get entries "value"
      reference := some reference
      inherited := false }

/-- The mapping under a text key of a mapping. -/
def mappingUnder? (value : Value) (key : String) : Option Value :=
  match value with
  | .map entries => some (Entries.get entries key)
  | _ => none

/-- The reusable parameter with a name. -/
def reusable? (components : Value) (name : String) : Option Entries :=
  match (mappingUnder? components "parameters").bind (mappingUnder? · name) with
  | some (.map target) => some target
  | _ => none

/-- The name of the reusable parameter that a reference leads to. -/
def Parameter.reusableKey? (reference : String) : Option String :=
  (Parameter.reusableStart.toList.isPrefixOf? reference.toList).map String.ofList

/-- Fills in what a parameter takes from the reusable parameter that it refers to. A value next
to the reference wins. -/
def Parameter.resolve (parameter : Parameter) (components : Value) (place : String) :
    Except LoadError Parameter :=
  match parameter.reference with
  | none => .ok parameter
  | some reference =>
    match Parameter.reusableKey? reference with
    | none => LoadError.refuse (.unsupportedReference reference place)
    | some key =>
      match reusable? components key with
      | none => LoadError.refuse (.unknownReusable reference place)
      | some target => do
        let name ← requiredText target "name" s!"components.parameters.{key}"
        let default := Entries.get target "value"
        -- a null in the reusable parameter is no value to inherit
        let inherits := parameter.value.isNull && !default.isNull
        return { parameter with
          name
          location := Entries.get target "in"
          value := if inherits then default else parameter.value
          inherited := parameter.inherited || inherits }

/-- Reads a request body. -/
def RequestBody.ofValue (value : Value) (place : String) : Except LoadError RequestBody := do
  let entries ← mappingAt value place
  return {
    payload := Entries.get entries "payload"
    contentType := Entries.get entries "contentType"
    replacements := Entries.get entries "replacements" }

/-- Reads a condition for success. -/
def Criterion.ofValue (value : Value) (place : String) : Except LoadError Criterion := do
  let entries ← mappingAt value place
  let condition ← requiredText entries "condition" place
  return {
    context := Entries.get entries "context"
    condition
    value := Entries.get entries "value"
    type := Entries.get entries "type" }

/-- Reads an action. One that has a reference and no type refers to a reusable action. -/
def Action.ofValue (value : Value) (place : String) : Except LoadError Action := do
  let entries ← mappingAt value place
  match Entries.find? entries "reference", Entries.has entries "type" with
  | some reference, false =>
    -- the reference may be null here, and then has a text like any other value
    let reference ← textOf reference
    return { name := lastPart reference, type := Action.referenceType, config := entries }
  | _, _ =>
    let name ← requiredText entries "name" place
    let type ← requiredText entries "type" place
    return { name, type, config := Entries.without entries Action.fields }

/-- Reads a step. -/
def Step.ofValue (value : Value) (place : String) : Except LoadError Step := do
  let entries ← mappingAt value place
  let id ← requiredText entries "stepId" place
  -- from here on the step is named by its id and not by its number
  let place := s!"step '{id}'"
  let outputs ← readOptional mappingAt (Entries.get entries "outputs") s!"{place} outputs"
  let parameters ←
    readList Parameter.ofValue (Entries.get entries "parameters") s!"{place} parameters"
  let requestBody ← readOptional RequestBody.ofValue (Entries.get entries "requestBody")
    s!"{place} requestBody"
  let criteria ← readOptional (readList Criterion.ofValue)
    (Entries.get entries "successCriteria") s!"{place} successCriteria"
  let onSuccess ← readOptional (readList Action.ofValue) (Entries.get entries "onSuccess")
    s!"{place} onSuccess"
  let onFailure ← readOptional (readList Action.ofValue) (Entries.get entries "onFailure")
    s!"{place} onFailure"
  return {
    id, parameters, requestBody, criteria, onSuccess, onFailure, outputs
    description := Entries.get entries "description"
    operationId := Entries.get entries "operationId"
    operationPath := Entries.get entries "operationPath"
    workflowId := Entries.get entries "workflowId"
    extensions := Entries.without entries Step.fields }

/-- Reads a workflow. -/
def Workflow.ofValue (value : Value) (place : String) : Except LoadError Workflow := do
  let entries ← mappingAt value place
  let id ← requiredText entries "workflowId" place
  let place := s!"workflow '{id}'"
  let outputs ← readOptional mappingAt (Entries.get entries "outputs") s!"{place} outputs"
  let rawSteps ← required entries "steps" place
  let steps ← readList Step.ofValue rawSteps s!"{place} steps"
  let criteria ← readOptional (readList Criterion.ofValue)
    (Entries.get entries "successCriteria") s!"{place} successCriteria"
  return {
    id, steps, criteria, outputs
    summary := Entries.get entries "summary"
    description := Entries.get entries "description"
    inputs := Entries.get entries "inputs"
    extensions := Entries.without entries Workflow.fields }

/-- Fills in what the parameters of a step take from reusable parameters. -/
def Step.resolve (step : Step) (components : Value) (workflow : String) :
    Except LoadError Step := do
  let place := s!"step '{step.id}' of workflow '{workflow}'"
  let parameters ← step.parameters.mapM (·.resolve components place)
  return { step with parameters }

/-- Fills in what the parameters of a workflow take from reusable parameters. -/
def Workflow.resolve (workflow : Workflow) (components : Value) : Except LoadError Workflow := do
  let steps ← workflow.steps.mapM (·.resolve components workflow.id)
  return { workflow with steps }

/-- Reads a document. -/
def Document.ofValue (value : Value) : Except LoadError Document := do
  let place := "Arazzo document"
  let entries ← mappingAt value place
  let version ← requiredText entries "arazzo" place
  let info ← required entries "info" place >>= Info.ofValue
  let rawWorkflows ← required entries "workflows" place
  let workflows ← readList Workflow.ofValue rawWorkflows "workflows"
  let sources ← readList (fun item _ => Source.ofValue item)
    (Entries.get entries "sourceDescriptions") "sourceDescriptions"
  -- the references are followed last, so that a wrong shape anywhere is found first
  let components := Entries.get entries "components"
  let workflows ← workflows.mapM (·.resolve components)
  return {
    version, info, workflows, sources, components
    extensions := Entries.without entries Document.fields }

end FlowCheck
