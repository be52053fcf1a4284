import FlowCheck.Document.Fields

/-!
# Writing workflow documents

`Document.toValue` gives the value of a document: the fields in a fixed order, absent ones left
out, then the extensions in theirs.
-/

namespace FlowCheck

/-- The value of a mapping with fields, of which absent ones are left out, and other entries. -/
def Value.ofFields (fields : List (String × Option Value)) (others : Entries) : Value :=
  .map (Entries.ofFields fields ++ others)

/-- The value of a list. -/
def Value.ofList {α : Type} (write : α → Value) (items : List α) : Value :=
  .list (items.map write)

/-- The value of a list, unless the list is empty. -/
def Value.ofItems? {α : Type} (write : α → Value) (items : List α) : Option Value :=
  if items.isEmpty then none else some (.ofList write items)

/-- The value of the description of a document. -/
def Info.toValue (info : Info) : Value :=
  .ofFields
    [("title", some (.str info.title)),
      ("summary", info.summary.given?),
      ("description", info.description.given?),
      ("version", some (.str info.version))]
    info.extensions

/-- The value of a source. -/
def Source.toValue (source : Source) : Value :=
  .ofFields
    [("name", some (.str source.name)),
      ("url", some (.str source.url)),
      ("type", source.type.given?)]
    source.extensions

/-- The value of a parameter. One that refers to a reusable parameter shows the reference and
its own value, never the inherited one. -/
def Parameter.toValue (parameter : Parameter) : Value :=
  match parameter.reference with
  | some reference =>
    .ofFields
      [("reference", some (.str reference)),
        ("value", if parameter.inherited then none else parameter.value.given?)]
      []
  | none =>
    .ofFields
      [("name", some (.str parameter.name)),
        ("in", parameter.location.given?),
        ("value", some parameter.value)]
      []

/-- The value of a request body. -/
def RequestBody.toValue (body : RequestBody) : Value :=
  .ofFields
    [("contentType", body.contentType.given?),
      ("payload", some body.payload),
      ("replacements", body.replacements.given?)]
    []

/-- The value of a condition for success. -/
def Criterion.toValue (criterion : Criterion) : Value :=
  .ofFields
    [("context", criterion.context.given?),
      ("condition", some (.str criterion.condition)),
      ("value", criterion.value.given?),
      ("type", criterion.type.given?)]
    []

/-- The value of an action. One that refers to a reusable action is its configuration. -/
def Action.toValue (action : Action) : Value :=
  if action.type = Action.referenceType then .map action.config
  else
    .ofFields
      [("name", some (.str action.name)), ("type", some (.str action.type))]
      action.config

/-- The value of a step. -/
def Step.toValue (step : Step) : Value :=
  .ofFields
    [("stepId", some (.str step.id)),
      ("description", step.description.given?),
      ("operationId", step.operationId.given?),
      ("operationPath", step.operationPath.given?),
      ("workflowId", step.workflowId.given?),
      ("parameters", Value.ofItems? Parameter.toValue step.parameters),
      ("requestBody", step.requestBody.map RequestBody.toValue),
      ("successCriteria", step.criteria.map (.ofList Criterion.toValue)),
      ("onSuccess", step.onSuccess.map (.ofList Action.toValue)),
      ("onFailure", step.onFailure.map (.ofList Action.toValue)),
      ("outputs", step.outputs.map .map)]
    step.extensions

/-- The value of a workflow. -/
def Workflow.toValue (workflow : Workflow) : Value :=
  .ofFields
    [("workflowId", some (.str workflow.id)),
      ("summary", workflow.summary.given?),
      ("description", workflow.description.given?),
      ("inputs", workflow.inputs.given?),
      ("steps", some (.ofList Step.toValue workflow.steps)),
      ("successCriteria", workflow.criteria.map (.ofList Criterion.toValue)),
      ("outputs", workflow.outputs.map .map)]
    workflow.extensions

/-- The value of a document. -/
def Document.toValue (document : Document) : Value :=
  .ofFields
    [("arazzo", some (.str document.version)),
      ("info", some document.info.toValue),
      ("sourceDescriptions", Value.ofItems? Source.toValue document.sources),
      ("workflows", some (.ofList Workflow.toValue document.workflows)),
      ("components", document.components.given?)]
    document.extensions

end FlowCheck
