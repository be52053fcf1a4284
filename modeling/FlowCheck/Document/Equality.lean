import FlowCheck.Document

/-!
# Equal documents

Two documents are equal when all their fields are, where values are compared as values: mappings
without regard to the order of their entries, and numbers by their size.
-/

namespace FlowCheck

/-- The lists are equal item by item. -/
def sameList {α : Type} (same : α → α → Bool) : List α → List α → Bool
  | [], [] => true
  | x :: xs, y :: ys => same x y && sameList same xs ys
  | _, _ => false

/-- Both are absent, or both are there and equal. -/
def sameOption {α : Type} (same : α → α → Bool) : Option α → Option α → Bool
  | none, none => true
  | some x, some y => same x y
  | _, _ => false

/-- The mappings are equal. -/
def Entries.same (xs ys : Entries) : Bool :=
  (Value.map xs).same (.map ys)

/-- The descriptions of documents are equal. -/
def Info.same (a b : Info) : Bool :=
  a.title == b.title && a.version == b.version && a.summary.same b.summary &&
    a.description.same b.description && Entries.same a.extensions b.extensions

/-- The sources are equal. -/
def Source.same (a b : Source) : Bool :=
  a.name == b.name && a.url == b.url && a.type.same b.type &&
    Entries.same a.extensions b.extensions

/-- The parameters are equal. -/
def Parameter.same (a b : Parameter) : Bool :=
  a.name == b.name && a.location.same b.location && a.value.same b.value &&
    a.reference == b.reference && a.inherited == b.inherited

/-- The request bodies are equal. -/
def RequestBody.same (a b : RequestBody) : Bool :=
  a.payload.same b.payload && a.contentType.same b.contentType &&
    a.replacements.same b.replacements

/-- The conditions are equal. -/
def Criterion.same (a b : Criterion) : Bool :=
  a.context.same b.context && a.condition == b.condition && a.value.same b.value &&
    a.type.same b.type

/-- The actions are equal. -/
def Action.same (a b : Action) : Bool :=
  a.name == b.name && a.type == b.type && Entries.same a.config b.config

/-- The steps are equal. -/
def Step.same (a b : Step) : Bool :=
  a.id == b.id && a.description.same b.description && a.operationId.same b.operationId &&
    a.operationPath.same b.operationPath && a.workflowId.same b.workflowId &&
    sameList Parameter.same a.parameters b.parameters &&
    sameOption RequestBody.same a.requestBody b.requestBody &&
    sameOption (sameList Criterion.same) a.criteria b.criteria &&
    sameOption (sameList Action.same) a.onSuccess b.onSuccess &&
    sameOption (sameList Action.same) a.onFailure b.onFailure &&
    sameOption Entries.same a.outputs b.outputs && Entries.same a.extensions b.extensions

/-- The workflows are equal. -/
def Workflow.same (a b : Workflow) : Bool :=
  a.id == b.id && sameList Step.same a.steps b.steps && a.summary.same b.summary &&
    a.description.same b.description && a.inputs.same b.inputs &&
    sameOption (sameList Criterion.same) a.criteria b.criteria &&
    sameOption Entries.same a.outputs b.outputs && Entries.same a.extensions b.extensions

/-- The documents are equal. -/
def Document.same (a b : Document) : Bool :=
  a.version == b.version && a.info.same b.info &&
    sameList Workflow.same a.workflows b.workflows && sameList Source.same a.sources b.sources &&
    a.components.same b.components && Entries.same a.extensions b.extensions

end FlowCheck
