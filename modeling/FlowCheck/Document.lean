import FlowCheck.Value

/-!
# Workflow documents

An Arazzo document: its workflows, their steps, and what a step sends, expects and does next.
Only what the checks look at has a field of its own. The other entries of a document, of its
info, of a source, of a workflow and of a step are kept as extensions, in their order.
-/

namespace FlowCheck

/-- The description of a document. -/
structure Info where
  /-- The title. -/
  title : String
  /-- The version of the document. -/
  version : String
  /-- The summary. -/
  summary : Value
  /-- The description. -/
  description : Value
  /-- The other entries. -/
  extensions : Entries
deriving Inhabited

/-- An API description that a document names. -/
structure Source where
  /-- The name by which operations refer to the source. -/
  name : String
  /-- Where the description is found. -/
  url : String
  /-- The type of the description. -/
  type : Value
  /-- The other entries. -/
  extensions : Entries
deriving Inhabited

/-- A parameter of a step. -/
structure Parameter where
  /-- The name. -/
  name : String
  /-- Where the parameter is sent, if that is given. -/
  location : Value
  /-- The value. -/
  value : Value
  /-- The reusable parameter that is referred to. -/
  reference : Option String
  /-- The value is that of the reusable parameter. -/
  inherited : Bool
deriving Inhabited

/-- What a step sends as the body of its request. -/
structure RequestBody where
  /-- The body. -/
  payload : Value
  /-- The media type. -/
  contentType : Value
  /-- The parts of the body that are replaced. -/
  replacements : Value
deriving Inhabited

/-- A condition for success. -/
structure Criterion where
  /-- What the condition is about. -/
  context : Value
  /-- The condition. -/
  condition : String
  /-- The value to compare with. -/
  value : Value
  /-- The type of the condition. -/
  type : Value
deriving Inhabited

/-- What follows a step that succeeded or failed. -/
structure Action where
  /-- The name. -/
  name : String
  /-- The type: where the workflow goes on. -/
  type : String
  /-- The other entries. -/
  config : Entries
deriving Inhabited

/-- The type of an action that refers to a reusable one. -/
def Action.referenceType : String := "reference"

/-- The type of an action that goes on at another step. -/
def Action.goto : String := "goto"

/-- The type of an action that ends the workflow. -/
def Action.finish : String := "end"

/-- The type of an action that repeats the step. -/
def Action.retry : String := "retry"

/-- The id of the step at which the action goes on, if it is a text. -/
def Action.targetStep? (action : Action) : Option String :=
  (Entries.get action.config "stepId").str?

/-- A step of a workflow. -/
structure Step where
  /-- The id. -/
  id : String
  /-- The description. -/
  description : Value
  /-- The id of the operation to call. -/
  operationId : Value
  /-- The method and the path of the operation to call. -/
  operationPath : Value
  /-- The id of the workflow to run. -/
  workflowId : Value
  /-- The parameters. -/
  parameters : List Parameter
  /-- The request body. -/
  requestBody : Option RequestBody
  /-- The conditions for success. -/
  criteria : Option (List Criterion)
  /-- What follows success. -/
  onSuccess : Option (List Action)
  /-- What follows failure. -/
  onFailure : Option (List Action)
  /-- The outputs by name. -/
  outputs : Option Entries
  /-- The other entries. -/
  extensions : Entries
deriving Inhabited

namespace Step

/-- The three ways to say what a step calls, with their values. -/
def targets (step : Step) : List (String × Value) :=
  [("operationId", step.operationId), ("operationPath", step.operationPath),
    ("workflowId", step.workflowId)]

/-- The names of the fields that say what the step calls. -/
def targetFields (step : Step) : List String :=
  (step.targets.filter fun target => !target.2.isNull).map Prod.fst

/-- The actions after success, then those after failure. -/
def actions (step : Step) : List Action :=
  step.onSuccess.getD [] ++ step.onFailure.getD []

/-- The step has at least one output. -/
def hasOutputs (step : Step) : Bool :=
  step.outputs.any fun outputs => !outputs.isEmpty

/-- The step has at least one condition for success. -/
def hasCriteria (step : Step) : Bool :=
  step.criteria.any fun criteria => !criteria.isEmpty

end Step

/-- A workflow. -/
structure Workflow where
  /-- The id. -/
  id : String
  /-- The steps in order. -/
  steps : List Step
  /-- The summary. -/
  summary : Value
  /-- The description. -/
  description : Value
  /-- The schema of the inputs. -/
  inputs : Value
  /-- The conditions for success. -/
  criteria : Option (List Criterion)
  /-- The outputs by name. -/
  outputs : Option Entries
  /-- The other entries. -/
  extensions : Entries
deriving Inhabited

/-- The first step with an id. -/
def Workflow.step? (workflow : Workflow) (id : String) : Option Step :=
  workflow.steps.find? (·.id == id)

/-- A workflow document. -/
structure Document where
  /-- The version of the format. -/
  version : String
  /-- The description of the document. -/
  info : Info
  /-- The workflows in order. -/
  workflows : List Workflow
  /-- The API descriptions that the document names. -/
  sources : List Source
  /-- The reusable parts. -/
  components : Value
  /-- The other entries. -/
  extensions : Entries
deriving Inhabited

/-- The first workflow with an id. -/
def Document.workflow? (document : Document) (id : String) : Option Workflow :=
  document.workflows.find? (·.id == id)

end FlowCheck
