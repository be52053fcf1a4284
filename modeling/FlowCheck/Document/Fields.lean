import FlowCheck.Document

/-!
# The fields of documents

The names of the entries that have a field of their own, object by object. All other entries are
extensions.
-/

namespace FlowCheck

/-- The fields of the description of a document. -/
def Info.fields : List String := ["title", "summary", "description", "version"]

/-- The fields of a source. -/
def Source.fields : List String := ["name", "url", "type"]

/-- The fields of an action; its other entries are its configuration. -/
def Action.fields : List String := ["name", "type"]

/-- The fields of a step. -/
def Step.fields : List String :=
  ["stepId", "description", "operationId", "operationPath", "workflowId", "parameters",
    "requestBody", "successCriteria", "onSuccess", "onFailure", "outputs"]

/-- The fields of a workflow. -/
def Workflow.fields : List String :=
  ["workflowId", "summary", "description", "inputs", "steps", "successCriteria", "outputs"]

/-- The fields of a document. -/
def Document.fields : List String :=
  ["arazzo", "info", "sourceDescriptions", "workflows", "components"]

/-- The start of a reference to a reusable parameter. -/
def Parameter.reusableStart : String := "$components.parameters."

/-- The locations that a parameter can have. -/
def Parameter.locations : List String := ["query", "header", "path", "cookie"]

end FlowCheck
