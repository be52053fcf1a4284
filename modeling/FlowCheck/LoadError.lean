import FlowCheck.Value
import FlowCheck.Fault

/-!
# Why a document is refused

`Rejection` lists the reasons for which a workflow document or an API description is not
accepted, each with the message that is shown for it. Loading from a file can also fail because
the file is absent, or stop at a fault.
-/

namespace FlowCheck

/-- A reason why a document is not accepted. -/
inductive Rejection where
  /-- Something other than a mapping stands at a place. -/
  | notMapping (place : String) (found : Kind)
  /-- Something other than a list stands at a place. -/
  | notList (place : String) (found : Kind)
  /-- A required field is not there, or is null. -/
  | missingField (field place : String)
  /-- A parameter refers to something other than a reusable parameter. -/
  | unsupportedReference (reference place : String)
  /-- A parameter refers to a reusable parameter that does not exist. -/
  | unknownReusable (reference place : String)
  /-- The version is not one of those that are understood. -/
  | unsupportedVersion (version : String)
  /-- Two workflows have one id. -/
  | duplicateWorkflow (workflow : String)
  /-- Two steps of a workflow have one id. -/
  | duplicateStep (step workflow : String)
  /-- A reference of a step to its operation is not a text. -/
  | targetNotText (place field : String) (found : Kind)
  /-- A step refers to no operation. -/
  | noTarget (place : String)
  /-- A step refers to its operation in several ways. -/
  | manyTargets (place : String) (fields : List String)
  /-- A parameter has a location that does not exist. -/
  | badLocation (place parameter location : String) (allowed : List String)
  /-- An action has a type that its list does not allow. -/
  | badActionType (place field action type : String) (allowed : List String)
  /-- The paths of an API description are not a mapping. -/
  | pathsNotMapping
  /-- The version of an API description is not one of those that are understood. -/
  | unsupportedApiVersion (version : String)
  /-- An API description has no path. -/
  | noPaths
  /-- The text of a file is not YAML. -/
  | notYaml (path : String)
deriving DecidableEq, Inhabited

/-- The message for a reason. -/
def Rejection.message : Rejection → String
  | .notMapping place found => s!"{place} must be a mapping, got {found.name}"
  | .notList place found => s!"{place} must be a list, got {found.name}"
  | .missingField field place => s!"Missing required field '{field}' in {place}"
  | .unsupportedReference reference place =>
    s!"Unsupported parameter reference '{reference}' in {place}"
  | .unknownReusable reference place =>
    s!"Unknown reusable parameter '{reference}' in {place}"
  | .unsupportedVersion version =>
    s!"Unsupported Arazzo version: {version} (expected 1.x)"
  | .duplicateWorkflow workflow => s!"Duplicate workflowId: '{workflow}'"
  | .duplicateStep step workflow => s!"Duplicate stepId '{step}' in workflow '{workflow}'"
  | .targetNotText place field found => s!"{place}: {field} must be a string, got {found.name}"
  | .noTarget place =>
    s!"{place} must specify one of operationId, operationPath or workflowId"
  | .manyTargets place fields =>
    s!"{place} specifies more than one operation reference: " ++ String.intercalate ", " fields
  | .badLocation place parameter location allowed =>
    s!"{place}: parameter '{parameter}' has invalid location '{location}' (expected one of " ++
      String.intercalate ", " allowed ++ ")"
  | .badActionType place field action type allowed =>
    s!"{place}: {field} action '{action}' has invalid type '{type}' (expected one of " ++
      String.intercalate ", " allowed ++ ")"
  | .pathsNotMapping => "OpenAPI 'paths' must be a mapping"
  | .unsupportedApiVersion version =>
    s!"Unsupported OpenAPI version: {version} (expected 3.0.x or 3.1.x)"
  | .noPaths => "OpenAPI document must define at least one path"
  | .notYaml path => s!"Failed to parse YAML in {path}"

/-- Why loading a document ends without one. -/
inductive LoadError where
  /-- The document is not accepted. -/
  | rejected (reason : Rejection)
  /-- There is no file at the path. -/
  | absent (path : String)
  /-- The data could not be handled. -/
  | fault (fault : Fault)
deriving DecidableEq, Inhabited

/-- The message for a document that is not accepted or not there; a fault has none. -/
def LoadError.message : LoadError → String
  | .rejected reason => reason.message
  | .absent path => s!"File not found: {path}"
  | .fault _ => ""

/-- A result that may be a fault, as part of loading. -/
def Fault.stop {α : Type} (result : Except Fault α) : Except LoadError α :=
  result.mapError .fault

/-- Loading ends because the document is not accepted. -/
def LoadError.refuse {α : Type} (reason : Rejection) : Except LoadError α :=
  .error (.rejected reason)

end FlowCheck
