import FlowCheck.Consistency.Targets
import FlowCheck.Expression

/-!
# Parameters of steps and operations

The second phase of the checks. A parameter of a step matches one of its operation when the names
are equal and the locations are, or when the step gives no location. A required parameter of the
operation has to be matched; a parameter of the step with a known name and another location is an
error, and one without any counterpart is worth a warning unless its value is an expression.
-/

namespace FlowCheck

/-- The parameter of the step matches the parameter of the operation. -/
def Parameter.matchesApi (parameter : Parameter) (declared : ApiParameter) : Bool :=
  parameter.name == declared.name &&
    (parameter.location.isNull || parameter.location.isStr declared.location)

/-- The first declared parameter of the same name, if none matches. -/
def Parameter.misplaced? (parameter : Parameter) (declared : List ApiParameter) :
    Option ApiParameter :=
  if declared.any parameter.matchesApi then none
  else declared.find? (·.name == parameter.name)

/-- The value of the parameter is written as an expression. -/
def Parameter.isExpression (parameter : Parameter) : Bool :=
  parameter.value.str?.any Expression.isExpression

/-- The required parameters that the step neither gives nor misplaces. -/
def missingParameters (step : Step) (declared : List ApiParameter) : List ApiParameter :=
  let misplaced := step.parameters.filterMap fun parameter =>
    (parameter.misplaced? declared).map ApiParameter.key
  declared.filter fun wanted =>
    wanted.required && !misplaced.contains wanted.key &&
      !step.parameters.any (·.matchesApi wanted)

/-- The error for a required parameter that is missing. -/
def missingParameter (place : Place) (source : String) (wanted : ApiParameter) : ErrorFinding where
  kind := .requiredParameterMissing
  message :=
    s!"Required parameter missing: '{wanted.name}' (in: {wanted.location}) is required by " ++
      "OpenAPI but not provided in step"
  place := place
  source := some source

/-- Checks one parameter of a step. -/
def checkParameter (place : Place) (source : String) (declared : List ApiParameter)
    (parameter : Parameter) : Except Fault Findings := do
  match parameter.misplaced? declared with
  | some known =>
    let location ← parameter.location.text
    return ⟨[{
      kind := .parameterLocationMismatch, place
      message :=
        s!"Parameter location mismatch: '{parameter.name}' is defined as 'in: {known.location}' " ++
          s!"in OpenAPI but provided as 'in: {location}' in step"
      source := some source }], []⟩
  | none =>
    if declared.any parameter.matchesApi || parameter.isExpression then return Report.empty
    let location ←
      if parameter.location.isGiven then parameter.location.text else pure "unspecified"
    return ⟨[], [{
      place
      message :=
        s!"Extra parameter: '{parameter.name}' (in: {location}) is not defined in OpenAPI " ++
          "operation" }]⟩

/-- Checks the parameters of a step against those of its operation. -/
def checkStepParameters (place : Place) (step : Step) (hit : Hit) : Except Fault Findings := do
  let declared := hit.endpoint.operation.parameters
  let missing := (missingParameters step declared).map (missingParameter place hit.source)
  let found ← step.parameters.mapM (checkParameter place hit.source declared)
  return Report.concat (⟨missing, []⟩ :: found)

/-- The findings about the parameters of the steps that call an operation. -/
def checkParameters (document : Document) (catalog : Catalog) : Except Fault Findings := do
  let found ← document.placedSteps.mapM fun (place, step) => do
    if !step.workflowId.isNull then return Report.empty
    match ← catalog.operationOf step with
    | none => return Report.empty
    | some hit => checkStepParameters place step hit
  return Report.concat found

end FlowCheck
