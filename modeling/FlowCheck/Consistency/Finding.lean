import FlowCheck.Report

/-!
# Findings

What the consistency checks report: errors of a known kind, and warnings. A finding names the
place that it is about: file and line, workflow and step.
-/

namespace FlowCheck

/-- The kinds of errors. -/
inductive ErrorKind where
  | operationIdNotFound | operationPathNotFound | workflowRefNotFound | requiredParameterMissing
  | parameterTypeMismatch | parameterLocationMismatch | invalidStepReference | stepOrderViolation
  | invalidInputReference | invalidResponseRefContext | requestBodySchemaMismatch
  | responseSchemaMismatch
deriving DecidableEq, Inhabited

namespace ErrorKind

/-- All kinds of errors. -/
def all : List ErrorKind :=
  [.operationIdNotFound, .operationPathNotFound, .workflowRefNotFound, .requiredParameterMissing,
    .parameterTypeMismatch, .parameterLocationMismatch, .invalidStepReference,
    .stepOrderViolation, .invalidInputReference, .invalidResponseRefContext,
    .requestBodySchemaMismatch, .responseSchemaMismatch]

/-- The name of a kind. -/
def name : ErrorKind → String
  | .operationIdNotFound => "OperationIdNotFound"
  | .operationPathNotFound => "OperationPathNotFound"
  | .workflowRefNotFound => "WorkflowRefNotFound"
  | .requiredParameterMissing => "RequiredParameterMissing"
  | .parameterTypeMismatch => "ParameterTypeMismatch"
  | .parameterLocationMismatch => "ParameterLocationMismatch"
  | .invalidStepReference => "InvalidStepReference"
  | .stepOrderViolation => "StepOrderViolation"
  | .invalidInputReference => "InvalidInputReference"
  | .invalidResponseRefContext => "InvalidResponseRefContext"
  | .requestBodySchemaMismatch => "RequestBodySchemaMismatch"
  | .responseSchemaMismatch => "ResponseSchemaMismatch"

/-- The kind with a name. -/
def ofName? (name : String) : Option ErrorKind :=
  all.find? fun kind => kind.name == name

end ErrorKind

/-- The place that a finding is about, as far as it is known. -/
structure Place where
  /-- The workflow. -/
  workflow : Option String := none
  /-- The step. -/
  step : Option String := none
  /-- The file. -/
  file : Option String := none
  /-- The line in the file. -/
  line : Option Int := none
deriving DecidableEq, Inhabited

/-- An error. -/
structure ErrorFinding where
  /-- The kind. -/
  kind : ErrorKind
  /-- What is wrong. -/
  message : String
  /-- Where it is wrong. -/
  place : Place
  /-- The API description that is involved. -/
  source : Option String := none
  /-- Names that may be meant. -/
  suggestion : Option String := none
deriving DecidableEq, Inhabited

/-- A warning. -/
structure WarningFinding where
  /-- What is suspicious. -/
  message : String
  /-- Where it is. -/
  place : Place
deriving DecidableEq, Inhabited

/-- The findings of the consistency checks. -/
abbrev Findings := Report ErrorFinding WarningFinding

/-- What is said about a document and its sources in the end. -/
abbrev ConsistencyVerdict := Verdict ErrorFinding WarningFinding

/-- A text that is there and not empty. -/
def filled? (text : Option String) : Option String :=
  text.filter (· != "")

namespace Place

/-- The file and the line. -/
def fileParts (place : Place) : List String :=
  match filled? place.file, place.line with
  | some file, some line => [s!"{file}:{line}"]
  | some file, none => [file]
  | none, _ => []

/-- The workflow and the step between brackets. -/
def stepParts (place : Place) : List String :=
  match filled? place.workflow, filled? place.step with
  | some workflow, some step => [s!"[workflow: {workflow}, step: {step}]"]
  | some workflow, none => [s!"[workflow: {workflow}]"]
  | none, some step => [s!"[step: {step}]"]
  | none, none => []

/-- The place in front of a message. -/
def parts (place : Place) (source : Option String) : List String :=
  place.fileParts ++ ((filled? source).map fun name => s!"[source: {name}]").toList ++
    place.stepParts

end Place

/-- An error in one line. -/
def ErrorFinding.text (finding : ErrorFinding) : String :=
  let line := String.intercalate " " (finding.place.parts finding.source ++ [finding.message])
  match filled? finding.suggestion with
  | some names => line ++ ". Did you mean " ++ names ++ "?"
  | none => line

/-- A warning in one line. -/
def WarningFinding.text (finding : WarningFinding) : String :=
  String.intercalate " " (finding.place.parts none ++ [finding.message])

/-- The errors of a kind. -/
def Report.errorsOfKind (findings : Findings) (kind : ErrorKind) : List ErrorFinding :=
  findings.errors.filter (·.kind == kind)

end FlowCheck
