import FlowCheck.Consistency.Finding
import FlowCheck.Document.References

/-!
# Data between steps

The third phase of the checks. A step may use the outputs of the steps before it. Outputs that no
later step and no output of the workflow uses are worth a warning, and so are inputs of a workflow
that does not declare any.
-/

namespace FlowCheck

namespace Workflow

/-- The place of the last step with an id. -/
def position? (workflow : Workflow) (id : String) : Option Nat :=
  (workflow.steps.zipIdx.reverse.find? fun entry => entry.1.id == id).map Prod.snd

/-- The place of a step in a document. -/
def placeOf (workflow : Workflow) (step : Step) : Place :=
  { workflow := some workflow.id, step := some step.id }

/-- The finding about one expression in step `i`. -/
def checkExpression (workflow : Workflow) (step : Step) (i : Nat) (e : Expression) : Findings :=
  let place := workflow.placeOf step
  match e.target with
  | .stepOutput id path =>
    match workflow.position? id with
    | none =>
      ⟨[{ kind := .invalidStepReference, place
          message :=
            s!"Invalid step reference: $steps.{id}.outputs.{path} refers to non-existent " ++
              s!"step '{id}'" }], []⟩
    | some position =>
      if position < i then Report.empty
      else
        ⟨[{ kind := .stepOrderViolation, place
            message :=
              s!"Step order violation: step '{step.id}' references outputs from step '{id}' " ++
                "which comes after it in execution order" }], []⟩
  | .input path =>
    if workflow.inputs.isNull then
      ⟨[], [{ place
              message :=
                s!"Input reference $inputs.{path} used but workflow does not define inputs" }]⟩
    else Report.empty
  | _ => Report.empty

/-- The id of an earlier step whose output an expression in step `i` uses. -/
def usedBy? (workflow : Workflow) (i : Nat) (e : Expression) : Option String :=
  e.target.step?.filter fun id => (workflow.position? id).any (· < i)

/-- The ids of the steps whose outputs are used, by later steps or by the workflow's outputs. -/
def usedSteps (workflow : Workflow) : List String :=
  (workflow.steps.zipIdx.flatMap fun (step, i) =>
      step.expressions.filterMap (workflow.usedBy? i)) ++
    ((workflow.outputs.map fun outputs => Expression.collect (.map outputs)).getD []).filterMap
      fun e => e.target.step?.filter fun id => (workflow.position? id).isSome

/-- The steps with outputs that are never used. -/
def unusedSteps (workflow : Workflow) : List Step :=
  let used := workflow.usedSteps
  workflow.steps.filter fun step => step.hasOutputs && !used.contains step.id

/-- The findings about the data between the steps. -/
def checkData (workflow : Workflow) : Findings :=
  let references := workflow.steps.zipIdx.flatMap fun (step, i) =>
    step.expressions.map (workflow.checkExpression step i)
  let unused := workflow.unusedSteps.map fun step => {
    message :=
      "Unused output: step defines outputs but they are never referenced by subsequent steps"
    place := workflow.placeOf step }
  Report.append (Report.concat references) ⟨[], unused⟩

end Workflow

/-- The findings about the data between the steps of all workflows. -/
def checkDataFlow (document : Document) : Findings :=
  Report.concat (document.workflows.map Workflow.checkData)

end FlowCheck
