import FlowCheck.Document.Reader

/-!
# The rules for accepted documents

Beyond its shape, an accepted document has a version that is understood, distinct ids of
workflows, distinct ids of steps within each workflow, and steps that refer to their operation in
exactly one way, with known parameter locations and action types. `Document.read` reads a value
and checks the rules.
-/

namespace FlowCheck

/-- The versions of the format that are understood start with this text. -/
def Document.supportedStart : String := "1."

/-- The types of the actions that may follow success. -/
def Action.successTypes : List String := [Action.finish, Action.goto]

/-- The types of the actions that may follow failure. -/
def Action.failureTypes : List String := [Action.finish, Action.goto, Action.retry]

/-- The values that say what a step calls have to be texts. -/
def Step.checkTargetTexts (step : Step) (place : String) : Except LoadError Unit :=
  step.targets.forM fun target =>
    match target.2 with
    | .null => .ok ()
    | .str _ => .ok ()
    | other => LoadError.refuse (.targetNotText place target.1 other.kind)

/-- A step calls exactly one thing. -/
def Step.checkTargetCount (step : Step) (place : String) : Except LoadError Unit :=
  match step.targetFields with
  | [] => LoadError.refuse (.noTarget place)
  | [_] => .ok ()
  | fields => LoadError.refuse (.manyTargets place fields)

/-- A parameter has a known location, or none. -/
def Parameter.check (parameter : Parameter) (place : String) : Except LoadError Unit :=
  if parameter.location.isNull || Parameter.locations.any (parameter.location.isStr ·) then .ok ()
  else do
    -- the location can be any value, and is shown as its text
    let location ← textOf parameter.location
    LoadError.refuse (.badLocation place parameter.name location Parameter.locations)

/-- An action has one of the types that its list allows, or refers to a reusable action. -/
def Action.check (action : Action) (place field : String) (allowed : List String) :
    Except LoadError Unit :=
  if action.type = Action.referenceType || allowed.contains action.type then .ok ()
  else LoadError.refuse (.badActionType place field action.name action.type allowed)

/-- The rules for one step. -/
def Step.check (step : Step) (place : String) : Except LoadError Unit := do
  step.checkTargetTexts place
  step.checkTargetCount place
  step.parameters.forM (·.check place)
  (step.onSuccess.getD []).forM (·.check place "onSuccess" Action.successTypes)
  (step.onFailure.getD []).forM (·.check place "onFailure" Action.failureTypes)

/-- Checks each item, once it is clear that no item before has its id; `seen` holds the ids of the
items before. -/
def checkDistinct {α : Type} (id : α → String) (duplicate : String → Rejection)
    (check : α → Except LoadError Unit) : List String → List α → Except LoadError Unit
  | _, [] => .ok ()
  | seen, item :: rest =>
    if seen.contains (id item) then LoadError.refuse (duplicate (id item))
    else do
      -- an item is checked before the ids after it are looked at
      check item
      checkDistinct id duplicate check (id item :: seen) rest

/-- The rules for one workflow. -/
def Workflow.check (workflow : Workflow) : Except LoadError Unit :=
  checkDistinct (·.id) (.duplicateStep · workflow.id)
    (fun step => step.check s!"Step '{step.id}' in workflow '{workflow.id}'") [] workflow.steps

/-- The rules for a document. -/
def Document.check (document : Document) : Except LoadError Unit :=
  if Document.supportedStart.toList.isPrefixOf document.version.toList then
    checkDistinct (·.id) .duplicateWorkflow Workflow.check [] document.workflows
  else LoadError.refuse (.unsupportedVersion document.version)

/-- The accepted document that a value holds. -/
def Document.read (value : Value) : Except LoadError Document := do
  let document ← Document.ofValue value
  document.check
  return document

end FlowCheck
