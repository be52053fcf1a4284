import FlowCheck.Consistency.DataFlow
import FlowCheck.Consistency.Targets
import FlowCheck.Proofs.Document.Valid

/-!
# What a step refers to

A step of an accepted document refers to one thing: an operation by its id or by its path, or a
workflow. The first two phases of the checks look it up by themselves. Both lookups are described
here by `Target.hit?` and `Target.resolves`, so that the phases can be compared.
-/

namespace FlowCheck

open Result

/-- What a step refers to. -/
inductive Target where
  /-- An operation by its id. -/
  | operationId (id : String)
  /-- An operation by its method and its path. -/
  | operationPath (text : String)
  /-- A workflow by its id. -/
  | workflowId (id : String)
deriving DecidableEq

namespace Target

/-- The kind of the error about a reference that leads nowhere. -/
def errorKind : Target → ErrorKind
  | .operationId _ => .operationIdNotFound
  | .operationPath _ => .operationPathNotFound
  | .workflowId _ => .workflowRefNotFound

/-- The operation that a reference leads to. -/
def hit? (catalog : Catalog) : Target → Option Hit
  | .operationId id => catalog.byId? id none
  | .operationPath text => (splitPath? text).bind fun (method, path) => catalog.byPath? path method
  | .workflowId _ => none

/-- The reference leads to an operation of the catalog or to a workflow of the document. -/
def resolves (document : Document) (catalog : Catalog) : Target → Bool
  | .workflowId id => document.workflows.any (·.id == id)
  | target => (target.hit? catalog).isSome

/-- The text that is compared with the names to suggest. -/
def reference (catalog : Catalog) : Target → String
  | .operationId id => (unknownOperation catalog id).2.1
  | .operationPath text =>
    ((splitPath? text).map fun (method, path) => method ++ " " ++ path).getD text
  | .workflowId id => id

/-- The values among which there are names to suggest. -/
def candidates (document : Document) (catalog : Catalog) : Target → List Value
  | .operationId id => (unknownOperation catalog id).2.2
  | .operationPath _ => catalog.operationPaths.map .str
  | .workflowId _ => document.workflows.map fun workflow => .str workflow.id

/-- The error about a reference that leads nowhere, before anything is suggested. -/
def error (catalog : Catalog) (place : Place) (target : Target) : ErrorFinding where
  kind := target.errorKind
  message :=
    match target with
    | .operationId id => (unknownOperation catalog id).1
    | .operationPath text =>
      s!"{operationNotFound}operationPath '{text}' does not exist in any OpenAPI source"
    | .workflowId id =>
      s!"Workflow reference not found: workflowId '{id}' does not exist in Arazzo spec"
  place := place
  source :=
    match target with
    | .operationId id => (splitId id).1
    | _ => none

end Target

namespace Step

/-- The one thing that a step refers to. -/
def target? (step : Step) : Option Target :=
  match step.operationId, step.operationPath, step.workflowId with
  | .str id, .null, .null => some (.operationId id)
  | .null, .str text, .null => some (.operationPath text)
  | .null, .null, .str id => some (.workflowId id)
  | _, _, _ => none

variable {step : Step} {target : Target}

/-- A step that satisfies the rules refers to one thing. -/
theorem Valid.exists_target (h : step.Valid) : ∃ target, step.target? = some target := by
  obtain ⟨text, htext⟩ := h.target
  -- two of the three values are left out as null
  cases hid : step.operationId.isNull <;> cases hpath : step.operationPath.isNull <;>
    cases hworkflow : step.workflowId.isNull <;>
    simp only [hid, hpath, hworkflow, List.filter_cons, List.filter_nil, Bool.not_true,
      Bool.not_false, if_true, Bool.false_eq_true, if_false, List.cons.injEq, reduceCtorEq,
      and_false, and_true] at htext
  · rw [Value.isNull_iff] at hpath hworkflow
    exact ⟨.operationId text, by rw [target?, htext, hpath, hworkflow]⟩
  · rw [Value.isNull_iff] at hid hworkflow
    exact ⟨.operationPath text, by rw [target?, hid, htext, hworkflow]⟩
  · rw [Value.isNull_iff] at hid hpath
    exact ⟨.workflowId text, by rw [target?, hid, hpath, htext]⟩

/-- The three fields of a step, given what it refers to. -/
theorem fields_of_target? (h : step.target? = some target) :
    (∃ id, target = .operationId id ∧ step.operationId = .str id ∧ step.operationPath = .null ∧
        step.workflowId = .null) ∨
      (∃ text, target = .operationPath text ∧ step.operationId = .null ∧
        step.operationPath = .str text ∧ step.workflowId = .null) ∨
      ∃ id, target = .workflowId id ∧ step.operationId = .null ∧ step.operationPath = .null ∧
        step.workflowId = .str id := by
  rw [target?] at h
  split at h
  · next hid hpath hworkflow => exact .inl ⟨_, (Option.some.inj h).symm, hid, hpath, hworkflow⟩
  · next hid hpath hworkflow =>
    exact .inr (.inl ⟨_, (Option.some.inj h).symm, hid, hpath, hworkflow⟩)
  · next hid hpath hworkflow =>
    exact .inr (.inr ⟨_, (Option.some.inj h).symm, hid, hpath, hworkflow⟩)
  · cases h

/-- A step that runs a workflow refers to no operation. -/
theorem isNull_or_hit?_eq_none (catalog : Catalog) (h : step.target? = some target) :
    step.workflowId.isNull = true ∨ target.hit? catalog = none := by
  obtain ⟨id, rfl, -, -, hworkflow⟩ | ⟨text, rfl, -, -, hworkflow⟩ | ⟨id, rfl, -, -, -⟩ :=
    fields_of_target? h
  · exact .inl (hworkflow ▸ rfl)
  · exact .inl (hworkflow ▸ rfl)
  · exact .inr rfl

end Step

namespace Document

variable {document : Document} {entry : Place × Step}

/-- The steps of a document stand at the places that their workflows give them. -/
theorem mem_placedSteps :
    entry ∈ document.placedSteps ↔ ∃ workflow ∈ document.workflows, ∃ step ∈ workflow.steps,
      entry = (workflow.placeOf step, step) := by
  simp only [placedSteps, List.mem_flatMap, List.mem_map, eq_comm (a := entry)]
  rfl

/-- The rules hold for every step of a document that satisfies them. -/
theorem Valid.of_mem_placedSteps (h : document.Valid) (hentry : entry ∈ document.placedSteps) :
    entry.2.Valid := by
  obtain ⟨workflow, hworkflow, step, hstep, rfl⟩ := mem_placedSteps.1 hentry
  exact (h.workflows workflow hworkflow).steps step hstep

end Document

variable {document : Document} {catalog : Catalog} {cutoff : Cutoff} {place : Place} {step : Step}
  {target : Target}

/-- The operation of a step is the one that its reference leads to. -/
theorem Catalog.operationOf_eq (h : step.target? = some target) :
    catalog.operationOf step = .ok (target.hit? catalog) := by
  obtain ⟨id, rfl, hid, hpath, hworkflow⟩ | ⟨text, rfl, hid, hpath, hworkflow⟩ |
    ⟨id, rfl, hid, hpath, hworkflow⟩ := Step.fields_of_target? h <;>
  · rw [Catalog.operationOf, hid, hpath]
    rfl

/-- A reference that leads somewhere is no error. About any other there is one error, which offers
what can be suggested. -/
theorem checkTarget_eq (h : step.target? = some target) :
    checkTarget document catalog cutoff place step =
      if target.resolves document catalog then .ok none
      else
        (suggest (target.reference catalog) (target.candidates document catalog)
          Suggestion.standardLimit cutoff).map fun suggestion =>
            some { target.error catalog place with suggestion } := by
  obtain ⟨id, rfl, hid, -, -⟩ | ⟨text, rfl, hid, hpath, -⟩ | ⟨id, rfl, hid, hpath, hworkflow⟩ :=
    Step.fields_of_target? h
  · rw [checkTarget, hid]
    simp only [checkOperationId, Value.needText, SuggestError.stop, Except.mapError, ok_bind,
      bind_pure_eq_map]
    rfl
  · rw [checkTarget, hid, hpath]
    simp only [checkOperationPath, Value.needText, SuggestError.stop, Except.mapError, ok_bind,
      bind_pure_eq_map]
    rfl
  · rw [checkTarget, hid, hpath, hworkflow]
    simp only [checkWorkflowId, Value.isStr, Value.text_str, Value.str?, Option.elim,
      SuggestError.stop, Except.mapError, ok_bind, bind_pure_eq_map]
    simp only [Target.resolves, BEq.comm (a := id)]
    rfl

/-- The check of a reference succeeds without an error if it leads somewhere, and with one that
offers what can be suggested if it leads nowhere. -/
theorem checkTarget_eq_ok_iff (htarget : step.target? = some target)
    {error? : Option ErrorFinding} :
    checkTarget document catalog cutoff place step = .ok error? ↔
      if target.resolves document catalog then error? = none
      else ∃ suggestion, suggest (target.reference catalog) (target.candidates document catalog)
          Suggestion.standardLimit cutoff = .ok suggestion ∧
        error? = some { target.error catalog place with suggestion } := by
  rw [checkTarget_eq htarget]
  split
  · rw [Except.ok.injEq, eq_comm]
  · rw [map_eq_ok_iff]
    simp only [eq_comm]

end FlowCheck
