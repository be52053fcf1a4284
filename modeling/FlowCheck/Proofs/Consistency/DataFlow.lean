import FlowCheck.Proofs.Consistency.Finding
import FlowCheck.Proofs.Consistency.Position
import FlowCheck.Proofs.Document.References
import FlowCheck.Proofs.Document.Valid

/-!
# The data between the steps

The third phase of the checks collects, in one pass over the steps of a workflow, errors about
references, outputs that are used and warnings. In an accepted document the findings about one step
can be told without the pass (`checkDataFlow_about`): they depend on the references of that step, on
the steps before it, and for unused outputs on the steps after it and the outputs of the workflow.

## Main definitions

* `Step.outputReferences`, `Step.inputPaths`: what a step refers to, each thing once;
* `Workflow.openReferences`: the references of a step to outputs that no step before it has;
* `Workflow.ReportsReference`: the error about such a reference;
* `Workflow.OutputsUnused`: the outputs of a step are never used.
-/

namespace FlowCheck

namespace Reference

/-- The step and the path of an output that is referred to. -/
def output? : Reference → Option (String × String)
  | .stepOutput step path => some (step, path)
  | _ => none

/-- The path of an input that is referred to. -/
def inputPath? : Reference → Option String
  | .input path => some path
  | _ => none

/-- References to one output are equal. -/
theorem eq_of_output? (x y : Reference) (output : String × String) (hx : x.output? = some output)
    (hy : y.output? = some output) : x = y := by
  cases x <;> cases y <;> simp_all [output?]
  grind

/-- References to one input are equal. -/
theorem eq_of_inputPath? (x y : Reference) (path : String) (hx : x.inputPath? = some path)
    (hy : y.inputPath? = some path) : x = y := by
  cases x <;> cases y <;> simp_all [inputPath?]

end Reference

namespace Step

/-- The outputs to which the checked values of a step refer, each once and in the order of the first
occurrences, as step and path. -/
def outputReferences (step : Step) : List (String × String) :=
  ((Expression.collectItems step.checkedValues).filterMap (·.target.output?)).eraseDups

/-- The paths of the inputs to which the checked values of a step refer, each once and in the order
of the first occurrences. -/
def inputPaths (step : Step) : List String :=
  ((Expression.collectItems step.checkedValues).filterMap (·.target.inputPath?)).eraseDups

variable {step : Step} {id : String}

/-- Distinct expressions have the same distinct references of a kind as all expressions. -/
theorem filterMap_expressions {α : Type} [BEq α] [LawfulBEq α] {select : Reference → Option α}
    (hselect : ∀ x y a, select x = some a → select y = some a → x = y) (step : Step) :
    step.expressions.filterMap (fun e => select e.target) =
      ((Expression.collectItems step.checkedValues).filterMap fun e =>
        select e.target).eraseDups := by
  have hcomp (found : List Expression) :
      found.filterMap (fun e => select e.target) = (found.map (·.target)).filterMap select := by
    rw [List.filterMap_map]
    rfl
  rw [hcomp, hcomp, expressions, Expression.map_target_distinct, filterMap_eraseDups hselect]

/-- The outputs that a step refers to are those of its distinct expressions. -/
theorem filterMap_output?_expressions (step : Step) :
    step.expressions.filterMap (·.target.output?) = step.outputReferences :=
  filterMap_expressions Reference.eq_of_output? step

/-- The inputs that a step refers to are those of its distinct expressions. -/
theorem filterMap_inputPath?_expressions (step : Step) :
    step.expressions.filterMap (·.target.inputPath?) = step.inputPaths :=
  filterMap_expressions Reference.eq_of_inputPath? step

/-- The steps that a step refers to are those of the outputs that it refers to. -/
theorem mem_map_outputReferences :
    id ∈ step.outputReferences.map Prod.fst ↔
      ∃ e ∈ step.expressions, e.target.step? = some id := by
  rw [← filterMap_output?_expressions, List.mem_map]
  simp only [List.mem_filterMap]
  constructor
  · rintro ⟨output, ⟨e, he, houtput⟩, rfl⟩
    refine ⟨e, he, ?_⟩
    cases htarget : e.target <;> simp_all [Reference.output?, Reference.step?]
    grind
  · rintro ⟨e, he, hstep⟩
    cases htarget : e.target with
    | stepOutput other path =>
      rw [htarget] at hstep
      exact ⟨(other, path), ⟨e, he, htarget ▸ rfl⟩, Option.some.inj hstep⟩
    | _ => simp [htarget, Reference.step?] at hstep

end Step

/-- The warning about an input of a workflow that declares none. -/
def inputWarning (place : Place) (path : String) : WarningFinding where
  message := s!"Input reference $inputs.{path} used but workflow does not define inputs"
  place := place

/-- The warning about outputs that are never used. -/
def unusedWarning (place : Place) : WarningFinding where
  message := "Unused output: step defines outputs but they are never referenced by subsequent steps"
  place := place

namespace Workflow

/-- The reference names one of the first `i` steps. -/
def namesBefore (workflow : Workflow) (i : ℕ) (reference : String × String) : Bool :=
  (workflow.steps.take i).any fun other => other.id == reference.1

/-- The references of step `i` that do not name a step before it. -/
def openReferences (workflow : Workflow) (step : Step) (i : ℕ) : List (String × String) :=
  step.outputReferences.filter fun reference => !workflow.namesBefore i reference

/-- The error about a reference of step `i` that does not name a step before it. -/
structure ReportsReference (workflow : Workflow) (step : Step) (i : ℕ)
    (reference : String × String) (error : ErrorFinding) : Prop where
  place : error.place = workflow.placeOf step
  invalid_iff : error.kind = .invalidStepReference ↔
    ∀ other ∈ workflow.steps, other.id ≠ reference.1
  order_iff : error.kind = .stepOrderViolation ↔
    ∃ other ∈ workflow.steps.drop i, other.id = reference.1
  found : ∀ raw, (workflow.checkExpression step i
    ⟨.stepOutput reference.1 reference.2, raw⟩).errors = [error]

/-- The expressions in the outputs of the workflow. -/
def outputExpressions (workflow : Workflow) : List Expression :=
  (workflow.outputs.map fun outputs => Expression.collect (.map outputs)).getD []

/-- Step `i` has outputs, and neither a later step nor an output of the workflow refers to it. -/
def OutputsUnused (workflow : Workflow) (step : Step) (i : ℕ) : Prop :=
  step.hasOutputs = true ∧
    (∀ later ∈ workflow.steps.drop (i + 1), step.id ∉ later.outputReferences.map Prod.fst) ∧
    ∀ e ∈ workflow.outputExpressions, e.target.step? ≠ some step.id

instance (workflow : Workflow) (step : Step) (i : ℕ) : Decidable (workflow.OutputsUnused step i) :=
  inferInstanceAs (Decidable (_ ∧ _ ∧ _))

/-- The findings about the references of step `i`. -/
def stepFindings (workflow : Workflow) (step : Step) (i : ℕ) : Findings :=
  Report.concat (step.expressions.map (workflow.checkExpression step i))

/-- The findings about the outputs of a step. -/
def outputFindings (workflow : Workflow) (step : Step) : Findings :=
  if step.hasOutputs && !workflow.usedSteps.contains step.id then
    ⟨[], [unusedWarning (workflow.placeOf step)]⟩
  else Report.empty

variable {workflow : Workflow} {step : Step} {i : ℕ}

/-- Steps with other ids have other places. -/
theorem placeOf_ne {other : Step} (h : other.id ≠ step.id) :
    workflow.placeOf other ≠ workflow.placeOf step := by
  simpa [placeOf] using h

/-- What is found about an expression is at the place of its step. -/
theorem within_checkExpression (step : Step) (i : ℕ) (e : Expression) :
    (workflow.checkExpression step i e).Within (· = workflow.placeOf step) := by
  rw [checkExpression]
  split
  · split
    · exact ⟨by simp, by simp⟩
    · split
      · exact Report.within_empty
      · exact ⟨by simp, by simp⟩
  · split
    · exact ⟨by simp, by simp⟩
    · exact Report.within_empty
  · exact Report.within_empty

/-- What is found about the references of a step is at its place. -/
theorem within_stepFindings (step : Step) (i : ℕ) :
    (workflow.stepFindings step i).Within (· = workflow.placeOf step) := by
  refine Report.within_concat fun report hreport => ?_
  obtain ⟨e, -, rfl⟩ := List.mem_map.1 hreport
  exact within_checkExpression step i e

/-- What is found about the outputs of a step is at its place. -/
theorem within_outputFindings (step : Step) :
    (workflow.outputFindings step).Within (· = workflow.placeOf step) := by
  rw [outputFindings]
  split
  · exact ⟨by simp, by simp [unusedWarning]⟩
  · exact Report.within_empty

/-- The findings about a workflow are put together step by step: those about the references first,
then those about the outputs. -/
theorem checkData_eq (workflow : Workflow) :
    workflow.checkData =
      (Report.concat (workflow.steps.zipIdx.map fun entry =>
        workflow.stepFindings entry.1 entry.2)).append
      (Report.concat (workflow.steps.map workflow.outputFindings)) := by
  -- the warnings about outputs come from one filter over the steps, here taken apart step by step
  have hunused : (⟨[], workflow.unusedSteps.map fun step =>
      unusedWarning (workflow.placeOf step)⟩ : Findings) =
        Report.concat (workflow.steps.map workflow.outputFindings) := by
    rw [unusedSteps]
    induction workflow.steps with
    | nil => rfl
    | cons step rest ih =>
      rw [List.map_cons, Report.concat_cons, ← ih, List.filter_cons, outputFindings]
      split <;> rfl
  rw [← hunused, checkData, Report.concat_flatMap]
  rfl

/-- All findings about a workflow are at the places of its steps. -/
theorem within_checkData (workflow : Workflow) :
    workflow.checkData.Within fun place =>
      ∃ step ∈ workflow.steps, place = workflow.placeOf step := by
  rw [checkData_eq]
  refine Report.Within.append ?_ ?_ <;> refine Report.within_concat fun report hreport => ?_
  · obtain ⟨⟨step, i⟩, hmem, rfl⟩ := List.mem_map.1 hreport
    have hstep := List.mem_of_getElem? (List.mk_mem_zipIdx_iff_getElem?.1 hmem)
    exact (within_stepFindings step i).imp fun place hplace => ⟨step, hstep, hplace⟩
  · obtain ⟨step, hstep, rfl⟩ := List.mem_map.1 hreport
    exact (within_outputFindings step).imp fun place hplace => ⟨step, hstep, hplace⟩

/-- The warning about an input is there exactly if the workflow declares none. -/
theorem warnings_checkExpression (workflow : Workflow) (step : Step) (i : ℕ) (e : Expression) :
    (workflow.checkExpression step i e).warnings =
      if workflow.inputs.isNull then
        e.target.inputPath?.toList.map (inputWarning (workflow.placeOf step))
      else [] := by
  obtain ⟨target, raw⟩ := e
  rw [checkExpression]
  cases target with
  | stepOutput id path =>
    simp only [Reference.inputPath?, Option.toList_none, List.map_nil, ite_self]
    split
    · rfl
    · split <;> rfl
  | input path => cases workflow.inputs.isNull <;> rfl
  | _ => exact (ite_self []).symm

/-- The warnings about the references of a step are those about distinct inputs. -/
theorem warnings_stepFindings (workflow : Workflow) (step : Step) (i : ℕ) :
    (workflow.stepFindings step i).warnings =
      if workflow.inputs.isNull then step.inputPaths.map (inputWarning (workflow.placeOf step))
      else [] := by
  rw [stepFindings, Report.warnings_concat, List.flatMap_map,
    ← Step.filterMap_inputPath?_expressions, List.filterMap_eq_flatMap_toList, List.map_flatMap]
  simp only [warnings_checkExpression]
  split
  · rfl
  · exact List.flatMap_eq_nil_iff.2 fun _ _ => rfl

section Nodup

variable (hnodup : (workflow.steps.map (·.id)).Nodup)
include hnodup

/-- Where no two steps have one id, a reference names a step before `i` when the place of its step
is before `i`. -/
theorem namesBefore_iff {reference : String × String} :
    workflow.namesBefore i reference = true ↔
      ∃ j, workflow.position? reference.1 = some j ∧ j < i := by
  simp only [← exists_mem_take_iff hnodup, namesBefore, List.any_eq_true, beq_iff_eq]

/-- There is no error about a reference that names a step before. -/
theorem errors_of_namesBefore {id path : String} (h : workflow.namesBefore i (id, path) = true)
    (step : Step) (raw : String) :
    (workflow.checkExpression step i ⟨.stepOutput id path, raw⟩).errors = [] := by
  obtain ⟨j, hposition, hlt⟩ := (namesBefore_iff hnodup).1 h
  simp [checkExpression, hposition, hlt, Report.empty]

/-- There is one error about a reference that does not name a step before. -/
theorem exists_reportsReference {reference : String × String}
    (h : workflow.namesBefore i reference = false) (step : Step) :
    ∃ error, workflow.ReportsReference step i reference error := by
  have hle (j : ℕ) (hposition : workflow.position? reference.1 = some j) : i ≤ j := by
    by_contra hnot
    rw [(namesBefore_iff hnodup).2 ⟨j, hposition, Nat.not_le.1 hnot⟩] at h
    cases h
  obtain ⟨error, hplace, hkind, hfound⟩ : ∃ error : ErrorFinding,
      error.place = workflow.placeOf step ∧
        error.kind = (if (workflow.position? reference.1).isNone then .invalidStepReference
          else .stepOrderViolation) ∧
        ∀ raw, (workflow.checkExpression step i
          ⟨.stepOutput reference.1 reference.2, raw⟩).errors = [error] := by
    cases hposition : workflow.position? reference.1 with
    | none => simp [checkExpression, hposition]
    | some j => simp [checkExpression, hposition, Nat.not_lt.2 (hle j hposition)]
  refine ⟨error, hplace, ?_, ?_, hfound⟩
  · rw [hkind, ← position?_eq_none_iff]
    cases workflow.position? reference.1 <;> simp
  · rw [hkind, exists_mem_drop_iff hnodup]
    cases hposition : workflow.position? reference.1 with
    | none => simp
    | some j => simpa using hle j hposition

/-- About an expression there is an error exactly if it refers to an output and does not name a step
before. -/
theorem forall₂_errors_checkExpression (step : Step) (i : ℕ) (e : Expression) :
    List.Forall₂ (workflow.ReportsReference step i)
      (e.target.output?.toList.filter fun reference => !workflow.namesBefore i reference)
      (workflow.checkExpression step i e).errors := by
  obtain ⟨target, raw⟩ := e
  cases target with
  | stepOutput id path =>
    change List.Forall₂ _ ([(id, path)].filter _) _
    rw [List.filter_singleton]
    cases h : workflow.namesBefore i (id, path) with
    | true =>
      rw [errors_of_namesBefore hnodup h]
      exact .nil
    | false =>
      obtain ⟨error, herror⟩ := exists_reportsReference hnodup h step
      rw [herror.found raw]
      exact .cons herror .nil
  | input path =>
    rw [checkExpression]
    cases workflow.inputs.isNull <;> exact .nil
  | _ => exact .nil

/-- The errors about the references of a step are those about its distinct references that do not
name a step before. -/
theorem forall₂_errors_stepFindings (step : Step) (i : ℕ) :
    List.Forall₂ (workflow.ReportsReference step i) (workflow.openReferences step i)
      (workflow.stepFindings step i).errors := by
  rw [stepFindings, Report.errors_concat, List.flatMap_map, openReferences,
    ← Step.filterMap_output?_expressions, List.filterMap_eq_flatMap_toList, List.filter_flatMap]
  have hsame : List.Forall₂ Eq step.expressions step.expressions := List.forall₂_refl _
  refine List.rel_flatMap hsame fun e other heq => ?_
  exact heq ▸ forall₂_errors_checkExpression hnodup step i e

/-- An output of step `i` is used where a later step or an output of the workflow refers to it. -/
theorem mem_usedSteps_iff (hstep : workflow.steps[i]? = some step) :
    step.id ∈ workflow.usedSteps ↔
      (∃ later ∈ workflow.steps.drop (i + 1), step.id ∈ later.outputReferences.map Prod.fst) ∨
        ∃ e ∈ workflow.outputExpressions, e.target.step? = some step.id := by
  have hposition : workflow.position? step.id = some i :=
    (position?_eq_some_iff hnodup).2 ⟨step, hstep, rfl⟩
  rw [usedSteps, List.mem_append]
  -- a use by a step counts only if the place `i` of the output is before that of the user
  refine or_congr ?_ ?_
  · simp only [List.mem_flatMap, List.mem_filterMap, usedBy?, Option.filter_eq_some_iff, hposition,
      Option.any_some, decide_eq_true_eq, Step.mem_map_outputReferences, mem_drop_steps,
      Prod.exists, List.mk_mem_zipIdx_iff_getElem?]
    grind
  · simp only [List.mem_filterMap, Option.filter_eq_some_iff, hposition, Option.isSome_some,
      and_true]
    rfl

/-- The warning about the outputs of step `i` is there exactly if they are unused. -/
theorem outputFindings_eq (hstep : workflow.steps[i]? = some step) :
    workflow.outputFindings step =
      if workflow.OutputsUnused step i then ⟨[], [unusedWarning (workflow.placeOf step)]⟩
      else Report.empty := by
  have hunused : (step.hasOutputs && !workflow.usedSteps.contains step.id) = true ↔
      workflow.OutputsUnused step i := by
    rw [Bool.and_eq_true, Bool.not_eq_true', ← Bool.not_eq_true, List.contains_iff_mem,
      mem_usedSteps_iff hnodup hstep, OutputsUnused]
    simp only [not_or, not_exists, not_and, ne_eq]
  simp only [outputFindings, hunused]

/-- The findings at the place of step `i` are those about its references and about its outputs. -/
theorem about_checkData (hstep : workflow.steps[i]? = some step) :
    workflow.checkData.about (workflow.placeOf step) =
      (workflow.stepFindings step i).append (workflow.outputFindings step) := by
  have hids : (workflow.steps.zipIdx.map fun entry => entry.1.id) =
      workflow.steps.map (·.id) := by
    calc (workflow.steps.zipIdx.map fun entry => entry.1.id)
        = (workflow.steps.zipIdx.map Prod.fst).map (·.id) := by rw [List.map_map]; rfl
      _ = workflow.steps.map (·.id) := by rw [List.zipIdx_map_fst]
  have hmem : (step, i) ∈ workflow.steps.zipIdx := List.mk_mem_zipIdx_iff_getElem?.2 hstep
  rw [checkData_eq, Report.about_append]
  congr 1
  · rw [Report.about_concat_map (hids ▸ hnodup) hmem fun entry _ hne =>
      (within_stepFindings entry.1 entry.2).imp fun _ hplace => hplace ▸ placeOf_ne hne]
    exact (within_stepFindings step i).about_eq_self
  · rw [Report.about_concat_map hnodup (List.mem_of_getElem? hstep) fun other _ hne =>
      (within_outputFindings other).imp fun _ hplace => hplace ▸ placeOf_ne hne]
    exact (within_outputFindings step).about_eq_self

end Nodup

/-- The findings at the place of a step are those about its workflow. -/
theorem about_checkDataFlow {document : Document}
    (hnodup : (document.workflows.map (·.id)).Nodup) (hworkflow : workflow ∈ document.workflows)
    (step : Step) :
    (checkDataFlow document).about (workflow.placeOf step) =
      workflow.checkData.about (workflow.placeOf step) := by
  refine Report.about_concat_map hnodup hworkflow fun other _ hne => ?_
  refine (within_checkData other).imp ?_
  -- the place of a step says to which workflow it belongs
  rintro _ ⟨_, -, rfl⟩ heq
  exact hne (Option.some.inj (congrArg Place.workflow heq))

/-- What the phase finds about step `i` of an accepted document. There is one error for each
distinct reference to an output that does not name a step before, in the order of the references.
Then there is one warning for each distinct input if the workflow declares none, and one for the
outputs of the step if nothing uses them. -/
theorem checkDataFlow_about {value : Value} {document : Document}
    (hread : Document.read value = .ok document) (hworkflow : workflow ∈ document.workflows)
    (hstep : workflow.steps[i]? = some step) :
    List.Forall₂ (workflow.ReportsReference step i) (workflow.openReferences step i)
        ((checkDataFlow document).about (workflow.placeOf step)).errors ∧
      ((checkDataFlow document).about (workflow.placeOf step)).warnings =
        (if workflow.inputs.isNull then step.inputPaths.map (inputWarning (workflow.placeOf step))
          else []) ++
        if workflow.OutputsUnused step i then [unusedWarning (workflow.placeOf step)] else [] := by
  have hvalid := (Document.read_eq_ok_iff.1 hread).2
  have hnodup := (hvalid.workflows workflow hworkflow).nodup
  rw [about_checkDataFlow hvalid.nodup hworkflow, about_checkData hnodup hstep,
    outputFindings_eq hnodup hstep]
  constructor
  · have herrors := forall₂_errors_stepFindings hnodup step i
    split <;> simpa [Report.append, Report.empty] using herrors
  · rw [Report.append, warnings_stepFindings]
    split <;> rfl

end Workflow

/-- The value of a document with two steps. The second one needs the outputs of the first one, of
itself and of a step that does not exist, and an input. -/
def walkDocument : Value :=
  let parameter (name value : String) : Value := .map [(.str "name", .str name),
    (.str "in", .str "query"), (.str "value", .str value)]
  let first : Value := .map [(.str "stepId", .str "first"), (.str "operationId", .str "list"),
    (.str "outputs", .map [(.str "next", .str "$response.body#/next")])]
  let other : Value := .map [(.str "stepId", .str "other"), (.str "operationId", .str "list"),
    (.str "parameters", .list [parameter "page" "$steps.first.outputs.next",
      parameter "mark" "$steps.other.outputs.next/$steps.third.outputs.next",
      parameter "size" "$inputs.size"]),
    (.str "outputs", .map [(.str "next", .str "$response.body#/next")])]
  let workflow : Value := .map [(.str "workflowId", .str "walk"),
    (.str "steps", .list [first, other])]
  .map [(.str "arazzo", .str "1.0.0"),
    (.str "info", .map [(.str "title", .str "Walk"), (.str "version", .str "1")]),
    (.str "workflows", .list [workflow])]

/-- Two of the references of the second step are errors; the input is not declared, and the outputs
of the step are unused. -/
theorem checkDataFlow_walkDocument :
    ∃ document workflow step, Document.read walkDocument = .ok document ∧
      workflow ∈ document.workflows ∧ workflow.steps[1]? = some step ∧
      List.Forall₂ (workflow.ReportsReference step 1) [("other", "next/"), ("third", "next")]
        ((checkDataFlow document).about (workflow.placeOf step)).errors ∧
      ((checkDataFlow document).about (workflow.placeOf step)).warnings =
        [inputWarning (workflow.placeOf step) "size",
          unusedWarning (workflow.placeOf step)] := by
  have hread : Document.read walkDocument = .ok _ := rfl
  obtain ⟨herrors, hwarnings⟩ := Workflow.checkDataFlow_about hread List.mem_cons_self (i := 1) rfl
  exact ⟨_, _, _, hread, List.mem_cons_self, rfl, herrors, hwarnings⟩

end FlowCheck
