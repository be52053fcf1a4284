import FlowCheck.Proofs.Document.Held
import Mathlib.Data.List.Nodup

/-!
# The rules as properties

What the rules for accepted documents ask for, said of the documents themselves. A value is accepted
exactly as the documents that it holds and that satisfy the rules (`Document.read_eq_ok_iff`).
-/

namespace FlowCheck

open Result

/-- The value is null or a known location. -/
def Value.IsLocation (value : Value) : Prop :=
  value.isNull = true ∨ ∃ location ∈ Parameter.locations, value = .str location

/-- An action may have the type: it refers to a reusable action, or the type is allowed. -/
def Action.MayBe (allowed : List String) (type : String) : Prop :=
  type = Action.referenceType ∨ type ∈ allowed

/-- Exactly one of the three values that say what a step calls is there, and it is a text. -/
def HasOneTarget (operationId operationPath workflowId : Value) : Prop :=
  ∃ text, [operationId, operationPath, workflowId].filter (!·.isNull) = [Value.str text]

/-- The rules hold for a step. -/
structure Step.Valid (step : Step) : Prop where
  target : HasOneTarget step.operationId step.operationPath step.workflowId
  parameters : ∀ parameter ∈ step.parameters, parameter.location.IsLocation
  onSuccess : ∀ action ∈ step.onSuccess.getD [], Action.MayBe Action.successTypes action.type
  onFailure : ∀ action ∈ step.onFailure.getD [], Action.MayBe Action.failureTypes action.type

/-- The rules hold for a workflow. -/
structure Workflow.Valid (workflow : Workflow) : Prop where
  nodup : (workflow.steps.map (·.id)).Nodup
  steps : ∀ step ∈ workflow.steps, step.Valid

/-- The rules hold for a document. -/
structure Document.Valid (document : Document) : Prop where
  version : ∃ rest, document.version = Document.supportedStart ++ rest
  nodup : (document.workflows.map (·.id)).Nodup
  workflows : ∀ workflow ∈ document.workflows, workflow.Valid

/-- A parameter passes the check when it has a known location, or none. -/
theorem Parameter.check_eq_ok_iff {parameter : Parameter} {place : String} :
    parameter.check place = .ok () ↔ parameter.location.IsLocation := by
  rw [Parameter.check, Value.IsLocation]
  split
  · next h =>
    refine iff_of_true rfl ?_
    rw [Bool.or_eq_true, List.any_eq_true] at h
    refine h.imp_right fun ⟨location, hmem, heq⟩ => ⟨location, hmem, ?_⟩
    cases hvalue : parameter.location <;> simp_all [Value.isStr]
  · next h =>
    -- the location is only shown in the message, so that the check ends without success anyway
    refine iff_of_false ?_ fun hlocation => h ?_
    · simp [bind_eq_ok_iff, refuse_ne_ok]
    · rw [Bool.or_eq_true, List.any_eq_true]
      refine hlocation.imp_right fun ⟨location, hmem, heq⟩ => ⟨location, hmem, ?_⟩
      simp [heq, Value.isStr]

/-- An action passes the check when its list allows its type. -/
theorem Action.check_eq_ok_iff {action : Action} {place field : String} {allowed : List String} :
    action.check place field allowed = .ok () ↔ Action.MayBe allowed action.type := by
  rw [Action.check, Action.MayBe]
  split
  · next h => exact iff_of_true rfl (by simpa using h)
  · next h => exact iff_of_false refuse_ne_ok (by simpa using h)

/-- The values that say what a step calls are texts or null. -/
theorem Step.checkTargetTexts_eq_ok_iff {step : Step} {place : String} :
    step.checkTargetTexts place = .ok () ↔
      ∀ target ∈ step.targets, target.2.isNull = true ∨ ∃ text, target.2 = .str text := by
  rw [Step.checkTargetTexts, forM_eq_ok_iff]
  refine forall₂_congr fun target _ => ?_
  split <;> simp_all [Value.isNull, refuse_ne_ok]

/-- One of the values that say what a step calls is not null. -/
theorem Step.checkTargetCount_eq_ok_iff {step : Step} {place : String} :
    step.checkTargetCount place = .ok () ↔
      (step.targets.filter fun target => !target.2.isNull).length = 1 := by
  have hlength : (step.targets.filter fun target => !target.2.isNull).length =
      step.targetFields.length := by rw [Step.targetFields, List.length_map]
  rw [Step.checkTargetCount, hlength, List.length_eq_one_iff]
  split <;> simp_all [refuse_ne_ok]

/-- A step passes both checks of what it calls when it calls one thing, by a text. -/
theorem Step.checkTarget_eq_ok_iff {step : Step} {place : String} :
    step.checkTargetTexts place = .ok () ∧ step.checkTargetCount place = .ok () ↔
      HasOneTarget step.operationId step.operationPath step.workflowId := by
  rw [Step.checkTargetTexts_eq_ok_iff, Step.checkTargetCount_eq_ok_iff, HasOneTarget]
  -- both checks are about the targets that are not null, which are the values without the names
  have hvalues : [step.operationId, step.operationPath, step.workflowId].filter (!·.isNull) =
      (step.targets.filter fun target => !target.2.isNull).map Prod.snd := by
    rw [show [step.operationId, step.operationPath, step.workflowId] =
      step.targets.map Prod.snd from rfl, List.filter_map]
    rfl
  rw [hvalues]
  constructor
  · rintro ⟨htexts, hcount⟩
    -- the one target that is not null has to be a text
    obtain ⟨target, htarget⟩ := List.length_eq_one_iff.1 hcount
    have hmem : target ∈ step.targets.filter fun target => !target.2.isNull := by
      simp [htarget]
    obtain ⟨hmem, hgiven⟩ := List.mem_filter.1 hmem
    obtain hnull | ⟨text, htext⟩ := htexts target hmem
    · simp [hnull] at hgiven
    · exact ⟨text, by simp [htarget, htext]⟩
  · rintro ⟨text, htext⟩
    refine ⟨fun target hmem => ?_, by simpa using congrArg List.length htext⟩
    by_cases hnull : target.2.isNull
    · exact .inl hnull
    · have hvalue : target.2 ∈ (step.targets.filter fun target => !target.2.isNull).map Prod.snd :=
        List.mem_map_of_mem (List.mem_filter.2 ⟨hmem, by simpa using hnull⟩)
      exact .inr ⟨text, by simpa [htext] using hvalue⟩

/-- A step passes the check when the rules hold for it. -/
theorem Step.check_eq_ok_iff {step : Step} {place : String} :
    step.check place = .ok () ↔ step.Valid := by
  simp only [Step.check, check_bind_eq_ok_iff, forM_eq_ok_iff, Parameter.check_eq_ok_iff,
    Action.check_eq_ok_iff]
  constructor
  · rintro ⟨htexts, hcount, hparameters, hsuccess, hfailure⟩
    exact ⟨Step.checkTarget_eq_ok_iff.1 ⟨htexts, hcount⟩, hparameters, hsuccess, hfailure⟩
  · intro h
    obtain ⟨htexts, hcount⟩ := Step.checkTarget_eq_ok_iff.2 h.target
    exact ⟨htexts, hcount, h.parameters, h.onSuccess, h.onFailure⟩

/-- Items are accepted one after another when each of them is and no two ids are equal. -/
theorem checkDistinct_eq_ok_iff {α : Type} {id : α → String} {duplicate : String → Rejection}
    {check : α → Except LoadError Unit} {items : List α} :
    checkDistinct id duplicate check [] items = .ok () ↔
      (items.map id).Nodup ∧ ∀ item ∈ items, check item = .ok () := by
  -- after some items the rest must also avoid their ids
  have hseen (seen : List String) : checkDistinct id duplicate check seen items = .ok () ↔
      (∀ item ∈ items, id item ∉ seen) ∧ (items.map id).Nodup ∧
        ∀ item ∈ items, check item = .ok () := by
    induction items generalizing seen with
    | nil => simp [checkDistinct]
    | cons item rest ih =>
      rw [checkDistinct]
      split
      · next h => exact iff_of_false refuse_ne_ok (by simp_all)
      · next h =>
        simp only [check_bind_eq_ok_iff, ih, List.map_cons, List.nodup_cons, List.mem_cons,
          List.mem_map]
        grind
  rw [hseen]
  simp

/-- A workflow passes the check when the rules hold for it. -/
theorem Workflow.check_eq_ok_iff {workflow : Workflow} :
    workflow.check = .ok () ↔ workflow.Valid := by
  simp only [Workflow.check, checkDistinct_eq_ok_iff, Step.check_eq_ok_iff]
  exact ⟨fun ⟨hnodup, hsteps⟩ => ⟨hnodup, hsteps⟩, fun h => ⟨h.nodup, h.steps⟩⟩

/-- A document passes the check when the rules hold for it. -/
theorem Document.check_eq_ok_iff {document : Document} :
    document.check = .ok () ↔ document.Valid := by
  have hversion : Document.supportedStart.toList.isPrefixOf document.version.toList = true ↔
      ∃ rest, document.version = Document.supportedStart ++ rest := by
    rw [ List.isPrefixOf_iff_prefix]
    constructor
    · rintro ⟨rest, hrest⟩
      exact ⟨String.ofList rest, String.toList_inj.1 (by simp [← hrest])⟩
    · rintro ⟨rest, hrest⟩
      exact ⟨rest.toList, by rw [hrest, String.toList_append]⟩
  rw [Document.check]
  split
  · next h =>
    simp only [checkDistinct_eq_ok_iff, Workflow.check_eq_ok_iff]
    exact ⟨fun ⟨hnodup, hworkflows⟩ => ⟨hversion.1 h, hnodup, hworkflows⟩,
      fun h => ⟨h.nodup, h.workflows⟩⟩
  · next h => exact iff_of_false refuse_ne_ok fun hvalid => h (hversion.2 hvalid.version)

/-- A value is accepted as the documents that it holds and for which the rules hold. -/
theorem Document.read_eq_ok_iff {value : Value} {document : Document} :
    Document.read value = .ok document ↔ document.HeldBy value ∧ document.Valid := by
  rw [Document.read, bind_eq_ok_iff]
  simp only [check_bind_eq_ok_iff, Document.ofValue_eq_ok_iff, Document.check_eq_ok_iff,
    pure_eq_ok_iff]
  constructor
  · rintro ⟨_, hheld, hvalid, rfl⟩
    exact ⟨hheld, hvalid⟩
  · rintro ⟨hheld, hvalid⟩
    exact ⟨document, hheld, hvalid, rfl⟩

end FlowCheck
