import FlowCheck.Consistency.Positions
import FlowCheck.Proofs.Result

/-!
# Findings with their lines

Findings are located in the text of a document: all of them get the file, and those without a line
get that of their step or else that of their workflow, as far as these are known. Nothing else
about them changes, and locating them again in the same text changes nothing at all
(`annotate_located`).
-/

namespace FlowCheck

open Result

/-- The place `after` is the place `before` in a file in which ids have known lines. -/
structure Place.IsLocated (positions : Positions) (file : String) (before after : Place) :
    Prop where
  /-- The workflow stays. -/
  workflow : after.workflow = before.workflow
  /-- The step stays. -/
  step : after.step = before.step
  /-- The file is the given one, whatever it was before. -/
  file : after.file = some file
  /-- A line that is there stays. -/
  line_kept : ∀ line, before.line = some line → after.line = some line
  /-- Otherwise the line is that of the step, if it is known. -/
  line_step : before.line = none → ∀ workflow step line, before.workflow = some workflow →
    before.step = some step → positions.steps.lookup (workflow, step) = some line →
      after.line = some (line : Int)
  /-- Otherwise it is that of the workflow, if it is known. -/
  line_workflow : before.line = none → ∀ workflow line, before.workflow = some workflow →
    (∀ step, before.step = some step → positions.steps.lookup (workflow, step) = none) →
      positions.workflows.lookup workflow = some line → after.line = some (line : Int)
  /-- Otherwise there is none. -/
  line_none : before.line = none → (∀ workflow, before.workflow = some workflow →
    positions.workflows.lookup workflow = none ∧
      ∀ step, before.step = some step → positions.steps.lookup (workflow, step) = none) →
        after.line = none

/-- The error `after` is the error `before` at its place in a file. -/
structure ErrorFinding.IsLocated (positions : Positions) (file : String)
    (before after : ErrorFinding) : Prop where
  /-- The kind stays. -/
  kind : after.kind = before.kind
  /-- The message stays. -/
  message : after.message = before.message
  /-- The API description stays. -/
  source : after.source = before.source
  /-- The names that may be meant stay. -/
  suggestion : after.suggestion = before.suggestion
  /-- The place is located. -/
  place : before.place.IsLocated positions file after.place

/-- The warning `after` is the warning `before` at its place in a file. -/
structure WarningFinding.IsLocated (positions : Positions) (file : String)
    (before after : WarningFinding) : Prop where
  /-- The message stays. -/
  message : after.message = before.message
  /-- The place is located. -/
  place : before.place.IsLocated positions file after.place

variable {positions : Positions} {file text : String}

/-! ## Places -/

namespace Positions

/-- The line of a step that is known is found. -/
theorem line?_of_step {workflow step : String} {line : Nat}
    (h : positions.steps.lookup (workflow, step) = some line) :
    positions.line? (some workflow) (some step) = some line := by
  simp [line?, h]

/-- Where no line of the step is known, that of the workflow is found, if there is one. -/
theorem line?_of_workflow {workflow : String} {step : Option String}
    (h : ∀ known, step = some known → positions.steps.lookup (workflow, known) = none) :
    positions.line? (some workflow) step = positions.workflows.lookup workflow := by
  cases step with
  | none => simp [line?]
  | some known => simp [line?, h known rfl]

end Positions

namespace Place

/-- A place has a line after it was located if it had one before. -/
theorem line_locate_of_some {place : Place} {line : Int} (h : place.line = some line) :
    (place.locate file positions).line = some line := by
  rw [locate, h, Option.some_or]

/-- A place that had no line gets the one that is found. -/
theorem line_locate_of_none {place : Place} (h : place.line = none) :
    (place.locate file positions).line =
      (positions.line? place.workflow place.step).map Int.ofNat := by
  rw [locate, h, Option.none_or]

/-- Locating a place locates it. -/
theorem isLocated_locate (place : Place) :
    place.IsLocated positions file (place.locate file positions) where
  workflow := rfl
  step := rfl
  file := rfl
  line_kept _ h := line_locate_of_some h
  line_step hnone workflow step line hworkflow hstep hline := by
    rw [line_locate_of_none hnone, hworkflow, hstep, Positions.line?_of_step hline]
    rfl
  line_workflow hnone workflow line hworkflow hsteps hline := by
    rw [line_locate_of_none hnone, hworkflow, Positions.line?_of_workflow hsteps, hline]
    rfl
  line_none hnone hunknown := by
    rw [line_locate_of_none hnone, Option.map_eq_none_iff]
    cases hworkflow : place.workflow with
    | none => rfl
    | some workflow =>
      obtain ⟨hnoWorkflow, hnoStep⟩ := hunknown workflow hworkflow
      rw [Positions.line?_of_workflow hnoStep, hnoWorkflow]

/-- The line of a place that was located is not sought again. -/
theorem locate_locate (place : Place) :
    (place.locate file positions).locate file positions = place.locate file positions := by
  -- the second search finds what the first one has found, or again nothing
  simp [locate, Option.or_assoc]

end Place

/-! ## Verdicts -/

/-- A verdict that was located is not changed when it is located again. -/
theorem Verdict.locate_locate (verdict : ConsistencyVerdict) :
    (verdict.locate file positions).locate file positions = verdict.locate file positions := by
  refine Verdict.eq_of_toReport_eq ?_
  simp only [Verdict.locate, Report.locate, List.map_map, Function.comp_def, Place.locate_locate]

/-- A verdict can be located in a text exactly if the text has positions. -/
theorem Verdict.annotate_eq_ok_iff {verdict annotated : ConsistencyVerdict} :
    verdict.annotate file text = .ok annotated ↔
      ∃ positions, Positions.ofText text = .ok positions ∧
        verdict.locate file positions = annotated := by
  simp only [Verdict.annotate, bind_eq_ok_iff, pure_eq_ok_iff]

/-- Whatever verdict is located in a text: errors and warnings keep their number and order, each of
them is located by the lines of ids that are known from the text and is otherwise as before, the
verdict is as valid as before, and locating it again in the same text leaves it as it is. -/
theorem Verdict.annotate_located {verdict annotated : ConsistencyVerdict}
    (h : verdict.annotate file text = .ok annotated) :
    ∃ positions, Positions.ofText text = .ok positions ∧
      List.Forall₂ (ErrorFinding.IsLocated positions file) verdict.errors annotated.errors ∧
      List.Forall₂ (WarningFinding.IsLocated positions file)
        verdict.warnings annotated.warnings ∧
      annotated.isValid = verdict.isValid ∧
      annotated.annotate file text = .ok annotated := by
  obtain ⟨positions, hpositions, rfl⟩ := Verdict.annotate_eq_ok_iff.1 h
  refine ⟨positions, hpositions, ?_, ?_, rfl, ?_⟩
  · simp only [Verdict.locate, Report.locate, List.forall₂_map_right_iff, List.forall₂_same]
    exact fun finding _ => ⟨rfl, rfl, rfl, rfl, finding.place.isLocated_locate⟩
  · simp only [Verdict.locate, Report.locate, List.forall₂_map_right_iff, List.forall₂_same]
    exact fun finding _ => ⟨rfl, finding.place.isLocated_locate⟩
  · exact Verdict.annotate_eq_ok_iff.2 ⟨positions, hpositions, Verdict.locate_locate verdict⟩

/-- The text of a document with one workflow of one step. -/
def pollText : String :=
  "arazzo: 1.0.0\ninfo:\n  title: Poll\n  version: 1\nworkflows:\n- workflowId: poll\n" ++
    "  steps:\n  - operationId: status\n    stepId: wait\n"

/-- The lines of the two ids in the text. -/
theorem ofText_pollText :
    Positions.ofText pollText = .ok ⟨[("poll", 6)], [(("poll", "wait"), 9)]⟩ := by
  have hfound : (Positions.ofText pollText).toOption.map
      (fun positions => (positions.workflows, positions.steps)) =
        some ([("poll", 6)], [(("poll", "wait"), 9)]) := by
    decide +kernel
  cases htext : Positions.ofText pollText with
  | error fault => simp [htext, Except.toOption] at hfound
  | ok positions =>
    cases positions
    simpa [htext, Except.toOption] using hfound

/-- An error at a place of the document. -/
def errorAt (place : Place) : ErrorFinding :=
  ⟨.stepOrderViolation, "too early", place, none, none⟩

/-- Errors about a step that is there and about one that is not, in another file; a warning that
has a line, and one about a workflow that is not there. -/
def pollVerdict : ConsistencyVerdict :=
  Verdict.empty.extend
    { errors := [errorAt { workflow := "poll", step := "wait" },
        errorAt { workflow := "poll", step := "stop", file := "old.yaml" }]
      warnings :=
        [⟨"slow", { workflow := "poll", line := some 0 }⟩, ⟨"odd", { workflow := "pull" }⟩] }

/-- The step that is there is on its line, the other one on the line of the workflow, the line that
was there stays, and the other warning has none. -/
theorem annotate_located_poll :
    ∃ annotated, pollVerdict.annotate "flow.yaml" pollText = .ok annotated ∧
      annotated.errors.map (·.place.line) = [some 9, some 6] ∧
      annotated.warnings.map (·.place.line) = [some 0, none] ∧
      annotated.annotate "flow.yaml" pollText = .ok annotated := by
  have hannotated : pollVerdict.annotate "flow.yaml" pollText =
      .ok (pollVerdict.locate "flow.yaml" ⟨[("poll", 6)], [(("poll", "wait"), 9)]⟩) :=
    Verdict.annotate_eq_ok_iff.2 ⟨_, ofText_pollText, rfl⟩
  obtain ⟨positions, -, -, -, -, hagain⟩ := Verdict.annotate_located hannotated
  exact ⟨_, hannotated, by decide, by decide, hagain⟩

end FlowCheck
