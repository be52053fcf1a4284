import FlowCheck.Consistency.Parameters
import FlowCheck.Proofs.Consistency.Finding
import FlowCheck.Proofs.Consistency.Target
import FlowCheck.Proofs.Value.Display

/-!
# The parameters of the steps

The second phase of the checks on an accepted document. It has a result for every step, and every
finding is at the place of the step that it is about.
-/

namespace FlowCheck

open Result

/-- A known location has a text, and so has one that is left out. -/
theorem Value.IsLocation.exists_text {location : Value} (h : location.IsLocation) :
    ∃ text, location.text = .ok text := by
  refine Value.exists_text ?_
  rcases h with hnull | ⟨text, -, rfl⟩
  · rw [Value.isNull_iff.1 hnull]
    trivial
  · trivial

variable {document : Document} {catalog : Catalog} {place : Place} {source : String}
  {declared : List ApiParameter} {parameter : Parameter} {step : Step} {target : Target} {hit : Hit}
  {findings : Findings}

/-- A parameter with a known location can be checked. -/
theorem exists_checkParameter (h : parameter.location.IsLocation) (place : Place) (source : String)
    (declared : List ApiParameter) :
    ∃ findings, checkParameter place source declared parameter = .ok findings := by
  obtain ⟨text, htext⟩ := h.exists_text
  rw [checkParameter, htext]
  split
  · exact ⟨_, rfl⟩
  · split
    · exact ⟨_, rfl⟩
    · split <;> exact ⟨_, rfl⟩

/-- What is found about a parameter is at the place of its step. -/
theorem within_checkParameter (h : checkParameter place source declared parameter = .ok findings) :
    findings.Within (· = place) := by
  rw [checkParameter] at h
  split at h
  · -- there is one error
    obtain ⟨location, -, hfindings⟩ := bind_eq_ok_iff.1 h
    rw [← pure_eq_ok_iff.1 hfindings]
    exact ⟨by simp, by simp⟩
  · split at h
    · rw [← pure_eq_ok_iff.1 h]
      exact Report.within_empty
    · -- there is one warning, which shows the location if there is one
      dsimp only at h
      split at h <;>
      · obtain ⟨location, -, hfindings⟩ := bind_eq_ok_iff.1 h
        rw [← pure_eq_ok_iff.1 hfindings]
        exact ⟨by simp, by simp⟩

/-- The findings about a step are those about missing parameters, then those about each given
parameter. -/
theorem checkStepParameters_eq_ok_iff :
    checkStepParameters place step hit = .ok findings ↔
      ∃ found, List.Forall₂ (fun parameter report =>
          checkParameter place hit.source hit.endpoint.operation.parameters parameter = .ok report)
          step.parameters found ∧
        Report.concat
          (⟨(missingParameters step hit.endpoint.operation.parameters).map
            (missingParameter place hit.source), []⟩ :: found) = findings := by
  simp only [checkStepParameters, bind_eq_ok_iff, mapM_eq_ok_iff, pure_eq_ok_iff]

/-- The parameters of a step that satisfies the rules can be checked. -/
theorem exists_checkStepParameters (h : step.Valid) (place : Place) (hit : Hit) :
    ∃ findings, checkStepParameters place step hit = .ok findings := by
  obtain ⟨found, hfound⟩ := exists_mapM_eq_ok_iff.2 fun parameter hmem =>
    exists_checkParameter (h.parameters parameter hmem) place hit.source
      hit.endpoint.operation.parameters
  exact ⟨_, checkStepParameters_eq_ok_iff.2 ⟨found, mapM_eq_ok_iff.1 hfound, rfl⟩⟩

/-- What is found about the parameters of a step is at its place. -/
theorem within_checkStepParameters (h : checkStepParameters place step hit = .ok findings) :
    findings.Within (· = place) := by
  obtain ⟨found, hfound, rfl⟩ := checkStepParameters_eq_ok_iff.1 h
  refine Report.within_concat fun report hreport => ?_
  rcases List.mem_cons.1 hreport with rfl | hmem
  · exact ⟨by simp [missingParameter], by simp⟩
  · obtain ⟨parameter, -, hparameter⟩ := exists_of_mem_forall₂ hfound hmem
    exact within_checkParameter hparameter

/-- The findings about the parameters of a step, given the operation that it calls, if any. -/
def checkCall (place : Place) (step : Step) (hit? : Option Hit) : Except Fault Findings :=
  hit?.elim (.ok Report.empty) (checkStepParameters place step)

/-- The call of a step that satisfies the rules can be checked. -/
theorem exists_checkCall (h : step.Valid) (place : Place) (hit? : Option Hit) :
    ∃ findings, checkCall place step hit? = .ok findings := by
  cases hit? with
  | none => exact ⟨_, rfl⟩
  | some hit => exact exists_checkStepParameters h place hit

/-- What is found about a call is at the place of the step. -/
theorem within_checkCall {hit? : Option Hit} (h : checkCall place step hit? = .ok findings) :
    findings.Within (· = place) := by
  cases hit? with
  | none =>
    obtain rfl := Except.ok.inj h
    exact Report.within_empty
  | some hit => exact within_checkStepParameters h

/-- The findings of the phase about one step are those about the operation that it refers to. -/
def ReportsCall (catalog : Catalog) (entry : Place × Step) (report : Findings) : Prop :=
  ∃ target, entry.2.target? = some target ∧
    checkCall entry.1 entry.2 (target.hit? catalog) = .ok report

/-- In an accepted document the phase reports about step after step. -/
theorem checkParameters_eq_ok_iff (hvalid : document.Valid) :
    checkParameters document catalog = .ok findings ↔
      ∃ found, List.Forall₂ (ReportsCall catalog) document.placedSteps found ∧
        Report.concat found = findings := by
  simp only [checkParameters, bind_eq_ok_iff, mapM_eq_ok_iff, pure_eq_ok_iff]
  refine exists_congr fun found => and_congr_left fun _ => forall₂_congr_left ?_
  rintro ⟨place, step⟩ hentry report
  obtain ⟨target, htarget⟩ := (hvalid.of_mem_placedSteps hentry).exists_target
  simp only [ReportsCall, htarget, Option.some.injEq, exists_eq_left']
  rw [Catalog.operationOf_eq htarget]
  -- the phase leaves out the steps that run a workflow, for which no operation is found anyway
  rcases Step.isNull_or_hit?_eq_none catalog htarget with hnull | hnone
  · rw [hnull]
    cases target.hit? catalog <;> rfl
  · rw [hnone]
    cases step.workflowId.isNull <;> rfl

/-- On an accepted document the phase comes to its end. -/
theorem exists_checkParameters (hvalid : document.Valid) (catalog : Catalog) :
    ∃ findings, checkParameters document catalog = .ok findings := by
  have hreports : ∃ found, List.Forall₂ (ReportsCall catalog) document.placedSteps found := by
    refine exists_forall₂_iff.2 fun entry hentry => ?_
    have hstep := hvalid.of_mem_placedSteps hentry
    obtain ⟨target, htarget⟩ := hstep.exists_target
    obtain ⟨report, hreport⟩ := exists_checkCall hstep entry.1 (target.hit? catalog)
    exact ⟨report, target, htarget, hreport⟩
  obtain ⟨found, hfound⟩ := hreports
  exact ⟨_, (checkParameters_eq_ok_iff hvalid).2 ⟨found, hfound, rfl⟩⟩

end FlowCheck
