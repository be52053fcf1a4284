import FlowCheck.Proofs.Consistency.Call

/-!
# Changed parameters of a step

How the findings about a call change with the parameters of the step. Another order of the
parameters gives the findings another order. A parameter that loses its location supplies every
declared one of its name. It then supplies what it misplaced before, so that nothing becomes missing
that the error about it kept from being reported (`isMissing_of_anywhere`).
-/

namespace FlowCheck

/-- The parameter without its location. -/
def Parameter.anywhere (parameter : Parameter) : Parameter :=
  { parameter with location := .null }

/-- The step with other parameters. -/
def Step.withParameters (step : Step) (parameters : List Parameter) : Step :=
  { step with parameters }

/-- The step that stands at a place, with other parameters if this is the place of the change. -/
def Step.changedAt (step : Step) (place change : Place) (parameters : List Parameter) : Step :=
  if place = change then step.withParameters parameters else step

/-- The document with other parameters in the step at a place. -/
def Document.withParameters (document : Document) (change : Place)
    (parameters : List Parameter) : Document :=
  { document with
    workflows := document.workflows.map fun workflow =>
      { workflow with
        steps := workflow.steps.map fun step =>
          step.changedAt (workflow.placeOf step) change parameters } }

section Call

variable {parameters others before after : List Parameter} {parameter : Parameter}
  {declared : List ApiParameter} {wanted : ApiParameter} {place : Place} {source : String}
  {step : Step} {hit : Hit}

/-- What is missing with some parameters is missing with fewer of them. -/
theorem IsMissing.of_subset (h : IsMissing parameters declared wanted)
    (hsub : others ⊆ parameters) : IsMissing others declared wanted :=
  ⟨h.required, fun parameter hmem => h.unsupplied parameter (hsub hmem),
    fun parameter hmem => h.unclaimed parameter (hsub hmem)⟩

/-- What is missing does not depend on the order of the parameters. -/
theorem isMissing_perm (h : parameters.Perm others) :
    IsMissing parameters declared wanted ↔ IsMissing others declared wanted :=
  ⟨fun hmissing => hmissing.of_subset h.symm.subset, fun hmissing => hmissing.of_subset h.subset⟩

namespace Parameter

/-- A parameter without its location supplies all declared ones of its name. -/
theorem anywhere_supplies_iff : parameter.anywhere.Supplies wanted ↔ parameter.name = wanted.name :=
  and_iff_left (.inl rfl)

/-- About a parameter without its location there is no error. -/
theorem errors_findings_anywhere (place : Place) (source : String) (declared : List ApiParameter)
    (parameter : Parameter) :
    (parameter.anywhere.findings place source declared).errors = [] := by
  obtain ⟨wanted, hmem, hsupplies⟩ | ⟨known, hmisplaces⟩ | hname :=
    parameter.anywhere.supplies_or_misplaces_or_undeclared declared
  · rw [findings_of_supplies hmem hsupplies]
    rfl
  · exact absurd hmisplaces (not_misplaces_of_null rfl)
  · rw [findings_of_undeclared hname]
    split <;> rfl

/-- There are as many warnings about a parameter without its location as about the parameter. -/
theorem length_warnings_findings_anywhere (place : Place) (source : String)
    (declared : List ApiParameter) (parameter : Parameter) :
    (parameter.anywhere.findings place source declared).warnings.length =
      (parameter.findings place source declared).warnings.length := by
  obtain ⟨wanted, hmem, hsupplies⟩ | ⟨known, hmisplaces⟩ | hname :=
    parameter.supplies_or_misplaces_or_undeclared declared
  · rw [findings_of_supplies hmem hsupplies,
      findings_of_supplies hmem (anywhere_supplies_iff.2 hsupplies.1)]
  · rw [hmisplaces.findings_eq, findings_of_supplies hmisplaces.mem
      (anywhere_supplies_iff.2 hmisplaces.name_eq.symm)]
    rfl
  · -- the warning shows another location, but whether it is there depends on the value
    have hanywhere : ∀ wanted ∈ declared, wanted.name ≠ parameter.anywhere.name := hname
    have hexpression : parameter.anywhere.isExpression = parameter.isExpression := rfl
    rw [findings_of_undeclared hname, findings_of_undeclared hanywhere, hexpression]
    split <;> rfl

end Parameter

/-- When a parameter is replaced, all others stay. -/
theorem eq_or_mem_of_mem_replaced {old new other : Parameter}
    (h : other ∈ before ++ old :: after) : other = old ∨ other ∈ before ++ new :: after := by
  simp only [List.mem_append, List.mem_cons] at h ⊢
  tauto

/-- A declared parameter that is missing when a parameter loses its location was missing before. -/
theorem isMissing_of_anywhere
    (h : IsMissing (before ++ parameter.anywhere :: after) declared wanted) :
    IsMissing (before ++ parameter :: after) declared wanted := by
  -- without its location the parameter would supply `wanted` if it had the name
  have hname : parameter.name ≠ wanted.name := fun hname =>
    h.unsupplied parameter.anywhere (by simp) (Parameter.anywhere_supplies_iff.2 hname)
  refine ⟨h.required, fun other hother hsupplies => ?_,
    fun other hother known hmisplaces hkey => ?_⟩
  · obtain rfl | hother := eq_or_mem_of_mem_replaced hother
    · exact hname hsupplies.1
    · exact h.unsupplied other hother hsupplies
  · -- what the parameter misplaced has its name, so that it is not `wanted`
    obtain rfl | hother := eq_or_mem_of_mem_replaced hother
    · exact hname (hmisplaces.name_eq.symm.trans (congrArg Prod.fst hkey).symm)
    · exact h.unclaimed other hother known hmisplaces hkey

namespace Step

/-- Another order of the parameters gives the findings about a call another order. -/
theorem callFindings_perm (h : parameters.Perm step.parameters) (place : Place) (hit : Hit) :
    ((step.withParameters parameters).callFindings place hit).errors.Perm
        (step.callFindings place hit).errors ∧
      ((step.withParameters parameters).callFindings place hit).warnings.Perm
        (step.callFindings place hit).warnings := by
  simp only [errors_callFindings, warnings_callFindings, withParameters, isMissing_perm h]
  exact ⟨(h.flatMap_right _).append_left _, h.flatMap_right _⟩

/-- When a parameter loses its location, the errors about the call are some of those before. -/
theorem errors_callFindings_anywhere (h : step.parameters = before ++ parameter :: after)
    (place : Place) (hit : Hit) :
    ((step.withParameters (before ++ parameter.anywhere :: after)).callFindings place
      hit).errors.Sublist (step.callFindings place hit).errors := by
  rw [errors_callFindings, errors_callFindings, withParameters, h]
  -- fewer parameters are missing, and there is no error about the changed one itself
  refine List.Sublist.append (List.Sublist.map _ ?_) ?_
  · refine List.monotone_filter_right _ fun wanted hwanted => ?_
    rw [decide_eq_true_iff] at hwanted ⊢
    exact isMissing_of_anywhere hwanted
  · rw [List.flatMap_append, List.flatMap_append, List.flatMap_cons, List.flatMap_cons,
      Parameter.errors_findings_anywhere, List.nil_append]
    exact (List.sublist_append_right _ _).append_left _

/-- When a parameter loses its location, there are as many warnings about the call as before. -/
theorem length_warnings_callFindings_anywhere
    (h : step.parameters = before ++ parameter :: after) (place : Place) (hit : Hit) :
    ((step.withParameters (before ++ parameter.anywhere :: after)).callFindings place
      hit).warnings.length = (step.callFindings place hit).warnings.length := by
  rw [warnings_callFindings, warnings_callFindings, withParameters, h]
  simp only [List.flatMap_append, List.flatMap_cons, List.length_append,
    Parameter.length_warnings_findings_anywhere]

end Step

end Call

/-- A step with other parameters has the same id. -/
theorem Step.id_changedAt (step : Step) (place change : Place) (parameters : List Parameter) :
    (step.changedAt place change parameters).id = step.id := by
  rw [changedAt]
  split <;> rfl

/-- The rules hold for a step with other parameters if their locations are known. -/
theorem Step.Valid.changedAt {step : Step} {parameters : List Parameter} (h : step.Valid)
    (hparameters : ∀ parameter ∈ parameters, parameter.location.IsLocation) (place change : Place) :
    (step.changedAt place change parameters).Valid := by
  rw [Step.changedAt]
  split
  · exact ⟨h.target, hparameters, h.onSuccess, h.onFailure⟩
  · exact h

namespace Document

variable {document : Document} {place : Place} {parameters : List Parameter} {step : Step}
  {catalog : Catalog} {hit : Hit} {findings : Findings}

/-- Only the step at the place has other parameters. -/
theorem placedSteps_withParameters (document : Document) (change : Place)
    (parameters : List Parameter) :
    (document.withParameters change parameters).placedSteps =
      document.placedSteps.map fun entry =>
        (entry.1, entry.2.changedAt entry.1 change parameters) := by
  simp only [placedSteps, withParameters, List.flatMap_map, List.map_flatMap, List.map_map,
    Function.comp_def, Step.id_changedAt]
  rfl

/-- The rules hold for a document with other parameters if their locations are known. -/
theorem Valid.withParameters (h : document.Valid)
    (hparameters : ∀ parameter ∈ parameters, parameter.location.IsLocation) (change : Place) :
    (document.withParameters change parameters).Valid := by
  refine ⟨h.version, ?_, List.forall_mem_map.2 fun workflow hworkflow => ⟨?_, ?_⟩⟩
  · rw [Document.withParameters, List.map_map]
    exact h.nodup
  · simp only [List.map_map, Function.comp_def, Step.id_changedAt]
    exact (h.workflows workflow hworkflow).nodup
  · exact List.forall_mem_map.2 fun step hstep =>
      ((h.workflows workflow hworkflow).steps step hstep).changedAt hparameters _ change

/-- The phase on a document with other parameters in a step that calls an operation. The findings at
the place of the step are those about the changed call, and all others stay as they are. -/
theorem Valid.exists_checkParameters_withParameters (h : document.Valid)
    (hfindings : checkParameters document catalog = .ok findings)
    (hentry : (place, step) ∈ document.placedSteps)
    (hhit : catalog.operationOf step = .ok (some hit))
    (hparameters : ∀ parameter ∈ parameters, parameter.location.IsLocation) :
    ∃ others, checkParameters (document.withParameters place parameters) catalog = .ok others ∧
      others.about place = (step.withParameters parameters).callFindings place hit ∧
      ∀ other ≠ place, others.about other = findings.about other := by
  have hchanged := h.withParameters hparameters place
  refine ⟨_, hchanged.checkParameters_eq catalog, ?_, fun other hother => ?_⟩
  · -- the changed step stands at the same place and calls the same operation
    have hmem : (place, step.withParameters parameters) ∈
        (document.withParameters place parameters).placedSteps := by
      rw [placedSteps_withParameters]
      exact List.mem_map.2 ⟨_, hentry, by rw [Step.changedAt, if_pos rfl]⟩
    exact hchanged.about_checkParameters (hchanged.checkParameters_eq catalog) hmem hhit
  · obtain rfl := Except.ok.inj ((h.checkParameters_eq catalog).symm.trans hfindings)
    rw [placedSteps_withParameters, List.map_map, Report.about_concat, Report.about_concat,
      List.map_map, List.map_map]
    refine congrArg Report.concat (List.map_congr_left fun entry hentry => ?_)
    have hstep := h.of_mem_placedSteps hentry
    by_cases hplace : entry.1 = place
    · -- neither the step nor the changed one has findings at another place
      have hempty {step : Step} (hvalid : step.Valid) :
          (step.findings catalog entry.1).about other = Report.empty :=
        ((hvalid.within_findings catalog entry.1).imp fun _ heq =>
          heq ▸ hplace ▸ hother.symm).about_eq_empty
      exact (hempty (hstep.changedAt hparameters entry.1 place)).trans (hempty hstep).symm
    · simp only [Function.comp_apply, Step.changedAt, if_neg hplace]

end Document

variable {value : Value} {document : Document} {catalog : Catalog} {workflow : Workflow}
  {step : Step} {hit : Hit}

/-- The findings of the phase about a step of an accepted document that calls an operation, when
the parameters of the step change. In another order they give the same findings, up to the order.
When one of them loses its location, the errors are some of those before, in their order, and there
are as many warnings. No findings about other steps change. -/
theorem checkParameters_withParameters (hread : Document.read value = .ok document)
    (hworkflow : workflow ∈ document.workflows) (hstep : step ∈ workflow.steps)
    (hhit : catalog.operationOf step = .ok (some hit)) :
    let place := workflow.placeOf step
    ∃ findings, checkParameters document catalog = .ok findings ∧
      (∀ parameters, parameters.Perm step.parameters →
        ∃ others, checkParameters (document.withParameters place parameters) catalog = .ok others ∧
          (others.about place).errors.Perm (findings.about place).errors ∧
          (others.about place).warnings.Perm (findings.about place).warnings ∧
          ∀ other ≠ place, others.about other = findings.about other) ∧
      ∀ before parameter after, step.parameters = before ++ parameter :: after →
        ∃ others, checkParameters (document.withParameters place
            (before ++ parameter.anywhere :: after)) catalog = .ok others ∧
          (others.about place).errors.Sublist (findings.about place).errors ∧
          (others.about place).warnings.length = (findings.about place).warnings.length ∧
          ∀ other ≠ place, others.about other = findings.about other := by
  intro place
  have hvalid := (Document.read_eq_ok_iff.1 hread).2
  have hentry : (place, step) ∈ document.placedSteps :=
    Document.mem_placedSteps.2 ⟨workflow, hworkflow, step, hstep, rfl⟩
  have hlocations := (hvalid.of_mem_placedSteps hentry).parameters
  obtain ⟨findings, hfindings⟩ := exists_checkParameters hvalid catalog
  -- what is found about the step is told by its parameters and the operation alone
  have habout : findings.about place = step.callFindings place hit :=
    hvalid.about_checkParameters hfindings hentry hhit
  refine ⟨findings, hfindings, fun parameters hperm => ?_, fun before parameter after heq => ?_⟩
  · obtain ⟨others, hothers, hcall, hframe⟩ :=
      hvalid.exists_checkParameters_withParameters hfindings hentry hhit
        fun parameter hmem => hlocations parameter (hperm.mem_iff.1 hmem)
    have hfindings := Step.callFindings_perm hperm place hit
    rw [← hcall, ← habout] at hfindings
    exact ⟨others, hothers, hfindings.1, hfindings.2, hframe⟩
  · -- the rules also accept a location that is left out
    have hknown : ∀ other ∈ before ++ parameter.anywhere :: after, other.location.IsLocation := by
      intro other hmem
      obtain rfl | hother := eq_or_mem_of_mem_replaced hmem
      · exact .inl rfl
      · exact hlocations other (heq ▸ hother)
    obtain ⟨others, hothers, hcall, hframe⟩ :=
      hvalid.exists_checkParameters_withParameters hfindings hentry hhit hknown
    have herrors := Step.errors_callFindings_anywhere heq place hit
    have hwarnings := Step.length_warnings_callFindings_anywhere heq place hit
    rw [← hcall, ← habout] at herrors hwarnings
    exact ⟨others, hothers, herrors, hwarnings, hframe⟩

/-- The parameters of the step in reverse order give the same findings. When the first one loses its
location, it supplies both that are declared under its name, and there is no error any more. -/
theorem withParameters_ordersDocument :
    ∃ document workflow step first rest findings reversed loosened,
      Document.read ordersDocument = .ok document ∧ workflow ∈ document.workflows ∧
      step ∈ workflow.steps ∧ step.parameters = first :: rest ∧
      checkParameters document ordersCatalog = .ok findings ∧
      checkParameters (document.withParameters (workflow.placeOf step) step.parameters.reverse)
        ordersCatalog = .ok reversed ∧
      (reversed.about (workflow.placeOf step)).errors.Perm
        (findings.about (workflow.placeOf step)).errors ∧
      checkParameters (document.withParameters (workflow.placeOf step) (first.anywhere :: rest))
        ordersCatalog = .ok loosened ∧
      (loosened.about (workflow.placeOf step)).errors.Sublist
        (findings.about (workflow.placeOf step)).errors ∧
      findings.errors.length = 2 ∧ loosened.errors = [] := by
  have hrun : ∃ document workflow step hit first rest findings loosened,
      Document.read ordersDocument = .ok document ∧ workflow ∈ document.workflows ∧
      step ∈ workflow.steps ∧ ordersCatalog.operationOf step = .ok (some hit) ∧
      step.parameters = first :: rest ∧ checkParameters document ordersCatalog = .ok findings ∧
      checkParameters (document.withParameters (workflow.placeOf step) (first.anywhere :: rest))
        ordersCatalog = .ok loosened ∧ findings.errors.length = 2 ∧ loosened.errors = [] :=
    ⟨_, _, _, _, _, _, _, _, rfl, List.mem_cons_self, List.mem_cons_self, rfl, rfl, rfl, rfl, rfl,
      rfl⟩
  obtain ⟨document, workflow, step, hit, first, rest, findings, loosened, hread, hworkflow, hstep,
    hhit, hparameters, hfindings, hloosened, hlength, hnone⟩ := hrun
  obtain ⟨_, hsame, hperm, hanywhere⟩ := checkParameters_withParameters hread hworkflow hstep hhit
  obtain rfl := Except.ok.inj (hfindings.symm.trans hsame)
  obtain ⟨reversed, hreversed, hreverse, -, -⟩ := hperm _ (List.reverse_perm _)
  obtain ⟨_, hother, hsublist, -, -⟩ := hanywhere [] first rest hparameters
  obtain rfl := Except.ok.inj (hloosened.symm.trans hother)
  exact ⟨document, workflow, step, first, rest, findings, reversed, loosened, hread, hworkflow,
    hstep, hparameters, hfindings, hreversed, hreverse, hloosened, hsublist, hlength, hnone⟩

end FlowCheck
