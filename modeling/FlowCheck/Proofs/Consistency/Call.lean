import FlowCheck.Proofs.Consistency.Parameters
import FlowCheck.Proofs.Value.Entries

/-!
# What is found about a call

The findings about a step that calls an operation, told from the parameters of the step and those
that the operation declares. A parameter of the step supplies a declared one, misplaces one, or has
a name that is not declared (`Parameter.Reports`). A declared parameter is missing if it is required
and the parameters of the step neither supply it nor are reported to misplace it (`IsMissing`).

## Main definitions

* `Parameter.Supplies`, `Parameter.Misplaces`: what a parameter of a step is to a declared one;
* `IsMissing`: a declared parameter that the step lacks;
* `Parameter.Reports`: the outcome for one parameter of a step;
* `Step.callFindings`: all findings about the call of an operation.
-/

namespace FlowCheck

open Result

namespace Parameter

/-- The parameter supplies the declared one: it has the same name, and the same location unless it
has none. -/
def Supplies (parameter : Parameter) (wanted : ApiParameter) : Prop :=
  parameter.name = wanted.name ∧
    (parameter.location = .null ∨ parameter.location = .str wanted.location)

/-- The parameter supplies none of the declared ones, and this is the first with its name. -/
structure Misplaces (parameter : Parameter) (declared : List ApiParameter) (known : ApiParameter) :
    Prop where
  unmatched : ∀ wanted ∈ declared, ¬ parameter.Supplies wanted
  first : declared.find? (·.name = parameter.name) = some known

/-- The location as messages show it. -/
def shownLocation (parameter : Parameter) : String :=
  parameter.location.str?.getD "unspecified"

end Parameter

/-- The declared parameter is required, no parameter of the step supplies it, and it has not the key
of a declared parameter that one of the step misplaces. -/
structure IsMissing (parameters : List Parameter) (declared : List ApiParameter)
    (wanted : ApiParameter) : Prop where
  required : wanted.required = true
  unsupplied : ∀ parameter ∈ parameters, ¬ parameter.Supplies wanted
  unclaimed : ∀ parameter ∈ parameters, ∀ known,
    parameter.Misplaces declared known → wanted.key ≠ known.key

/-- The error about a parameter in another location than the declared one. -/
def locationMismatch (place : Place) (source : String) (parameter : Parameter)
    (known : ApiParameter) : ErrorFinding where
  kind := .parameterLocationMismatch
  message :=
    s!"Parameter location mismatch: '{parameter.name}' is defined as 'in: {known.location}' " ++
      s!"in OpenAPI but provided as 'in: {parameter.shownLocation}' in step"
  place := place
  source := some source

/-- The warning about a parameter that is not declared. -/
def extraParameter (place : Place) (extra : Parameter) : WarningFinding where
  message :=
    s!"Extra parameter: '{extra.name}' (in: {extra.shownLocation}) is not defined in OpenAPI " ++
      "operation"
  place := place

/-- What is reported about one parameter of a step. -/
inductive Parameter.Reports (place : Place) (source : String) (declared : List ApiParameter)
    (parameter : Parameter) : Findings → Prop where
  /-- The parameter supplies a declared one. -/
  | supplied {wanted : ApiParameter} (hmem : wanted ∈ declared) (h : parameter.Supplies wanted) :
    Reports place source declared parameter Report.empty
  /-- The parameter supplies none, but there is one with its name. -/
  | misplaced {known : ApiParameter} (h : parameter.Misplaces declared known) :
    Reports place source declared parameter ⟨[locationMismatch place source parameter known], []⟩
  /-- The parameter is not declared, and its value is an expression. -/
  | expression (h : ∀ wanted ∈ declared, wanted.name ≠ parameter.name) {rest : String}
      (hvalue : parameter.value = .str ("$" ++ rest)) :
    Reports place source declared parameter Report.empty
  /-- The parameter is not declared, and its value is no expression. -/
  | extra (h : ∀ wanted ∈ declared, wanted.name ≠ parameter.name)
      (hvalue : ∀ rest, parameter.value ≠ .str ("$" ++ rest)) :
    Reports place source declared parameter ⟨[], [extraParameter place parameter]⟩

namespace Parameter

variable {parameter : Parameter} {parameters : List Parameter} {declared : List ApiParameter}
  {wanted known : ApiParameter} {place : Place} {source : String}

/-- The check for a match decides whether a parameter supplies another. -/
theorem matchesApi_iff : parameter.matchesApi wanted = true ↔ parameter.Supplies wanted := by
  rw [matchesApi, Bool.and_eq_true, beq_iff_eq, Bool.or_eq_true, Value.isNull_iff, Value.isStr_iff,
    Supplies]

/-- Some declared parameter is matched exactly if one is supplied. -/
theorem any_matchesApi_iff :
    declared.any parameter.matchesApi = true ↔ ∃ wanted ∈ declared, parameter.Supplies wanted := by
  simp only [List.any_eq_true, matchesApi_iff]

/-- The search for a misplaced parameter finds the one that is misplaced. -/
theorem misplaced?_eq_some_iff :
    parameter.misplaced? declared = some known ↔ parameter.Misplaces declared known := by
  rw [misplaced?]
  split
  · next hany =>
    obtain ⟨wanted, hmem, hsupplies⟩ := any_matchesApi_iff.1 hany
    exact iff_of_false (Option.some_ne_none known ∘ Eq.symm) fun h =>
      h.unmatched wanted hmem hsupplies
  · next hany =>
    have hunmatched : ∀ wanted ∈ declared, ¬ parameter.Supplies wanted :=
      fun wanted hmem hsupplies => hany (any_matchesApi_iff.2 ⟨wanted, hmem, hsupplies⟩)
    exact ⟨fun h => ⟨hunmatched, h⟩, fun h => h.first⟩

/-- A misplaced parameter is declared. -/
theorem Misplaces.mem (h : parameter.Misplaces declared known) : known ∈ declared :=
  List.mem_of_find?_eq_some h.first

/-- A misplaced parameter has the name of the one that misplaces it. -/
theorem Misplaces.name_eq (h : parameter.Misplaces declared known) :
    known.name = parameter.name := by
  simpa using List.find?_some h.first

/-- A parameter without a location misplaces none. -/
theorem not_misplaces_of_null (h : parameter.location = .null) :
    ¬ parameter.Misplaces declared known := fun hmisplaces =>
  hmisplaces.unmatched known hmisplaces.mem ⟨hmisplaces.name_eq.symm, .inl h⟩

/-- The value is an expression if it is a text that starts with a dollar sign. -/
theorem isExpression_iff :
    parameter.isExpression = true ↔ ∃ rest, parameter.value = .str ("$" ++ rest) := by
  rw [isExpression]
  cases parameter.value with
  | str text =>
    -- the test looks at the first character, the form says what follows it
    simp only [Value.str?, Option.any_some, Expression.isExpression, beq_iff_eq, Value.str.injEq,
      ← String.toList_inj, String.toList_append]
    constructor
    · intro h
      obtain ⟨rest, hrest⟩ := List.head?_eq_some_iff.1 h
      exact ⟨String.ofList rest, by simpa using hrest⟩
    · rintro ⟨rest, hrest⟩
      rw [hrest]
      rfl
  | _ => simp [Value.str?]

/-- The findings about one parameter of a step. -/
def findings (place : Place) (source : String) (declared : List ApiParameter)
    (parameter : Parameter) : Findings :=
  match parameter.misplaced? declared with
  | some known => ⟨[locationMismatch place source parameter known], []⟩
  | none =>
    if declared.any parameter.matchesApi || parameter.isExpression then Report.empty
    else ⟨[], [extraParameter place parameter]⟩

/-- Messages about a wrong location show the location that is given. -/
theorem text_location (h : parameter.location.IsLocation) (hnull : parameter.location ≠ .null) :
    parameter.location.text = .ok parameter.shownLocation := by
  obtain hisNull | ⟨location, -, hlocation⟩ := h
  · exact absurd (Value.isNull_iff.1 hisNull) hnull
  · rw [shownLocation, hlocation]
    rfl

/-- A known location counts as given, since none is empty. -/
theorem isGiven_location (h : parameter.location.IsLocation) (hnull : parameter.location ≠ .null) :
    parameter.location.isGiven = true := by
  obtain hisNull | ⟨location, hmem, hlocation⟩ := h
  · exact absurd (Value.isNull_iff.1 hisNull) hnull
  · have hall : ∀ location ∈ locations, (Value.str location).isGiven = true := by decide
    rw [hlocation]
    exact hall location hmem

/-- The check of a parameter with a known location ends with its findings. -/
theorem checkParameter_eq (h : parameter.location.IsLocation) :
    checkParameter place source declared parameter =
      .ok (parameter.findings place source declared) := by
  rw [checkParameter, findings]
  cases hmisplaced : parameter.misplaced? declared with
  | some known =>
    have hnull : parameter.location ≠ .null := fun hnull =>
      not_misplaces_of_null hnull (misplaced?_eq_some_iff.1 hmisplaced)
    simp only [text_location h hnull, ok_bind]
    rfl
  | none =>
    dsimp only
    split
    · rfl
    · -- the message shows the location only if there is one
      by_cases hnull : parameter.location = .null
      · have hgiven : parameter.location.isGiven = false := by
          rw [hnull]
          rfl
        have hshown : (pure "unspecified" : Except Fault String) = .ok parameter.shownLocation := by
          rw [shownLocation, hnull]
          rfl
        rw [hgiven, hshown]
        rfl
      · rw [isGiven_location h hnull, text_location h hnull]
        rfl

/-- About a parameter that supplies a declared one there are no findings. -/
theorem findings_of_supplies (hmem : wanted ∈ declared) (h : parameter.Supplies wanted) :
    parameter.findings place source declared = Report.empty := by
  have hany := any_matchesApi_iff.2 ⟨wanted, hmem, h⟩
  rw [findings, misplaced?, if_pos hany, hany]
  rfl

/-- About a parameter that misplaces a declared one there is an error. -/
theorem Misplaces.findings_eq (h : parameter.Misplaces declared known) :
    parameter.findings place source declared =
      ⟨[locationMismatch place source parameter known], []⟩ := by
  rw [findings, misplaced?_eq_some_iff.2 h]

/-- About a parameter that is not declared there is a warning, unless its value is an expression. -/
theorem findings_of_undeclared (h : ∀ wanted ∈ declared, wanted.name ≠ parameter.name) :
    parameter.findings place source declared =
      if parameter.isExpression then Report.empty else ⟨[], [extraParameter place parameter]⟩ := by
  have hmisplaced : parameter.misplaced? declared = none :=
    Option.eq_none_iff_forall_ne_some.2 fun known hknown =>
      have hmisplaces := misplaced?_eq_some_iff.1 hknown
      h known hmisplaces.mem hmisplaces.name_eq
  have hany : declared.any parameter.matchesApi = false := Bool.eq_false_iff.2 fun hany =>
    have ⟨wanted, hmem, hsupplies⟩ := any_matchesApi_iff.1 hany
    h wanted hmem hsupplies.1.symm
  rw [findings, hmisplaced, hany, Bool.false_or]

/-- A parameter supplies a declared one, misplaces one or is not declared. -/
theorem supplies_or_misplaces_or_undeclared (parameter : Parameter) (declared : List ApiParameter) :
    (∃ wanted ∈ declared, parameter.Supplies wanted) ∨
      (∃ known, parameter.Misplaces declared known) ∨
      ∀ wanted ∈ declared, wanted.name ≠ parameter.name := by
  by_cases hsupplied : ∃ wanted ∈ declared, parameter.Supplies wanted
  · exact .inl hsupplied
  · have hunmatched : ∀ wanted ∈ declared, ¬ parameter.Supplies wanted :=
      fun wanted hmem hsupplies => hsupplied ⟨wanted, hmem, hsupplies⟩
    cases hfirst : declared.find? (·.name = parameter.name) with
    | some known => exact .inr (.inl ⟨known, hunmatched, hfirst⟩)
    | none => exact .inr (.inr (by simpa using hfirst))

/-- What is reported about a parameter are its findings, and nothing else. -/
theorem reports_iff {report : Findings} :
    parameter.Reports place source declared report ↔
      report = parameter.findings place source declared := by
  constructor
  · intro h
    cases h with
    | supplied hmem hsupplies => rw [findings_of_supplies hmem hsupplies]
    | misplaced hmisplaces => rw [hmisplaces.findings_eq]
    | expression hname hvalue =>
      rw [findings_of_undeclared hname, if_pos (isExpression_iff.2 ⟨_, hvalue⟩)]
    | extra hname hvalue =>
      rw [findings_of_undeclared hname,
        if_neg fun h => (isExpression_iff.1 h).elim hvalue]
  · rintro rfl
    obtain ⟨wanted, hmem, hsupplies⟩ | ⟨known, hmisplaces⟩ | hname :=
      parameter.supplies_or_misplaces_or_undeclared declared
    · rw [findings_of_supplies hmem hsupplies]
      exact .supplied hmem hsupplies
    · rw [hmisplaces.findings_eq]
      exact .misplaced hmisplaces
    · rw [findings_of_undeclared hname]
      split
      · next hexpression =>
        obtain ⟨rest, hvalue⟩ := isExpression_iff.1 hexpression
        exact .expression hname hvalue
      · next hexpression =>
        exact .extra hname fun rest hvalue => hexpression (isExpression_iff.2 ⟨rest, hvalue⟩)

/-- There is nothing to report about a parameter exactly if it supplies a declared one or is an
expression under a name that is not declared. -/
theorem findings_eq_empty_iff :
    parameter.findings place source declared = Report.empty ↔
      (∃ wanted ∈ declared, parameter.Supplies wanted) ∨
        (∀ wanted ∈ declared, wanted.name ≠ parameter.name) ∧
          ∃ rest, parameter.value = .str ("$" ++ rest) := by
  constructor
  · intro h
    have hreports := reports_iff.2 h.symm
    generalize hreport : (Report.empty : Findings) = report at hreports
    cases hreports with
    | supplied hmem hsupplies => exact .inl ⟨_, hmem, hsupplies⟩
    | misplaced _ => cases hreport
    | expression hname hvalue => exact .inr ⟨hname, _, hvalue⟩
    | extra _ _ => cases hreport
  · rintro (⟨wanted, hmem, hsupplies⟩ | ⟨hname, rest, hvalue⟩)
    · exact findings_of_supplies hmem hsupplies
    · rw [findings_of_undeclared hname, if_pos (isExpression_iff.2 ⟨rest, hvalue⟩)]

end Parameter

section Missing

variable {parameters : List Parameter} {declared : List ApiParameter} {wanted : ApiParameter}

/-- The search for missing parameters decides what is missing. -/
theorem isMissing_iff :
    (wanted.required &&
        !(parameters.filterMap fun parameter =>
          (parameter.misplaced? declared).map ApiParameter.key).contains wanted.key &&
        !parameters.any (·.matchesApi wanted)) = true ↔
      IsMissing parameters declared wanted := by
  simp only [Bool.and_eq_true, Bool.not_eq_true', ← Bool.not_eq_true, List.contains_iff_mem,
    List.mem_filterMap, Option.map_eq_some_iff, Parameter.misplaced?_eq_some_iff, List.any_eq_true,
    Parameter.matchesApi_iff, not_exists, not_and]
  constructor
  · rintro ⟨⟨hrequired, hunclaimed⟩, hunsupplied⟩
    exact ⟨hrequired, hunsupplied, fun parameter hparameter known hknown hkey =>
      hunclaimed parameter hparameter known hknown hkey.symm⟩
  · intro h
    exact ⟨⟨h.required, fun parameter hparameter known hknown hkey =>
      h.unclaimed parameter hparameter known hknown hkey.symm⟩, h.unsupplied⟩

instance : Decidable (IsMissing parameters declared wanted) :=
  decidable_of_iff _ isMissing_iff

/-- The missing parameters are found among the declared ones, in their order. -/
theorem missingParameters_eq (step : Step) (declared : List ApiParameter) :
    missingParameters step declared = declared.filter (IsMissing step.parameters declared ·) :=
  List.filter_congr fun _ _ => Bool.eq_iff_iff.2 (isMissing_iff.trans decide_eq_true_iff.symm)

end Missing

namespace Step

variable {step : Step} {hit : Hit} {place : Place}

/-- The findings about the call of an operation: the missing parameters, then one parameter of the
step after the other. -/
def callFindings (step : Step) (place : Place) (hit : Hit) : Findings :=
  let declared := hit.endpoint.operation.parameters
  let missing := declared.filter (IsMissing step.parameters declared ·)
  Report.concat (⟨missing.map (missingParameter place hit.source), []⟩ ::
    step.parameters.map (·.findings place hit.source declared))

/-- The errors about a call: those about missing parameters, then those about given ones. -/
theorem errors_callFindings (step : Step) (place : Place) (hit : Hit) :
    (step.callFindings place hit).errors =
      (hit.endpoint.operation.parameters.filter
          (IsMissing step.parameters hit.endpoint.operation.parameters ·)).map
          (missingParameter place hit.source) ++
        step.parameters.flatMap fun parameter =>
          (parameter.findings place hit.source hit.endpoint.operation.parameters).errors := by
  rw [callFindings, Report.errors_concat, List.flatMap_cons, List.flatMap_map]

/-- The warnings about a call are those about given parameters. -/
theorem warnings_callFindings (step : Step) (place : Place) (hit : Hit) :
    (step.callFindings place hit).warnings = step.parameters.flatMap fun parameter =>
      (parameter.findings place hit.source hit.endpoint.operation.parameters).warnings := by
  rw [callFindings, Report.warnings_concat, List.flatMap_cons, List.flatMap_map, List.nil_append]

/-- The findings about a step: those about the call, if it calls an operation of the catalog. -/
def findings (catalog : Catalog) (place : Place) (step : Step) : Findings :=
  match catalog.operationOf step with
  | .ok (some hit) => step.callFindings place hit
  | _ => Report.empty

/-- The check of a step that satisfies the rules ends with the findings about the call. -/
theorem Valid.checkStepParameters_eq (h : step.Valid) (place : Place) (hit : Hit) :
    checkStepParameters place step hit = .ok (step.callFindings place hit) := by
  refine checkStepParameters_eq_ok_iff.2 ⟨step.parameters.map
    (·.findings place hit.source hit.endpoint.operation.parameters), ?_, ?_⟩
  · rw [List.forall₂_map_right_iff, List.forall₂_same]
    exact fun parameter hmem => Parameter.checkParameter_eq (h.parameters parameter hmem)
  · rw [missingParameters_eq, callFindings]

/-- The findings about a step that satisfies the rules are at its place. -/
theorem Valid.within_findings (h : step.Valid) (catalog : Catalog) (place : Place) :
    (step.findings catalog place).Within (· = place) := by
  rw [findings]
  split
  · exact within_checkStepParameters (h.checkStepParameters_eq place _)
  · exact Report.within_empty

/-- There is nothing to report about a call exactly if every required parameter is supplied and
every parameter of the step supplies a declared one or is an expression under a name that is not
declared. -/
theorem callFindings_eq_empty_iff :
    step.callFindings place hit = Report.empty ↔
      (∀ wanted ∈ hit.endpoint.operation.parameters, wanted.required = true →
          ∃ parameter ∈ step.parameters, parameter.Supplies wanted) ∧
        ∀ parameter ∈ step.parameters,
          (∃ wanted ∈ hit.endpoint.operation.parameters, parameter.Supplies wanted) ∨
            (∀ wanted ∈ hit.endpoint.operation.parameters, wanted.name ≠ parameter.name) ∧
              ∃ rest, parameter.value = .str ("$" ++ rest) := by
  simp only [callFindings, Report.concat_eq_empty_iff, List.forall_mem_cons, List.forall_mem_map,
    Parameter.findings_eq_empty_iff]
  -- both sides agree on the parameters of the step; given that, none of them misplaces anything
  refine and_congr_left fun hparameters => ?_
  have hunclaimed : ∀ parameter ∈ step.parameters, ∀ known,
      ¬ parameter.Misplaces hit.endpoint.operation.parameters known := by
    intro parameter hparameter known hmisplaces
    obtain ⟨wanted, hmem, hsupplies⟩ | ⟨hname, -⟩ := hparameters parameter hparameter
    · exact hmisplaces.unmatched wanted hmem hsupplies
    · exact hname known hmisplaces.mem hmisplaces.name_eq
  have hmissing (errors : List ErrorFinding) :
      (⟨errors, []⟩ : Findings) = Report.empty ↔ errors = [] := by
    rw [Report.empty, Report.mk.injEq, and_iff_left rfl]
  rw [hmissing, List.map_eq_nil_iff, List.filter_eq_nil_iff]
  refine forall₂_congr fun wanted _ => ?_
  rw [decide_eq_true_iff]
  constructor
  · -- nothing is misplaced, so that a required parameter that is not supplied would be missing
    intro h hrequired
    by_contra hsupplied
    refine h ⟨hrequired, fun parameter hparameter hsupplies => ?_, fun parameter hparameter known
      hmisplaces => absurd hmisplaces (hunclaimed parameter hparameter known)⟩
    exact hsupplied ⟨parameter, hparameter, hsupplies⟩
  · intro h hmissing
    obtain ⟨parameter, hparameter, hsupplies⟩ := h hmissing.required
    exact hmissing.unsupplied parameter hparameter hsupplies

end Step

namespace Document

variable {document : Document} {catalog : Catalog} {place : Place} {step : Step} {hit : Hit}
  {findings : Findings}

/-- No two steps of an accepted document stand at one place. -/
theorem Valid.nodup_places (h : document.Valid) :
    (document.placedSteps.map Prod.fst).Nodup := by
  rw [placedSteps, List.map_flatMap, List.nodup_flatMap]
  constructor
  · -- the steps of a workflow have different ids
    intro workflow hworkflow
    rw [List.map_map]
    -- the id of a step can be read off its place
    refine List.Nodup.of_map (·.step) ?_
    rw [List.map_map]
    refine List.Nodup.of_map (·.getD "") ?_
    rw [List.map_map]
    exact (h.workflows workflow hworkflow).nodup
  · -- the workflows have different ids
    refine (List.pairwise_map.1 h.nodup).imp fun hne place hfirst hsecond => hne ?_
    simp only [List.map_map, List.mem_map] at hfirst hsecond
    obtain ⟨_, _, rfl⟩ := hfirst
    obtain ⟨_, _, hplace⟩ := hsecond
    exact (Option.some.inj (congrArg Place.workflow hplace)).symm

/-- On an accepted document the phase ends with the findings about step after step. -/
theorem Valid.checkParameters_eq (h : document.Valid) (catalog : Catalog) :
    checkParameters document catalog = .ok (Report.concat
      (document.placedSteps.map fun entry => entry.2.findings catalog entry.1)) := by
  refine (checkParameters_eq_ok_iff h).2 ⟨_, ?_, rfl⟩
  rw [List.forall₂_map_right_iff, List.forall₂_same]
  intro entry hentry
  have hstep := h.of_mem_placedSteps hentry
  obtain ⟨target, htarget⟩ := hstep.exists_target
  refine ⟨target, htarget, ?_⟩
  -- a step without an operation has no findings, and the check of its call reports none
  rw [Step.findings, Catalog.operationOf_eq htarget]
  cases target.hit? catalog with
  | none => rfl
  | some hit => exact hstep.checkStepParameters_eq entry.1 hit

/-- The findings at the place of a step that calls an operation are those about the call. -/
theorem Valid.about_checkParameters (h : document.Valid)
    (hfindings : checkParameters document catalog = .ok findings)
    (hentry : (place, step) ∈ document.placedSteps)
    (hhit : catalog.operationOf step = .ok (some hit)) :
    findings.about place = step.callFindings place hit := by
  have hcall : step.findings catalog place = step.callFindings place hit := by
    rw [Step.findings, hhit]
  obtain rfl := Except.ok.inj ((h.checkParameters_eq catalog).symm.trans hfindings)
  rw [Report.about_concat_map h.nodup_places hentry fun other hother hne =>
    ((h.of_mem_placedSteps hother).within_findings catalog other.1).imp fun _ hplace =>
      hplace ▸ hne, ← hcall]
  exact ((h.of_mem_placedSteps hentry).within_findings catalog place).about_eq_self

end Document

variable {value : Value} {document : Document} {catalog : Catalog} {workflow : Workflow}
  {step : Step} {hit : Hit}

/-- What the phase finds about a step of an accepted document that calls an operation of the
catalog. First there is an error for each declared parameter that is missing, in the order of the
declaration. Then each parameter of the step, in order, has one outcome: nothing, an error or a
warning. There is nothing to report about the step exactly if every required parameter is supplied,
and every parameter that supplies none is an expression under a name that is not declared. -/
theorem checkParameters_about (hread : Document.read value = .ok document)
    (hworkflow : workflow ∈ document.workflows) (hstep : step ∈ workflow.steps)
    (hhit : catalog.operationOf step = .ok (some hit)) :
    let place := workflow.placeOf step
    let declared := hit.endpoint.operation.parameters
    ∃ findings reports, checkParameters document catalog = .ok findings ∧
      List.Forall₂ (Parameter.Reports place hit.source declared) step.parameters reports ∧
      (findings.about place).errors =
        (declared.filter (IsMissing step.parameters declared ·)).map
          (missingParameter place hit.source) ++ reports.flatMap (·.errors) ∧
      (findings.about place).warnings = reports.flatMap (·.warnings) ∧
      (findings.about place = Report.empty ↔
        (∀ wanted ∈ declared, wanted.required = true →
            ∃ parameter ∈ step.parameters, parameter.Supplies wanted) ∧
          ∀ parameter ∈ step.parameters, (∃ wanted ∈ declared, parameter.Supplies wanted) ∨
            (∀ wanted ∈ declared, wanted.name ≠ parameter.name) ∧
              ∃ rest, parameter.value = .str ("$" ++ rest)) := by
  intro place declared
  have hvalid := (Document.read_eq_ok_iff.1 hread).2
  have hentry : (place, step) ∈ document.placedSteps :=
    Document.mem_placedSteps.2 ⟨workflow, hworkflow, step, hstep, rfl⟩
  obtain ⟨findings, hfindings⟩ := exists_checkParameters hvalid catalog
  -- the findings about the step are those of its own call
  have habout := hvalid.about_checkParameters hfindings hentry hhit
  refine ⟨findings, step.parameters.map (·.findings place hit.source declared), hfindings, ?_, ?_,
    ?_, ?_⟩
  · rw [List.forall₂_map_right_iff, List.forall₂_same]
    exact fun parameter _ => Parameter.reports_iff.2 rfl
  · rw [habout, Step.errors_callFindings, List.flatMap_map]
  · rw [habout, Step.warnings_callFindings, List.flatMap_map]
  · rw [habout]
    exact Step.callFindings_eq_empty_iff

/-- The value of an API description with one operation, which requires `id` in the query and in a
header, `page` and `size`. -/
def ordersApi : Value :=
  let required (name location : String) : Value := .map [(.str "name", .str name),
    (.str "in", .str location), (.str "required", .bool true)]
  let find : Value := .map [(.str "operationId", .str "find"),
    (.str "parameters", .list [required "id" "query", required "id" "header",
      required "page" "query", required "size" "query"])]
  .map [(.str "openapi", .str "3.0.3"),
    (.str "info", .map [(.str "title", .str "Orders"), (.str "version", .str "1")]),
    (.str "paths", .map [(.str "/orders", .map [(.str "get", find)])])]

/-- The catalog of that API. -/
def ordersCatalog : Catalog :=
  match Api.read ordersApi with
  | .ok api => Catalog.empty.add "orders" api
  | .error _ => Catalog.empty

/-- The value of a document with one step, which gives `id` in the path, `page` in the query and
`size` anywhere, and two parameters that are not declared. -/
def ordersDocument : Value :=
  let parameter (name value : String) (location : Entries) : Value :=
    .map ([(.str "name", .str name), (.str "value", .str value)] ++ location)
  let step : Value := .map [(.str "stepId", .str "find"), (.str "operationId", .str "find"),
    (.str "parameters", .list [parameter "id" "7" [(.str "in", .str "path")],
      parameter "page" "1" [(.str "in", .str "query")], parameter "size" "9" [],
      parameter "trace" "$inputs.trace" [], parameter "mark" "x" []])]
  let workflow : Value := .map [(.str "workflowId", .str "orders"), (.str "steps", .list [step])]
  .map [(.str "arazzo", .str "1.0.0"),
    (.str "info", .map [(.str "title", .str "Orders"), (.str "version", .str "1")]),
    (.str "workflows", .list [workflow])]

/-- The `id` in the header is missing; the one in the query is not, since the step misplaces it. The
last parameter is extra. -/
theorem about_ordersDocument :
    ∃ document workflow step hit findings reports, Document.read ordersDocument = .ok document ∧
      workflow ∈ document.workflows ∧ step ∈ workflow.steps ∧
      ordersCatalog.operationOf step = .ok (some hit) ∧
      checkParameters document ordersCatalog = .ok findings ∧
      (findings.about (workflow.placeOf step)).errors.map (·.kind) =
        [.requiredParameterMissing, .parameterLocationMismatch] ∧
      (findings.about (workflow.placeOf step)).warnings.length = 1 ∧
      List.Forall₂ (Parameter.Reports (workflow.placeOf step) hit.source
        hit.endpoint.operation.parameters) step.parameters reports ∧
      (findings.about (workflow.placeOf step)).warnings = reports.flatMap (·.warnings) := by
  have hrun : ∃ document workflow step hit findings, Document.read ordersDocument = .ok document ∧
      workflow ∈ document.workflows ∧ step ∈ workflow.steps ∧
      ordersCatalog.operationOf step = .ok (some hit) ∧
      checkParameters document ordersCatalog = .ok findings ∧
      (findings.about (workflow.placeOf step)).errors.map (·.kind) =
        [.requiredParameterMissing, .parameterLocationMismatch] ∧
      (findings.about (workflow.placeOf step)).warnings.length = 1 :=
    ⟨_, _, _, _, _, rfl, List.mem_cons_self, List.mem_cons_self, rfl, rfl, rfl, rfl⟩
  obtain ⟨document, workflow, step, hit, findings, hread, hworkflow, hstep, hhit, hchecks, hkinds,
    hlength⟩ := hrun
  obtain ⟨_, reports, hfindings, hreports, -, hwarnings, -⟩ :=
    checkParameters_about hread hworkflow hstep hhit
  obtain rfl := Except.ok.inj (hchecks.symm.trans hfindings)
  exact ⟨document, workflow, step, hit, findings, reports, hread, hworkflow, hstep, hhit, hchecks,
    hkinds, hlength, hreports, hwarnings⟩

end FlowCheck
