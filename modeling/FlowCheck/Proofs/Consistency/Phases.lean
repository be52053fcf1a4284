import FlowCheck.Consistency
import FlowCheck.Proofs.Consistency.DataFlow
import FlowCheck.Proofs.Consistency.Parameters

/-!
# The phases of the checks

On an accepted document the checks report either what the first phase finds or what the others
find. The first phase reports the steps whose references lead nowhere, one error each; the second
one looks up the operations again and finds those that the first one found
(`checkConsistency_phases`).
-/

namespace FlowCheck

open Result

/-- The steps of a document whose references lead nowhere, each with its place. -/
def Document.unresolvedSteps (document : Document) (catalog : Catalog) : List (Place × Step) :=
  document.placedSteps.filter fun entry =>
    !entry.2.target?.any fun target => target.resolves document catalog

/-- The error about a step whose reference leads nowhere. -/
def ReportsTarget (catalog : Catalog) (entry : Place × Step) (error : ErrorFinding) : Prop :=
  ∃ target, entry.2.target? = some target ∧ error.kind = target.errorKind ∧
    error.place = entry.1 ∧ { error with suggestion := none } = target.error catalog entry.1

/-- The findings about the parameters of a step whose reference leads somewhere: none if it runs a
workflow, and otherwise those about the operation that the reference leads to. -/
def ReportsResolved (catalog : Catalog) (entry : Place × Step) (report : Findings) : Prop :=
  (∃ id, entry.2.target? = some (.workflowId id) ∧ report = Report.empty) ∨
    ∃ target hit, entry.2.target? = some target ∧ target.hit? catalog = some hit ∧
      catalog.operationOf entry.2 = .ok (some hit) ∧
      checkStepParameters entry.1 entry.2 hit = .ok report

variable {value : Value} {document : Document} {catalog : Catalog} {cutoff : Cutoff}
  {place : Place} {step : Step} {target : Target} {findings : Findings}

/-- What the first phase finds about a step of an accepted document, if its reference leads
nowhere, is the error about that. -/
theorem rel_checkTarget (hstep : step.Valid) {error? : Option ErrorFinding}
    (h : checkTarget document catalog cutoff place step = .ok error?) :
    Option.Rel (ReportsTarget catalog)
      (Option.guard (fun entry => !entry.2.target?.any fun target =>
        target.resolves document catalog) (place, step)) error? := by
  obtain ⟨target, htarget⟩ := hstep.exists_target
  rw [checkTarget_eq_ok_iff htarget] at h
  by_cases hresolves : target.resolves document catalog
  · rw [if_pos hresolves] at h
    have hguard : (step.target?.any fun target => target.resolves document catalog) = true := by
      rw [htarget]
      exact hresolves
    rw [h, Option.guard, hguard]
    exact .none
  · rw [if_neg hresolves] at h
    obtain ⟨suggestion, -, rfl⟩ := h
    have hguard : (step.target?.any fun target => target.resolves document catalog) = false := by
      rw [htarget]
      exact Bool.eq_false_iff.2 hresolves
    rw [Option.guard, hguard]
    exact .some ⟨target, htarget, rfl, rfl, rfl⟩

/-- The first phase finds one error about each step whose reference leads nowhere, in the order of
the document, and gives no warnings. -/
theorem checkTargets_errors (hvalid : document.Valid)
    (h : checkTargets document catalog cutoff = .ok findings) :
    List.Forall₂ (ReportsTarget catalog) (document.unresolvedSteps catalog) findings.errors ∧
      findings.warnings = [] := by
  obtain ⟨found, hfound, hfindings⟩ := bind_eq_ok_iff.1 h
  rw [← pure_eq_ok_iff.1 hfindings]
  refine ⟨?_, rfl⟩
  have hboth := (List.forall₂_and_left _ _).2
    ⟨fun entry hentry => hvalid.of_mem_placedSteps hentry, mapM_eq_ok_iff.1 hfound⟩
  -- both lists are selections from lists that are related step by step
  rw [Document.unresolvedSteps, ← List.filterMap_eq_filter]
  exact List.rel_filterMap (fun _ _ ⟨hstep, htarget⟩ => rel_checkTarget hstep htarget) hboth

/-- The errors of the first phase are at steps of the document. -/
theorem within_checkTargets (hvalid : document.Valid)
    (h : checkTargets document catalog cutoff = .ok findings) :
    findings.Within fun place => ∃ entry ∈ document.placedSteps, entry.1 = place := by
  obtain ⟨herrors, hwarnings⟩ := checkTargets_errors hvalid h
  refine ⟨fun error herror => ?_, by simp [hwarnings]⟩
  obtain ⟨entry, hentry, -, -, -, hplace, -⟩ := exists_of_mem_forall₂ herrors herror
  exact ⟨entry, List.mem_of_mem_filter hentry, hplace.symm⟩

/-- The second phase finds the operations that the first one found, if that reported no step. -/
theorem reportsResolved_of_reportsCall {entry : Place × Step} {report : Findings}
    (hentry : entry ∈ document.placedSteps) (hresolved : document.unresolvedSteps catalog = [])
    (h : ReportsCall catalog entry report) : ReportsResolved catalog entry report := by
  obtain ⟨target, htarget, hcall⟩ := h
  have hresolves : target.resolves document catalog = true := by
    simpa [htarget] using List.filter_eq_nil_iff.1 hresolved entry hentry
  cases hhit : target.hit? catalog with
  | some hit =>
    rw [hhit] at hcall
    exact .inr ⟨target, hit, htarget, hhit, by rw [Catalog.operationOf_eq htarget, hhit], hcall⟩
  | none =>
    rw [hhit] at hcall
    cases target with
    | workflowId id => exact .inl ⟨id, htarget, (Except.ok.inj hcall).symm⟩
    | _ => simp [Target.resolves, hhit] at hresolves

/-- The findings of the second phase are at steps of the document. -/
theorem within_checkParameters (hvalid : document.Valid)
    (h : checkParameters document catalog = .ok findings) :
    findings.Within fun place => ∃ entry ∈ document.placedSteps, entry.1 = place := by
  obtain ⟨found, hfound, rfl⟩ := (checkParameters_eq_ok_iff hvalid).1 h
  refine Report.within_concat fun report hreport => ?_
  obtain ⟨entry, hentry, target, -, hcall⟩ := exists_of_mem_forall₂ hfound hreport
  exact (within_checkCall hcall).imp fun place hplace => ⟨entry, hentry, hplace.symm⟩

/-- The findings of the third phase are at steps of the document. -/
theorem within_checkDataFlow (document : Document) :
    (checkDataFlow document).Within fun place =>
      ∃ entry ∈ document.placedSteps, entry.1 = place := by
  refine Report.within_concat fun report hreport => ?_
  obtain ⟨workflow, hworkflow, rfl⟩ := List.mem_map.1 hreport
  refine (Workflow.within_checkData workflow).imp fun place ⟨step, hstep, hplace⟩ => ?_
  exact ⟨(workflow.placeOf step, step),
    Document.mem_placedSteps.2 ⟨workflow, hworkflow, step, hstep, rfl⟩, hplace.symm⟩

/-- The phases after the first one come to an end when the second one does, and add what the second
and the third find. -/
theorem laterPhases_eq_ok_iff {start verdict : ConsistencyVerdict} :
    [Phase.parameters, .data, .schemas].foldlM
        (fun verdict phase => (phase.run document catalog cutoff).map verdict.extend) start =
          .ok verdict ↔
      ∃ parameters, checkParameters document catalog = .ok parameters ∧
        verdict = start.extend (parameters.append (checkDataFlow document)) := by
  simp only [List.foldlM_cons, List.foldlM_nil, bind_eq_ok_iff, map_eq_ok_iff, pure_eq_ok_iff,
    Phase.run, SuggestError.stop, mapError_eq_ok_iff, Except.ok.injEq]
  have hextend (parameters : Findings) :
      ((start.extend parameters).extend (checkDataFlow document)).extend Report.empty =
        start.extend (parameters.append (checkDataFlow document)) := by
    rw [Verdict.extend_extend, Verdict.extend_extend, Report.append_empty]
  constructor
  · rintro ⟨_, ⟨parameters, hparameters, rfl⟩, _, ⟨_, rfl, rfl⟩, _, ⟨_, rfl, rfl⟩, rfl⟩
    exact ⟨parameters, hparameters, hextend parameters⟩
  · rintro ⟨parameters, hparameters, rfl⟩
    exact ⟨_, ⟨parameters, hparameters, rfl⟩, _, ⟨_, rfl, rfl⟩, _, ⟨_, rfl, rfl⟩,
      hextend parameters⟩

/-- On an accepted document the checks end with the errors of the first phase if there are any, and
otherwise with the findings of the second and the third phase. -/
theorem checkConsistency_eq_ok_iff (hvalid : document.Valid) {verdict : ConsistencyVerdict} :
    checkConsistency document catalog cutoff = .ok verdict ↔
      ∃ targets, checkTargets document catalog cutoff = .ok targets ∧
        if document.unresolvedSteps catalog = [] then
          ∃ parameters, checkParameters document catalog = .ok parameters ∧
            verdict = Verdict.empty.extend (parameters.append (checkDataFlow document))
        else verdict = Verdict.empty.extend targets := by
  rw [checkConsistency, bind_eq_ok_iff]
  refine exists_congr fun targets => and_congr_right fun htargets => ?_
  obtain ⟨herrors, hwarnings⟩ := checkTargets_errors hvalid htargets
  have hnone : targets.errors = [] ↔ document.unresolvedSteps catalog = [] := by
    rw [← List.length_eq_zero_iff, ← herrors.length_eq, List.length_eq_zero_iff]
  dsimp only
  rw [Verdict.toReport_empty_extend]
  by_cases hresolved : document.unresolvedSteps catalog = []
  · -- the first phase gives no warnings, so that without errors it adds nothing
    have hempty : targets = Report.empty :=
      Report.eq_of_findings_eq (hnone.2 hresolved) hwarnings
    rw [if_pos hresolved, if_neg (by simp [hnone.2 hresolved]), laterPhases_eq_ok_iff]
    simp only [Verdict.extend_extend, hempty, Report.empty_append]
  · rw [if_neg hresolved, if_pos (by simpa [hnone] using hresolved), pure_eq_ok_iff]
    exact eq_comm

/-- All findings are at steps of the document. -/
theorem within_checkConsistency (hvalid : document.Valid) {verdict : ConsistencyVerdict}
    (h : checkConsistency document catalog cutoff = .ok verdict) :
    verdict.Within fun place => ∃ entry ∈ document.placedSteps, entry.1 = place := by
  obtain ⟨targets, htargets, hphases⟩ := (checkConsistency_eq_ok_iff hvalid).1 h
  split at hphases
  · obtain ⟨parameters, hparameters, rfl⟩ := hphases
    rw [Verdict.toReport_empty_extend]
    exact (within_checkParameters hvalid hparameters).append (within_checkDataFlow document)
  · rw [hphases, Verdict.toReport_empty_extend]
    exact within_checkTargets hvalid htargets

/-- What the checks of an accepted document say when they come to an end.

The verdict is valid exactly if there are no errors. If references of steps lead nowhere, there is
one error about each of them, in the order of the document, and nothing else. Otherwise the findings
are those about the parameters of the steps, for which every operation that is referred to is found
again, and then those about the data between the steps. All findings are at steps of the
document. -/
theorem checkConsistency_phases (hread : Document.read value = .ok document)
    {verdict : ConsistencyVerdict}
    (h : checkConsistency document catalog cutoff = .ok verdict) :
    (verdict.isValid = true ↔ verdict.errors = []) ∧
      (document.unresolvedSteps catalog ≠ [] →
        List.Forall₂ (ReportsTarget catalog) (document.unresolvedSteps catalog) verdict.errors ∧
          verdict.warnings = []) ∧
      (document.unresolvedSteps catalog = [] →
        ∃ found, List.Forall₂ (ReportsResolved catalog) document.placedSteps found ∧
          checkParameters document catalog = .ok (Report.concat found) ∧
          verdict.toReport = (Report.concat found).append (checkDataFlow document)) ∧
      verdict.Within fun place => ∃ workflow ∈ document.workflows, ∃ step ∈ workflow.steps,
        place.workflow = some workflow.id ∧ place.step = some step.id := by
  have hvalid := (Document.read_eq_ok_iff.1 hread).2
  obtain ⟨targets, htargets, hphases⟩ := (checkConsistency_eq_ok_iff hvalid).1 h
  refine ⟨verdict.isValid_iff, fun hunresolved => ?_, fun hresolved => ?_, ?_⟩
  -- the first phase ends the checks, or has found nothing that the others could add to
  · rw [if_neg hunresolved] at hphases
    rw [hphases, Verdict.toReport_empty_extend]
    exact checkTargets_errors hvalid htargets
  · rw [if_pos hresolved] at hphases
    obtain ⟨parameters, hparameters, rfl⟩ := hphases
    obtain ⟨found, hfound, rfl⟩ := (checkParameters_eq_ok_iff hvalid).1 hparameters
    have hboth := (List.forall₂_and_left _ _).2 ⟨fun entry hentry => hentry, hfound⟩
    exact ⟨found, hboth.imp fun _ _ ⟨hentry, hcall⟩ =>
      reportsResolved_of_reportsCall hentry hresolved hcall, hparameters,
      Verdict.toReport_empty_extend _⟩
  · refine (within_checkConsistency hvalid h).imp ?_
    rintro _ ⟨entry, hentry, rfl⟩
    obtain ⟨workflow, hworkflow, step, hstep, rfl⟩ := Document.mem_placedSteps.1 hentry
    exact ⟨workflow, hworkflow, step, hstep, rfl, rfl⟩

/-- The value of an API description with one operation, which requires a parameter. -/
def pagesApi : Value :=
  let limit : Value := .map [(.str "name", .str "limit"), (.str "in", .str "query"),
    (.str "required", .bool true)]
  let list : Value := .map [(.str "operationId", .str "list"), (.str "parameters", .list [limit])]
  .map [(.str "openapi", .str "3.0.3"),
    (.str "info", .map [(.str "title", .str "Pages"), (.str "version", .str "1")]),
    (.str "paths", .map [(.str "/pages", .map [(.str "get", list)])])]

/-- The catalog of that API. -/
def pagesCatalog : Catalog :=
  match Api.read pagesApi with
  | .ok api => Catalog.empty.add "pages" api
  | .error _ => Catalog.empty

/-- Both steps of a document call an operation of the catalog, so that the findings are those about
their parameters and their data. Without the catalog the findings are that both references lead
nowhere. -/
theorem phases_walkDocument :
    ∃ document verdict found others, Document.read walkDocument = .ok document ∧
      checkConsistency document pagesCatalog .standard = .ok verdict ∧
      verdict.errors.length = 4 ∧
      List.Forall₂ (ReportsResolved pagesCatalog) document.placedSteps found ∧
      verdict.toReport = (Report.concat found).append (checkDataFlow document) ∧
      checkConsistency document Catalog.empty (.whole 1) = .ok others ∧
      List.Forall₂ (ReportsTarget Catalog.empty) document.placedSteps others.errors := by
  have hrun : ∃ document verdict others, Document.read walkDocument = .ok document ∧
      checkConsistency document pagesCatalog .standard = .ok verdict ∧
      verdict.errors.length = 4 ∧ document.unresolvedSteps pagesCatalog = [] ∧
      checkConsistency document Catalog.empty (.whole 1) = .ok others ∧
      document.placedSteps ≠ [] ∧
      document.unresolvedSteps Catalog.empty = document.placedSteps :=
    ⟨_, _, _, rfl, rfl, rfl, rfl, rfl, List.cons_ne_nil _ _, rfl⟩
  obtain ⟨document, verdict, others, hread, hchecks, hlength, hresolved, hothers, hsteps,
    hunresolved⟩ := hrun
  obtain ⟨-, -, hphases, -⟩ := checkConsistency_phases hread hchecks
  obtain ⟨found, hfound, -, hreport⟩ := hphases hresolved
  obtain ⟨-, herrors, -, -⟩ := checkConsistency_phases hread hothers
  rw [hunresolved] at herrors
  exact ⟨document, verdict, found, others, hread, hchecks, hlength, hfound, hreport, hothers,
    (herrors hsteps).1⟩

end FlowCheck
