import FlowCheck.Proofs.Consistency.Phases
import FlowCheck.Proofs.Consistency.Suggestion

/-!
# When the checks fail

Findings never stop the checks of an accepted document, but the search for similar names can. API
descriptions may give their operations ids of any type, and an operation id that is not found is
compared with all of them. The checks fail exactly if one of these is not a name
(`exists_checkConsistency_iff`).
-/

namespace FlowCheck

open Result

variable {value : Value} {document : Document} {catalog : Catalog} {cutoff : Cutoff}
  {place : Place} {step : Step} {target : Target}

/-- A source that is not there gives no operation ids. -/
theorem Catalog.operationIds_eq_nil {source : String} (h : (catalog.api? source).isNone = true) :
    catalog.operationIds (some source) = [] := by
  have hsearched : catalog.searched (some source) = [] := by
    refine List.filter_eq_nil_iff.2 fun entry hentry => ?_
    have hne := List.lookup_eq_none_iff.1 (Option.isNone_iff_eq_none.1 h) entry hentry
    rw [bne_iff_ne] at hne
    simpa using hne.symm
  rw [operationIds, hsearched, List.flatMap_nil]

/-- What a reference is compared with are names, apart from operation ids that are not. -/
theorem isName_candidates_iff :
    (∀ candidate ∈ target.candidates document catalog, candidate.IsName) ↔
      ∀ id, target = .operationId id →
        ∀ given ∈ catalog.operationIds (splitId id).1, given.IsName := by
  have hnames (texts : List String) : ∀ candidate ∈ texts.map Value.str, candidate.IsName :=
    List.forall_mem_map.2 fun text _ => Value.isName_str text
  cases target with
  | operationId id =>
    simp only [Target.operationId.injEq, forall_eq', Target.candidates, unknownOperation]
    split
    · next source bare hsplit =>
      rw [hsplit]
      split
      · next hnone =>
        -- the names of the sources are compared with the name of one that is not there
        rw [Catalog.operationIds_eq_nil hnone]
        exact iff_of_true (hnames _) fun _ h => absurd h List.not_mem_nil
      · rfl
    · next bare hsplit => rw [hsplit]
  | operationPath text => exact iff_of_true (hnames _) fun _ h => nomatch h
  | workflowId id =>
    refine iff_of_true (List.forall_mem_map.2 fun workflow _ => ?_) fun _ h => nomatch h
    exact Value.isName_str workflow.id

/-- A reference can be checked if it leads somewhere or is compared with names only. -/
theorem exists_checkTarget_iff (htarget : step.target? = some target)
    (hcutoff : cutoff.isValid = true) :
    (∃ error?, checkTarget document catalog cutoff place step = .ok error?) ↔
      (target.resolves document catalog = false →
        ∀ candidate ∈ target.candidates document catalog, candidate.IsName) := by
  simp only [checkTarget_eq_ok_iff htarget]
  rw [← exists_suggest_eq_ok_iff hcutoff (target.reference catalog)]
  cases target.resolves document catalog with
  | true => simp
  | false =>
    simp only [Bool.false_eq_true, if_false, true_imp_iff]
    constructor
    · rintro ⟨_, suggestion, hsuggestion, -⟩
      exact ⟨suggestion, hsuggestion⟩
    · rintro ⟨suggestion, hsuggestion⟩
      exact ⟨_, suggestion, hsuggestion, rfl⟩

/-- The reference of a step can be checked unless it is an operation id that is not found and is
compared with something that is not a name. -/
theorem Step.Valid.exists_checkTarget_iff (hstep : step.Valid) (hcutoff : cutoff.isValid = true) :
    (∃ error?, checkTarget document catalog cutoff place step = .ok error?) ↔
      ∀ id, step.operationId = .str id → catalog.byId? id none = none →
        ∀ given ∈ catalog.operationIds (splitId id).1, given.IsName := by
  obtain ⟨target, htarget⟩ := hstep.exists_target
  rw [FlowCheck.exists_checkTarget_iff htarget hcutoff, isName_candidates_iff]
  -- only an operation id can be compared with something that is not a name
  obtain ⟨id, rfl, hid, -, -⟩ | ⟨text, rfl, hid, -, -⟩ | ⟨id, rfl, hid, -, -⟩ :=
    Step.fields_of_target? htarget
  · simp only [hid, Target.resolves, Target.hit?, Option.isSome_eq_false_iff,
      Option.isNone_iff_eq_none, Target.operationId.injEq, Value.str.injEq, forall_eq']
  · simp [hid]
  · simp [hid]

/-- The first phase comes to an end when every reference can be checked. -/
theorem exists_checkTargets_iff :
    (∃ targets, checkTargets document catalog cutoff = .ok targets) ↔
      ∀ entry ∈ document.placedSteps,
        ∃ error?, checkTarget document catalog cutoff entry.1 entry.2 = .ok error? := by
  rw [← exists_mapM_eq_ok_iff]
  simp only [checkTargets, bind_eq_ok_iff, pure_eq_ok_iff]
  constructor
  · rintro ⟨_, found, hfound, -⟩
    exact ⟨found, hfound⟩
  · rintro ⟨found, hfound⟩
    exact ⟨_, found, hfound, rfl⟩

/-- The checks of an accepted document come to an end when the first phase does. -/
theorem exists_checkConsistency_iff_checkTargets (hvalid : document.Valid) :
    (∃ verdict, checkConsistency document catalog cutoff = .ok verdict) ↔
      ∃ targets, checkTargets document catalog cutoff = .ok targets := by
  simp only [checkConsistency_eq_ok_iff hvalid]
  constructor
  · rintro ⟨_, targets, htargets, -⟩
    exact ⟨targets, htargets⟩
  · rintro ⟨targets, htargets⟩
    obtain ⟨parameters, hparameters⟩ := exists_checkParameters hvalid catalog
    by_cases hresolved : document.unresolvedSteps catalog = []
    · exact ⟨_, targets, htargets, (if_pos hresolved).mpr ⟨parameters, hparameters, rfl⟩⟩
    · exact ⟨_, targets, htargets, (if_neg hresolved).mpr rfl⟩

/-- The checks of an accepted document come to an end exactly if every operation id that a step
gives and that is not found is compared with names only. -/
theorem exists_checkConsistency_iff (hread : Document.read value = .ok document)
    (hcutoff : cutoff.isValid = true) :
    (∃ verdict, checkConsistency document catalog cutoff = .ok verdict) ↔
      ∀ workflow ∈ document.workflows, ∀ step ∈ workflow.steps, ∀ id,
        step.operationId = .str id → catalog.byId? id none = none →
          ∀ given ∈ catalog.operationIds (splitId id).1, given.IsName := by
  have hvalid := (Document.read_eq_ok_iff.1 hread).2
  rw [exists_checkConsistency_iff_checkTargets hvalid, exists_checkTargets_iff]
  constructor
  · intro h workflow hworkflow step hstep
    have hentry : (workflow.placeOf step, step) ∈ document.placedSteps :=
      Document.mem_placedSteps.2 ⟨workflow, hworkflow, step, hstep, rfl⟩
    exact ((hvalid.of_mem_placedSteps hentry).exists_checkTarget_iff hcutoff).1 (h _ hentry)
  · intro h entry hentry
    have hstep := hvalid.of_mem_placedSteps hentry
    obtain ⟨workflow, hworkflow, step, hmem, rfl⟩ := Document.mem_placedSteps.1 hentry
    exact (hstep.exists_checkTarget_iff hcutoff).2 (h workflow hworkflow step hmem)

/-- The value of a document with one step, which calls an operation by an id. -/
def callDocument (id : String) : Value :=
  let step : Value := .map [(.str "stepId", .str "call"), (.str "operationId", .str id)]
  let workflow : Value := .map [(.str "workflowId", .str "calls"), (.str "steps", .list [step])]
  .map [(.str "arazzo", .str "1.0.0"),
    (.str "info", .map [(.str "title", .str "Calls"), (.str "version", .str "1")]),
    (.str "workflows", .list [workflow])]

/-- The value of an API description with one operation, whose id is any value. -/
def usersApi (id : Value) : Value :=
  .map [(.str "openapi", .str "3.0.3"),
    (.str "info", .map [(.str "title", .str "Users"), (.str "version", .str "1")]),
    (.str "paths", .map [(.str "/users", .map [(.str "get", .map [(.str "operationId", id)])])])]

/-- A step whose operation id is not found is reported where the API has a text for an id. -/
theorem exists_checkConsistency_users :
    ∃ document api, Document.read (callDocument "getUser") = .ok document ∧
      Api.read (usersApi (.str "getUsers")) = .ok api ∧ Cutoff.standard.isValid = true ∧
      ∃ verdict,
        checkConsistency document (Catalog.empty.add "users" api) .standard = .ok verdict := by
  have hcutoff : Cutoff.standard.isValid = true := by decide +kernel
  have hread : Document.read (callDocument "getUser") = .ok _ := rfl
  refine ⟨_, _, hread, rfl, hcutoff, (exists_checkConsistency_iff hread hcutoff).2 ?_⟩
  intro workflow hworkflow step hstep id hid _ given hgiven
  obtain rfl := List.mem_singleton.1 hworkflow
  obtain rfl := List.mem_singleton.1 hstep
  obtain rfl := Value.str.inj hid
  obtain rfl := List.mem_singleton.1 hgiven
  exact Value.isName_str "getUsers"

/-- Where the API has an integer for an id, the same step makes the checks fail. -/
theorem checkConsistency_users_eq_error :
    ∃ document api, Document.read (callDocument "getUser") = .ok document ∧
      Api.read (usersApi (.int 7)) = .ok api ∧ (Cutoff.whole 1).isValid = true ∧
      checkConsistency document (Catalog.empty.add "users" api) (.whole 1) =
        .error (.fault .noLength) :=
  ⟨_, _, rfl, rfl, rfl, rfl⟩

end FlowCheck
