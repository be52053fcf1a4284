import FlowCheck.Proofs.Catalog.Lookup
import FlowCheck.Proofs.Catalog.OtherSource

/-!
# New sources

The first phase of the checks has no error about a step that refers to an operation exactly if the
operation is found (`checkTarget_eq_ok_none_iff`). A new source takes away no operation, so that it
makes no step fail that did not fail before (`failingSteps_add_of_notMem`). Which source an
operation id names, and what is found there, does not depend on the other sources
(`byId?_isolated`).
-/

namespace FlowCheck

open Result

variable {document : Document} {catalog : Catalog} {name : String} {cutoff : Cutoff}
  {place : Place} {step : Step} {value : Value}

/-- A value that has to be a text is one. -/
theorem Value.needText_eq_ok_iff {text : String} :
    value.needText = .ok text ↔ value = .str text := by
  cases value <;> simp [needText]

/-- The check of an operation id passes if it leads to an operation. -/
theorem checkOperationId_eq_ok_none_iff :
    checkOperationId catalog cutoff place value = .ok none ↔
      ∃ id, value = .str id ∧ (catalog.byId? id none).isSome := by
  rw [checkOperationId, bind_eq_ok_iff]
  refine exists_congr fun id => ?_
  rw [SuggestError.stop, mapError_eq_ok_iff, Value.needText_eq_ok_iff]
  refine and_congr_right fun _ => ?_
  split
  · next hfound => exact iff_of_true rfl hfound
  · next hfound => exact iff_of_false bind_pure_some_ne_ok_none hfound

/-- The check of an operation path passes if it leads to an operation. -/
theorem checkOperationPath_eq_ok_none_iff :
    checkOperationPath catalog cutoff place value = .ok none ↔
      ∃ text, value = .str text ∧
        ((splitPath? text).bind fun (method, path) => catalog.byPath? path method).isSome := by
  rw [checkOperationPath, bind_eq_ok_iff]
  refine exists_congr fun text => ?_
  rw [SuggestError.stop, mapError_eq_ok_iff, Value.needText_eq_ok_iff]
  refine and_congr_right fun _ => ?_
  dsimp only
  split
  · next hfound => exact iff_of_true rfl hfound
  · next hfound => exact iff_of_false bind_pure_some_ne_ok_none hfound

/-- The check of a step that refers to an operation passes if the operation is found. -/
theorem checkTarget_eq_ok_none_iff (h : ¬(step.operationId.isNull ∧ step.operationPath.isNull)) :
    checkTarget document catalog cutoff place step = .ok none ↔
      ∃ hit, catalog.operationOf step = .ok (some hit) := by
  cases hid : step.operationId.isNull with
  | false =>
    simp only [checkTarget, Catalog.operationOf, hid, Bool.not_false, if_true,
      checkOperationId_eq_ok_none_iff, bind_eq_ok_iff, Value.needText_eq_ok_iff, pure_eq_ok_iff,
      Option.isSome_iff_exists, ← exists_and_left]
    exact exists_comm
  | true =>
    have hpath : step.operationPath.isNull = false :=
      Bool.eq_false_iff.2 fun hpath => h ⟨hid, hpath⟩
    simp only [checkTarget, Catalog.operationOf, hid, hpath, Bool.not_true, Bool.not_false, if_true,
      Bool.false_eq_true, if_false, checkOperationPath_eq_ok_none_iff, bind_eq_ok_iff,
      Value.needText_eq_ok_iff, pure_eq_ok_iff, Option.isSome_iff_exists, ← exists_and_left]
    exact exists_comm

/-- The check of a step that passes still passes with a new source at the end. -/
theorem checkTarget_add_of_notMem (api : Api) (h : name ∉ catalog.names)
    (hpass : checkTarget document catalog cutoff place step = .ok none) :
    checkTarget document (catalog.add name api) cutoff place step = .ok none := by
  by_cases hnull : step.operationId.isNull ∧ step.operationPath.isNull
  · -- such a step refers to a workflow of the document, or to nothing
    rw [← hpass]
    simp only [checkTarget, hnull.1, hnull.2, Bool.not_true, Bool.false_eq_true, if_false]
  · rw [checkTarget_eq_ok_none_iff hnull] at hpass ⊢
    exact hpass.imp fun hit => Catalog.operationOf_add_of_notMem api h

/-- The steps about which the first phase has an error, or no answer. -/
def Document.failingSteps (document : Document) (catalog : Catalog) (cutoff : Cutoff) :
    List (Place × Step) :=
  document.placedSteps.filter fun entry =>
    (checkTarget document catalog cutoff entry.1 entry.2).toOption != some none

/-- A step is failing unless its check passes. -/
theorem toOption_bne_iff {check : TargetCheck} :
    (check.toOption != some none) = true ↔ check ≠ .ok none := by
  cases check <;> simp [Except.toOption]

/-- With a new source at the end, no other steps are failing. -/
theorem Document.failingSteps_add_of_notMem (document : Document) (api : Api)
    (h : name ∉ catalog.names) (cutoff : Cutoff) :
    (document.failingSteps (catalog.add name api) cutoff).Sublist
      (document.failingSteps catalog cutoff) := by
  refine List.monotone_filter_right _ fun entry => ?_
  rw [toOption_bne_iff, toOption_bne_iff]
  exact mt (checkTarget_add_of_notMem api h)

section Error

variable {error : ErrorFinding}

/-- An error about an operation id is at the place of the step. -/
theorem place_of_checkOperationId
    (h : checkOperationId catalog cutoff place value = .ok (some error)) : error.place = place := by
  obtain ⟨id, -, h⟩ := bind_eq_ok_iff.1 h
  split at h
  · cases h
  · obtain ⟨suggestion, -, herror⟩ := bind_eq_ok_iff.1 h
    cases herror
    rfl

/-- An error about an operation path is at the place of the step. -/
theorem place_of_checkOperationPath
    (h : checkOperationPath catalog cutoff place value = .ok (some error)) :
    error.place = place := by
  obtain ⟨text, -, h⟩ := bind_eq_ok_iff.1 h
  dsimp only at h
  split at h
  · cases h
  · obtain ⟨suggestion, -, herror⟩ := bind_eq_ok_iff.1 h
    cases herror
    rfl

/-- An error about the id of a workflow is at the place of the step. -/
theorem place_of_checkWorkflowId
    (h : checkWorkflowId document cutoff place value = .ok (some error)) : error.place = place := by
  rw [checkWorkflowId] at h
  split at h
  · cases h
  · obtain ⟨shown, -, h⟩ := bind_eq_ok_iff.1 h
    obtain ⟨reference, -, h⟩ := bind_eq_ok_iff.1 h
    obtain ⟨suggestion, -, herror⟩ := bind_eq_ok_iff.1 h
    cases herror
    rfl

/-- An error about a step is at the place of the step. -/
theorem place_of_checkTarget
    (h : checkTarget document catalog cutoff place step = .ok (some error)) :
    error.place = place := by
  rw [checkTarget] at h
  split at h
  · exact place_of_checkOperationId h
  · split at h
    · exact place_of_checkOperationPath h
    · split at h
      · exact place_of_checkWorkflowId h
      · cases h

end Error

/-- The errors of the first phase are at the places of the failing steps. -/
theorem places_checkTargets {findings : Findings}
    (h : checkTargets document catalog cutoff = .ok findings) :
    findings.errors.map (·.place) = (document.failingSteps catalog cutoff).map Prod.fst := by
  obtain ⟨found, hfound, hfindings⟩ := bind_eq_ok_iff.1 h
  rw [mapM_eq_ok_iff] at hfound
  rw [← pure_eq_ok_iff.1 hfindings, Document.failingSteps]
  clear h hfindings
  generalize document.placedSteps = entries at hfound ⊢
  induction hfound with
  | nil => rfl
  | @cons entry error? entries found hfirst _ ih =>
    have hcheck : checkTarget document catalog cutoff entry.1 entry.2 = .ok error? := hfirst
    rw [List.filter_cons, hcheck]
    cases error? with
    | none => exact ih
    | some error => exact congrArg₂ List.cons (place_of_checkTarget hcheck) ih

namespace Catalog

/-- An operation id that names its source is looked up there under its bare id, what is found is of
that source, and no other source that is added, replaced or left out changes it. A new source at the
end changes nothing that is found by an id or by a path. So the steps that fail in the first phase
with the new source failed without it, and its errors are about steps about which there were errors
before. -/
theorem byId?_isolated (catalog : Catalog) :
    (∀ id source bare, splitId id = (some source, bare) →
      catalog.byId? id none = catalog.byId? bare (some source) ∧
      (∀ hit, catalog.byId? id none = some hit → hit.source = source) ∧
      ∀ name, name ≠ source →
        (∀ api, (catalog.add name api).byId? id none = catalog.byId? id none) ∧
          (catalog.without name).byId? id none = catalog.byId? id none) ∧
    ∀ name api, name ∉ catalog.names →
      (∀ id hit, catalog.byId? id none = some hit →
        (catalog.add name api).byId? id none = some hit) ∧
      (∀ path method hit, catalog.byPath? path method = some hit →
        (catalog.add name api).byPath? path method = some hit) ∧
      ∀ document cutoff,
        (document.failingSteps (catalog.add name api) cutoff).Sublist
          (document.failingSteps catalog cutoff) ∧
        ∀ before after, checkTargets document catalog cutoff = .ok before →
          checkTargets document (catalog.add name api) cutoff = .ok after →
            (after.errors.map (·.place)).Sublist (before.errors.map (·.place)) := by
  constructor
  · intro id source bare hsplit
    refine ⟨byId?_of_splitId catalog hsplit, fun hit hhit => ?_,
      fun other hother => ⟨fun api => ?_, ?_⟩⟩
    · rw [byId?_of_splitId catalog hsplit] at hhit
      exact source_of_byId? hhit
    · exact byId?_congr hsplit (searched_add_of_ne catalog api hother)
    · exact byId?_congr hsplit (searched_without_of_ne catalog hother)
  · intro name api hnew
    have hsteps (document : Document) (cutoff : Cutoff) :=
      document.failingSteps_add_of_notMem api hnew cutoff
    refine ⟨fun id hit => byId?_add_of_notMem api hnew,
      fun path method hit => byPath?_add_of_notMem api hnew,
      fun document cutoff => ⟨hsteps document cutoff, fun before after hbefore hafter => ?_⟩⟩
    -- each failing step of the first phase is the place of one error
    rw [places_checkTargets hbefore, places_checkTargets hafter]
    exact (hsteps document cutoff).map Prod.fst

/-- Two sources declare the same id. The operation that is found in the one stays the same when the
other is replaced or left out, and when a third one is added. -/
theorem byId?_isolated_pets :
    ∃ named unnamed, Api.read (petsApi [(.str "operationId", .str "listPets")]) = .ok named ∧
      Api.read (petsApi []) = .ok unnamed ∧
      let catalog := (empty.add "own" named).add "others" named
      let id := "$sourceDescriptions.others.listPets"
      splitId id = (some "others", "listPets") ∧ "third" ∉ catalog.names ∧
        ∃ hit, catalog.byId? id none = some hit ∧ hit.source = "others" ∧
          (catalog.add "own" unnamed).byId? id none = some hit ∧
          (catalog.without "own").byId? id none = some hit ∧
          (catalog.add "third" named).byId? id none = some hit := by
  refine ⟨_, _, rfl, rfl, ?_⟩
  intro catalog id
  have hsplit : splitId id = (some "others", "listPets") := by decide
  have hnew : "third" ∉ catalog.names := by decide
  have hhit : catalog.byId? id none = some _ := (byId?_of_splitId catalog hsplit).trans rfl
  obtain ⟨hisolated, hstable⟩ := byId?_isolated catalog
  obtain ⟨-, hsource, hother⟩ := hisolated id "others" "listPets" hsplit
  obtain ⟨hreplaced, hwithout⟩ := hother "own" (by decide)
  exact ⟨hsplit, hnew, _, hhit, hsource _ hhit, (hreplaced _).trans hhit, hwithout.trans hhit,
    (hstable "third" _ hnew).1 id _ hhit⟩

end Catalog

end FlowCheck
