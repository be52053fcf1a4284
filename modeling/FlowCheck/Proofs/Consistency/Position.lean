import FlowCheck.Consistency.DataFlow
import Mathlib.Data.List.Nodup

/-!
# The place of a step among the steps

The checks of the data look up the last step with an id. Where no two steps have one id, the place
that they find is the one at which the step stands.
-/

namespace FlowCheck.Workflow

variable {workflow : Workflow} {id : String} {step : Step} {i : ℕ}

/-- The steps after the first `i` stand at the places from `i` on. -/
theorem mem_drop_steps :
    step ∈ workflow.steps.drop i ↔ ∃ j, i ≤ j ∧ workflow.steps[j]? = some step := by
  simp only [List.mem_iff_getElem?, List.getElem?_drop]
  constructor
  · rintro ⟨k, hstep⟩
    exact ⟨i + k, Nat.le_add_right i k, hstep⟩
  · rintro ⟨j, hle, hstep⟩
    exact ⟨j - i, by rwa [Nat.add_sub_cancel' hle]⟩

/-- The step at the place of an id has that id. -/
theorem id_of_position?_eq_some (h : workflow.position? id = some i) :
    (workflow.steps[i]?).map (·.id) = some id := by
  obtain ⟨⟨step, k⟩, hfind, rfl⟩ := Option.map_eq_some_iff.1 h
  have hmem := List.mem_of_find?_eq_some hfind
  have hid := List.find?_some hfind
  rw [List.mem_reverse, List.mk_mem_zipIdx_iff_getElem?] at hmem
  simpa [hmem] using hid

/-- The place of an id is the place of a step. -/
theorem lt_length_of_position?_eq_some (h : workflow.position? id = some i) :
    i < workflow.steps.length := by
  obtain ⟨step, hstep, -⟩ := Option.map_eq_some_iff.1 (id_of_position?_eq_some h)
  exact (List.getElem?_eq_some_iff.1 hstep).1

/-- An id has no place when no step has it. -/
theorem position?_eq_none_iff :
    workflow.position? id = none ↔ ∀ step ∈ workflow.steps, step.id ≠ id := by
  rw [position?, Option.map_eq_none_iff, List.find?_eq_none]
  constructor
  · intro h step hstep heq
    obtain ⟨i, hi⟩ := List.getElem?_of_mem hstep
    refine h (step, i) ?_ (beq_iff_eq.2 heq)
    rw [List.mem_reverse]
    exact List.mk_mem_zipIdx_iff_getElem?.2 hi
  · intro h ⟨step, i⟩ hmem
    rw [List.mem_reverse, List.mk_mem_zipIdx_iff_getElem?] at hmem
    simpa using h step (List.mem_of_getElem? hmem)

section Nodup

variable (hnodup : (workflow.steps.map (·.id)).Nodup)
include hnodup

/-- Where no two steps have one id, a step stands at the place of its id. -/
theorem position?_eq_some_iff :
    workflow.position? id = some i ↔ ∃ step, workflow.steps[i]? = some step ∧ step.id = id := by
  constructor
  · intro h
    exact Option.map_eq_some_iff.1 (id_of_position?_eq_some h)
  · rintro ⟨step, hstep, rfl⟩
    cases h : workflow.position? step.id with
    | none => exact absurd rfl (position?_eq_none_iff.1 h step (List.mem_of_getElem? hstep))
    | some j =>
      have hi : (workflow.steps.map (·.id))[i]? = some step.id := by simp [hstep]
      have hj : (workflow.steps.map (·.id))[j]? = some step.id := by
        rw [List.getElem?_map]
        exact id_of_position?_eq_some h
      -- one id stands at one place only
      have hlt := (List.getElem?_eq_some_iff.1 hi).1
      rw [(List.getElem?_inj hlt hnodup).1 (hi.trans hj.symm)]

/-- An id has a place before `i` when one of the first `i` steps has it. -/
theorem exists_mem_take_iff :
    (∃ step ∈ workflow.steps.take i, step.id = id) ↔
      ∃ j, workflow.position? id = some j ∧ j < i := by
  simp only [position?_eq_some_iff hnodup, List.mem_iff_getElem?, List.getElem?_take]
  constructor
  · rintro ⟨step, ⟨j, hstep⟩, hid⟩
    split at hstep
    · next hlt => exact ⟨j, ⟨step, hstep, hid⟩, hlt⟩
    · cases hstep
  · rintro ⟨j, ⟨step, hstep, hid⟩, hlt⟩
    exact ⟨step, ⟨j, by rwa [if_pos hlt]⟩, hid⟩

/-- An id has a place from `i` on when one of the steps after the first `i` has it. -/
theorem exists_mem_drop_iff :
    (∃ step ∈ workflow.steps.drop i, step.id = id) ↔
      ∃ j, workflow.position? id = some j ∧ i ≤ j := by
  simp only [position?_eq_some_iff hnodup, mem_drop_steps]
  constructor
  · rintro ⟨step, ⟨j, hle, hstep⟩, hid⟩
    exact ⟨j, ⟨step, hstep, hid⟩, hle⟩
  · rintro ⟨j, ⟨step, hstep, hid⟩, hle⟩
    exact ⟨step, ⟨j, hle, hstep⟩, hid⟩

end Nodup

end FlowCheck.Workflow
