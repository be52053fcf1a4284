import FlowCheck.Consistency.Finding
import Mathlib.Data.List.Nodup

/-!
# Findings at places

Every finding of the checks names the step that it is about. `Report.Within` says where all findings
of a report are, and `Report.about` takes those about one place out of it. In a report that is put
together part by part, one part has all findings about its place (`about_concat_map`).
-/

namespace FlowCheck.Report

/-- All findings are about places with a property. -/
structure Within (findings : Findings) (P : Place → Prop) : Prop where
  errors : ∀ error ∈ findings.errors, P error.place
  warnings : ∀ warning ∈ findings.warnings, P warning.place

/-- The findings about a place. -/
def about (findings : Findings) (place : Place) : Findings :=
  ⟨findings.errors.filter (·.place == place), findings.warnings.filter (·.place == place)⟩

variable {first second findings : Findings} {P Q : Place → Prop} {place : Place}

/-- A report without findings is within every property. -/
theorem within_empty : Within empty P :=
  ⟨fun _ h => absurd h List.not_mem_nil, fun _ h => absurd h List.not_mem_nil⟩

/-- Findings within a property are within every weaker one. -/
theorem Within.imp (h : findings.Within P) (himp : ∀ place, P place → Q place) :
    findings.Within Q :=
  ⟨fun error herror => himp _ (h.errors error herror),
    fun warning hwarning => himp _ (h.warnings warning hwarning)⟩

/-- Findings after others are within what both are within. -/
theorem Within.append (hfirst : first.Within P) (hsecond : second.Within P) :
    (first.append second).Within P :=
  ⟨List.forall_mem_append.2 ⟨hfirst.errors, hsecond.errors⟩,
    List.forall_mem_append.2 ⟨hfirst.warnings, hsecond.warnings⟩⟩

/-- Findings one after the other are within what all of them are within. -/
theorem within_concat {reports : List Findings} (h : ∀ report ∈ reports, report.Within P) :
    (concat reports).Within P := by
  constructor
  · rw [errors_concat]
    intro error herror
    obtain ⟨report, hreport, hmem⟩ := List.mem_flatMap.1 herror
    exact (h report hreport).errors error hmem
  · rw [warnings_concat]
    intro warning hwarning
    obtain ⟨report, hreport, hmem⟩ := List.mem_flatMap.1 hwarning
    exact (h report hreport).warnings warning hmem

/-- Reports one after the other are empty exactly if each of them is. -/
theorem concat_eq_empty_iff {reports : List Findings} :
    concat reports = empty ↔ ∀ report ∈ reports, report = empty := by
  have hempty (report : Findings) :
      report = empty ↔ report.errors = [] ∧ report.warnings = [] :=
    ⟨fun h => h ▸ ⟨rfl, rfl⟩, fun h => eq_of_findings_eq h.1 h.2⟩
  simp only [hempty, errors_concat, warnings_concat, List.flatMap_eq_nil_iff, ← forall₂_and]

/-- What is about a place in findings one after the other. -/
theorem about_append (first second : Findings) (place : Place) :
    (first.append second).about place = (first.about place).append (second.about place) := by
  simp [about, Report.append]

/-- What is about a place in reports one after the other. -/
theorem about_concat (reports : List Findings) (place : Place) :
    (concat reports).about place = concat (reports.map (·.about place)) :=
  eq_of_findings_eq (by simp [about, List.filter_flatMap, List.flatMap_map])
    (by simp [about, List.filter_flatMap, List.flatMap_map])

/-- Findings about other places have none about this one. -/
theorem Within.about_eq_empty (h : findings.Within (· ≠ place)) : findings.about place = empty := by
  rw [about, List.filter_eq_nil_iff.2 fun error herror => by simpa using h.errors error herror,
    List.filter_eq_nil_iff.2 fun warning hwarning => by simpa using h.warnings warning hwarning]
  rfl

/-- Findings about one place are all about it. -/
theorem Within.about_eq_self (h : findings.Within (· = place)) :
    findings.about place = findings := by
  rw [about, List.filter_eq_self.2 fun error herror => by simpa using h.errors error herror,
    List.filter_eq_self.2 fun warning hwarning => by simpa using h.warnings warning hwarning]

/-- If only the part for `x` has findings about a place, these are all that there are. -/
theorem about_concat_map {α κ : Type} {xs : List α} {key : α → κ} {part : α → Findings} {x : α}
    (hnodup : (xs.map key).Nodup) (hx : x ∈ xs)
    (hother : ∀ y ∈ xs, key y ≠ key x → (part y).Within (· ≠ place)) :
    (concat (xs.map part)).about place = (part x).about place := by
  induction xs with
  | nil => cases hx
  | cons y ys ih =>
    rw [List.map_cons, List.nodup_cons] at hnodup
    rw [List.map_cons, concat_cons, about_append]
    rcases List.mem_cons.1 hx with rfl | hmem
    · -- no part after the one for `x` is about the place
      have hrest : (concat (ys.map part)).Within (· ≠ place) := by
        refine within_concat fun report hreport => ?_
        obtain ⟨y, hy, rfl⟩ := List.mem_map.1 hreport
        refine hother y (List.mem_cons_of_mem _ hy) fun hkey => ?_
        exact hnodup.1 (hkey ▸ List.mem_map_of_mem hy)
      rw [hrest.about_eq_empty, append_empty]
    · -- the first part is not the one for `x` and has nothing about the place
      have hfirst : (part y).Within (· ≠ place) := by
        refine hother y List.mem_cons_self fun hkey => ?_
        exact hnodup.1 (hkey ▸ List.mem_map_of_mem hmem)
      rw [hfirst.about_eq_empty, empty_append]
      exact ih hnodup.2 hmem fun y hy => hother y (List.mem_cons_of_mem _ hy)

end FlowCheck.Report
