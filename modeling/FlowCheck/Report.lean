/-!
# Reports and verdicts

What a check found: errors and warnings, each in the order in which they were found. A verdict is a
report that also tells whether what was checked is valid. Only errors make it invalid, and every
operation on a verdict keeps it so.
-/

namespace FlowCheck

/-- What a check found: errors, and warnings beside them. -/
structure Report (ε ω : Type) where
  /-- The errors in the order in which they were found. -/
  errors : List ε
  /-- The warnings in the order in which they were found. -/
  warnings : List ω
deriving Inhabited

namespace Report

variable {ε ω : Type}

/-- The report without errors and warnings. -/
def empty : Report ε ω := ⟨[], []⟩

/-- Puts the findings of another report after those of the first. -/
def append (first second : Report ε ω) : Report ε ω :=
  ⟨first.errors ++ second.errors, first.warnings ++ second.warnings⟩

/-- The findings of reports one after the other. -/
def concat (reports : List (Report ε ω)) : Report ε ω :=
  reports.foldl append empty

/-- The errors of reports one after the other. -/
@[simp]
theorem errors_concat (reports : List (Report ε ω)) :
    (concat reports).errors = reports.flatMap (·.errors) := by
  have hfold (start : Report ε ω) :
      (reports.foldl append start).errors = start.errors ++ reports.flatMap (·.errors) := by
    induction reports generalizing start with
    | nil => simp
    | cons first rest ih => simp [ih, append]
  simpa [concat, empty] using hfold empty

/-- The warnings of reports one after the other. -/
@[simp]
theorem warnings_concat (reports : List (Report ε ω)) :
    (concat reports).warnings = reports.flatMap (·.warnings) := by
  have hfold (start : Report ε ω) :
      (reports.foldl append start).warnings = start.warnings ++ reports.flatMap (·.warnings) := by
    induction reports generalizing start with
    | nil => simp
    | cons first rest ih => simp [ih, append]
  simpa [concat, empty] using hfold empty

/-- Reports with the same errors and the same warnings are equal. -/
theorem eq_of_findings_eq {first second : Report ε ω} (herrors : first.errors = second.errors)
    (hwarnings : first.warnings = second.warnings) : first = second := by
  cases first
  cases second
  rw [mk.injEq]
  exact ⟨herrors, hwarnings⟩

/-- The first report comes before the others. -/
theorem concat_cons (first : Report ε ω) (rest : List (Report ε ω)) :
    concat (first :: rest) = first.append (concat rest) :=
  eq_of_findings_eq (by simp [append]) (by simp [append])

/-- Reports that are made part by part follow one another in the order of the parts. -/
theorem concat_flatMap {α : Type} (f : α → List (Report ε ω)) (xs : List α) :
    concat (xs.flatMap f) = concat (xs.map fun x => concat (f x)) :=
  eq_of_findings_eq (by simp [List.flatMap_map, List.flatMap_assoc])
    (by simp [List.flatMap_map, List.flatMap_assoc])

/-- Three reports one after the other. -/
theorem append_assoc (first second third : Report ε ω) :
    (first.append second).append third = first.append (second.append third) :=
  eq_of_findings_eq (by simp [append]) (by simp [append])

/-- The empty report after another adds nothing. -/
theorem append_empty (report : Report ε ω) : report.append empty = report :=
  eq_of_findings_eq (by simp [append, empty]) (by simp [append, empty])

/-- The empty report before another adds nothing. -/
theorem empty_append (report : Report ε ω) : empty.append report = report :=
  eq_of_findings_eq (by simp [append, empty]) (by simp [append, empty])

end Report

/-- What a check says in the end: what it found, and whether what was checked is valid. -/
structure Verdict (ε ω : Type) extends Report ε ω where
  /-- Whether it is valid. -/
  isValid : Bool
  /-- It is valid when there is no error. -/
  isValid_iff : isValid = true ↔ errors = []

namespace Verdict

variable {ε ω : Type}

/-- The verdict before anything is found. -/
def empty : Verdict ε ω where
  toReport := .empty
  isValid := true
  isValid_iff := ⟨fun _ => rfl, fun _ => rfl⟩

/-- Adds an error, which makes the verdict invalid. -/
def addError (verdict : Verdict ε ω) (error : ε) : Verdict ε ω where
  errors := verdict.errors ++ [error]
  warnings := verdict.warnings
  isValid := false
  isValid_iff := by simp

/-- Adds a warning. -/
def addWarning (verdict : Verdict ε ω) (warning : ω) : Verdict ε ω where
  errors := verdict.errors
  warnings := verdict.warnings ++ [warning]
  isValid := verdict.isValid
  isValid_iff := verdict.isValid_iff

/-- Adds all that a report has found. All errors together tell whether the verdict is valid. -/
def extend (verdict : Verdict ε ω) (report : Report ε ω) : Verdict ε ω where
  toReport := verdict.toReport.append report
  isValid := (verdict.toReport.append report).errors.isEmpty
  isValid_iff := List.isEmpty_iff

/-- A verdict on a graph in one sentence. -/
def graphSummary (verdict : Verdict ε ω) : String :=
  if !verdict.isValid then s!"Graph is invalid with {verdict.errors.length} errors"
  else if verdict.warnings.isEmpty then "Graph is valid with no warnings"
  else s!"Graph is valid with {verdict.warnings.length} warnings"

/-- A verdict with an error is invalid. -/
theorem isValid_eq_false_iff {verdict : Verdict ε ω} :
    verdict.isValid = false ↔ verdict.errors ≠ [] := by
  rw [← Bool.not_eq_true, verdict.isValid_iff]

/-- What was found tells whether a verdict is valid. -/
theorem eq_of_toReport_eq {first second : Verdict ε ω} (h : first.toReport = second.toReport) :
    first = second := by
  have hvalid : first.isValid = second.isValid := by
    rw [Bool.eq_iff_iff, first.isValid_iff, second.isValid_iff, h]
  cases first
  cases second
  congr

/-- Before anything is found, a verdict has exactly the findings of the first report. -/
theorem toReport_empty_extend (report : Report ε ω) :
    (empty.extend report).toReport = report :=
  Report.empty_append report

/-- Reports can be added one by one or all at once. -/
theorem extend_extend (verdict : Verdict ε ω) (first second : Report ε ω) :
    (verdict.extend first).extend second = verdict.extend (first.append second) :=
  eq_of_toReport_eq (Report.append_assoc _ _ _)

end Verdict

end FlowCheck
