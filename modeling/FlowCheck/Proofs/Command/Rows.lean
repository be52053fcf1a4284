import FlowCheck.Command.Validation
import FlowCheck.Proofs.Consistency.Location
import FlowCheck.Proofs.Graph.Agreement
import FlowCheck.Proofs.Result
import Mathlib.Algebra.Ring.Nat

/-!
# The numbers of rows

How many errors and how many warnings a validation has, told from what it found and not from its
rows. The errors about a graph are those of its verdict. The warnings are that steps are not
reachable and that there are several ends; the order of the steps is a note, so it is no warning.
-/

namespace FlowCheck

open Result

/-- The number of warnings about a graph: one if there are steps that nothing leads to, and one if
there are several steps that nothing follows. -/
def FlowGraph.warningCount (graph : FlowGraph) : ℕ :=
  (if graph.unreachable = [] then 0 else 1) + if graph.deadEnds.length > 1 then 1 else 0

namespace Command.Validation

/-- The numbers of errors and warnings of a validation. -/
structure Counts (validation : Validation) (errors warnings : ℕ) : Prop where
  /-- The number of errors. -/
  errors : validation.errorCount = errors
  /-- The number of warnings. -/
  warnings : validation.warningCount = warnings

variable {first second start : Validation} {errors warnings moreErrors moreWarnings : ℕ}

/-- There are not more errors than rows. -/
theorem errorCount_le (validation : Validation) : validation.errorCount ≤ validation.rows.length :=
  List.length_filter_le _ _

/-- There is no row when there is neither an error nor a warning. -/
theorem Counts.rows_eq_nil_iff (h : first.Counts errors warnings) :
    first.rows = [] ↔ errors = 0 ∧ warnings = 0 := by
  rw [← h.errors, ← h.warnings, warningCount, ← List.length_eq_zero_iff]
  have := errorCount_le first
  omega

/-- Rows that are errors, and then rows that are warnings. -/
theorem counts_of_severity {failures others : List Row} (notes : List String)
    (hfailures : ∀ row ∈ failures, row.severity = .error)
    (hothers : ∀ row ∈ others, row.severity = .warning) :
    Counts ⟨failures ++ others, notes⟩ failures.length others.length := by
  have hcount : errorCount ⟨failures ++ others, notes⟩ = failures.length := by
    rw [errorCount, List.filter_append, List.filter_eq_self.2 (by simpa using hfailures),
      List.filter_eq_nil_iff.2 (fun row hrow => by simp [hothers row hrow]), List.append_nil]
  exact ⟨hcount, by simp [warningCount, hcount]⟩

/-- The numbers of two validations add up. -/
theorem Counts.append (hfirst : first.Counts errors warnings)
    (hsecond : second.Counts moreErrors moreWarnings) :
    (first.append second).Counts (errors + moreErrors) (warnings + moreWarnings) := by
  have hcount : (first.append second).errorCount = first.errorCount + second.errorCount := by
    rw [errorCount, Validation.append, List.filter_append, List.length_append]
    rfl
  have hrows : (first.append second).rows.length = first.rows.length + second.rows.length :=
    List.length_append
  refine ⟨by rw [hcount, hfirst.errors, hsecond.errors], ?_⟩
  -- the warnings are the rows that are left, so on each side the errors have to be rows
  rw [← hfirst.warnings, ← hsecond.warnings, warningCount, hcount, hrows, warningCount,
    warningCount]
  have := errorCount_le first
  have := errorCount_le second
  omega

/-- The numbers of many validations add up. -/
theorem Counts.foldl {α : Type} {part : α → Validation} {partErrors partWarnings : α → ℕ}
    (hstart : start.Counts errors warnings)
    (hpart : ∀ x, (part x).Counts (partErrors x) (partWarnings x)) (xs : List α) :
    ((xs.map part).foldl Validation.append start).Counts (errors + (xs.map partErrors).sum)
      (warnings + (xs.map partWarnings).sum) := by
  -- each part is added after those before it, so what they add up to is left general
  induction xs generalizing start errors warnings with
  | nil => exact hstart
  | cons x xs ih => simpa [Nat.add_assoc] using ih (hstart.append (hpart x))

/-- Sources that could not be loaded are warnings. -/
theorem counts_sourceRows (file : String) (failed : List SourceError) :
    Counts { rows := failed.map (sourceRow file) } 0 failed.length := by
  have hrows : ∀ row ∈ failed.map (sourceRow file), row.severity = .warning := by
    simp [sourceRow]
  simpa using counts_of_severity [] (List.forall_mem_nil _) hrows

/-- The findings about the consistency are errors and warnings. -/
theorem counts_findingRows (file : String) (findings : Findings) :
    Counts { rows := findingRows file findings } findings.errors.length
      findings.warnings.length := by
  have herrors : ∀ row ∈ findings.errors.map (errorRow file), row.severity = .error := by
    simp [errorRow]
  have hwarnings : ∀ row ∈ findings.warnings.map (warningRow file), row.severity = .warning := by
    simp [warningRow]
  simpa [findingRows] using counts_of_severity [] herrors hwarnings

/-- The warnings about a graph that are no notes. -/
theorem length_filter_noteOf (workflow : String) (graph : FlowGraph) :
    (graph.verdict.warnings.filter fun warning => (noteOf workflow warning).isNone).length =
      graph.warningCount := by
  -- where there is an order, it is the one warning that becomes a note
  by_cases hunreachable : graph.unreachable = [] <;>
    by_cases hends : graph.deadEnds.length > 1 <;>
    cases horder : graph.order <;>
    simp [FlowGraph.warnings_verdict, FlowGraph.warningCount, noteOf, hunreachable, hends, horder]

/-- The order of the steps of a graph is neither an error nor a warning. -/
theorem counts_ofGraph (file : String) (positions : Positions) (workflow : String)
    (graph : FlowGraph) :
    (ofGraph file positions workflow graph.verdict).Counts graph.verdict.errors.length
      graph.warningCount := by
  rw [← length_filter_noteOf workflow graph]
  have herrors : ∀ row ∈ graph.verdict.errors.map fun error =>
      graphRow file positions workflow error.message .error, row.severity = .error := by
    simp [graphRow]
  have hwarnings : ∀ row ∈ (graph.verdict.warnings.filter fun warning =>
      (noteOf workflow warning).isNone).map fun warning =>
        graphRow file positions workflow warning.message .warning, row.severity = .warning := by
    intro row hrow
    obtain ⟨warning, -, rfl⟩ := List.mem_map.1 hrow
    rfl
  simpa only [ofGraph, List.length_map] using counts_of_severity _ herrors hwarnings

/-- The graphs of the workflows of a document. -/
def graphsOf (document : Document) (catalog : Catalog) (options : FlowGraph.Options) :
    List FlowGraph :=
  document.workflows.map fun workflow =>
    FlowGraph.ofWorkflow workflow (interfaceOf catalog) options

/-- What is found about the graphs are the errors of their verdicts and the warnings about them. -/
theorem counts_ofGraphs (file : String) (positions : Positions) (document : Document)
    (catalog : Catalog) (options : FlowGraph.Options) :
    (ofGraphs file positions document catalog options).Counts
      ((graphsOf document catalog options).map fun graph => graph.verdict.errors.length).sum
      ((graphsOf document catalog options).map FlowGraph.warningCount).sum := by
  have hempty : Counts ⟨[], []⟩ 0 0 := ⟨rfl, rfl⟩
  have hparts := hempty.foldl (fun workflow : Workflow => counts_ofGraph file positions workflow.id
    (FlowGraph.ofWorkflow workflow (interfaceOf catalog) options)) document.workflows
  simpa only [ofGraphs, graphsOf, List.map_map, Function.comp_def, Nat.zero_add] using hparts

/-- What is found about a document are the findings about the consistency and those about the
graphs. -/
theorem counts_ofDocument {settings : Settings} {file text : String} {document : Document}
    {catalog : Catalog} {found : Validation}
    (h : ofDocument settings file text document catalog = .ok found) :
    ∃ verdict, checkConsistency document catalog (.real settings.cutoff.value) = .ok verdict ∧
      found.Counts
        (verdict.errors.length +
          ((graphsOf document catalog settings.graph).map fun graph =>
            graph.verdict.errors.length).sum)
        (verdict.warnings.length +
          ((graphsOf document catalog settings.graph).map FlowGraph.warningCount).sum) := by
  simp only [ofDocument, bind_eq_ok_iff, pure_eq_ok_iff, mapError_eq_ok_iff] at h
  obtain ⟨verdict, hverdict, located, hlocated, positions, -, rfl⟩ := h
  obtain ⟨known, -, rfl⟩ := Verdict.annotate_eq_ok_iff.1 hlocated
  have hconsistency := counts_findingRows file (verdict.locate file known).toReport
  simp only [Verdict.locate, Report.locate, List.length_map] at hconsistency
  exact ⟨verdict, hverdict,
    hconsistency.append (counts_ofGraphs file positions document catalog settings.graph)⟩

end Command.Validation

end FlowCheck
