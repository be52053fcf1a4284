import FlowCheck.Graph.Check
import FlowCheck.Proofs.Graph.Order
import FlowCheck.Proofs.Graph.Search

/-!
# The search and the order agree

A graph is checked for cycles twice, by the search in depth and by the sort. On a graph whose edges
are in range both tell the same: there is an order exactly when no cycle is found, which is when the
graph without its loops is acyclic. So a verdict has either no error and the order, or both errors
and no order.
-/

namespace FlowCheck

/-- The warning tells an order of the steps. -/
def GraphWarning.isOrder : GraphWarning → Bool
  | .order _ => true
  | _ => false

namespace FlowGraph

variable {graph : FlowGraph}

/-- The errors of a graph: that it has a cycle, and that it has no order. -/
theorem errors_verdict (graph : FlowGraph) :
    graph.verdict.errors =
      (if graph.cycle?.isSome then [.cyclic] else []) ++
        match graph.order with
        | .ok _ => []
        | .error stuck => [.noOrder (graph.stepId stuck)] := by
  unfold verdict
  cases graph.order <;> dsimp only <;> split_ifs <;> rfl

/-- The warnings about a graph, of which the order of its steps is the last one. -/
theorem warnings_verdict (graph : FlowGraph) :
    graph.verdict.warnings =
      (if graph.unreachable = [] then []
        else [.unreachable (graph.unreachable.map graph.stepId)]) ++
        (if graph.deadEnds.length > 1 then [.deadEnds (graph.deadEnds.map graph.stepId)]
          else []) ++
        match graph.order with
        | .ok order => [.order (order.map graph.stepId)]
        | .error _ => [] := by
  unfold verdict
  simp only [List.isEmpty_iff, List.map_eq_nil_iff, List.length_map]
  cases graph.order <;> dsimp only <;> split_ifs <;> rfl

/-- The answers of all checks of a graph whose edges are in range. -/
theorem checks_of_inRange (h : graph.InRange) :
    graph.checks = .ok {
      verdict := graph.verdict
      cycle := graph.cycle?.map (List.map graph.stepId)
      order := (graph.order.map (List.map graph.stepId)).mapError graph.stepId
      unreachable := graph.unreachable.map graph.stepId
      deadEnds := graph.deadEnds.map graph.stepId } :=
  if_pos (linksInRange_of_inRange h)

/-- The verdict on a graph that passes both checks. -/
theorem verdict_of_order_eq_ok (hcycle : graph.cycle? = none) {places : List ℕ}
    (horder : graph.order = .ok places) :
    graph.verdict.errors = [] ∧
      graph.verdict.warnings.filter GraphWarning.isOrder = [.order (places.map graph.stepId)] := by
  constructor
  · simp [errors_verdict, hcycle, horder]
  · simp only [warnings_verdict, horder, List.filter_append]
    split <;> split <;> simp [GraphWarning.isOrder]

/-- The verdict on a graph that fails both checks. -/
theorem verdict_of_order_eq_error (hcycle : graph.cycle? ≠ none) {stuck : ℕ}
    (horder : graph.order = .error stuck) :
    graph.verdict.errors = [.cyclic, .noOrder (graph.stepId stuck)] ∧
      graph.verdict.warnings.filter GraphWarning.isOrder = [] := by
  constructor
  · simp [errors_verdict, Option.isSome_iff_ne_none.2 hcycle, horder]
  · simp only [warnings_verdict, horder, List.filter_append]
    split <;> split <;> simp [GraphWarning.isOrder]

/-- Both checks of a graph whose edges are in range tell whether it is acyclic, and the verdict
shows either no error and one order, or the errors of both checks and no order. -/
theorem checks_agree (graph : FlowGraph) (h : graph.InRange) :
    ∃ checks, graph.checks = .ok checks ∧
      (checks.cycle = none ↔ graph.Acyclic) ∧
      ((∃ steps, checks.order = .ok steps) ↔ graph.Acyclic) ∧
      ((checks.verdict.errors = [] ∧ checks.verdict.isValid = true ∧
          ∃ steps, checks.order = .ok steps ∧
            checks.verdict.warnings.filter GraphWarning.isOrder = [.order steps]) ∨
        (checks.verdict.isValid = false ∧
          ∃ step, checks.order = .error step ∧
            checks.verdict.errors = [.cyclic, .noOrder step] ∧
            checks.verdict.warnings.filter GraphWarning.isOrder = [])) := by
  have hlinks := below_links h
  have hcycle := cycle?_eq_none_iff hlinks
  have horder := exists_order_iff hlinks
  refine ⟨_, by rw [checks, if_pos (linksInRange_of_inRange h)], ?_, ?_, ?_⟩
  · rw [← hcycle, Option.map_eq_none_iff]
  · rw [← horder]
    cases graph.order <;> simp [Except.map, Except.mapError]
  · -- the order tells which of the two verdicts it is, and the search agrees
    rcases hplaces : graph.order with stuck | places
    · right
      have hsome : graph.cycle? ≠ none := by
        rw [Ne, hcycle, ← horder, hplaces]
        simp
      obtain ⟨herrors, hwarnings⟩ := verdict_of_order_eq_error hsome hplaces
      exact ⟨Verdict.isValid_eq_false_iff.2 (by simp [herrors]), _, rfl, herrors, hwarnings⟩
    · left
      have hnone : graph.cycle? = none := hcycle.2 (horder.1 ⟨places, hplaces⟩)
      obtain ⟨herrors, hwarnings⟩ := verdict_of_order_eq_ok hnone hplaces
      exact ⟨herrors, graph.verdict.isValid_iff.2 herrors, _, rfl, hwarnings⟩

/-- Two steps, the second with a loop, that two edges join in one direction and one in the other. -/
def tangled : FlowGraph where
  workflow := "w"
  nodes := ["a", "b"].map fun id => { (default : Node) with step := id }
  edges := [Edge.ofText 0 1 .sequential none, Edge.ofText 1 1 .conditional none,
    Edge.ofText 0 1 .onSuccess none, Edge.ofText 1 0 .onFailure none]
  dependencies := []
  index := [("b", 1), ("a", 0)]

/-- The verdict on the tangled graph: it has a cycle, and its order stops at the first step. -/
theorem checks_tangled :
    tangled.InRange ∧ ¬ tangled.Acyclic ∧
      ∃ checks, tangled.checks = .ok checks ∧ checks.verdict.errors = [.cyclic, .noOrder "a"] ∧
        checks.verdict.isValid = false := by
  have hrange : tangled.InRange := by
    simp [InRange, tangled, size, Edge.ofText]
  obtain ⟨checks, hchecks, hcycle, horder, hverdict⟩ := checks_agree tangled hrange
  have hfound : checks.cycle = some ["b", "a"] ∧ checks.order = .error "a" := by
    cases hchecks
    exact ⟨rfl, rfl⟩
  have hcyclic : ¬ tangled.Acyclic := by
    simp [← hcycle, hfound.1]
  rcases hverdict with ⟨-, -, steps, hsteps, -⟩ | ⟨hvalid, step, hstep, herrors, -⟩
  · exact absurd (horder.1 ⟨steps, hsteps⟩) hcyclic
  · obtain rfl : "a" = step := Except.error.inj (hfound.2.symm.trans hstep)
    exact ⟨hrange, hcyclic, checks, hchecks, herrors, hvalid⟩

end FlowGraph

end FlowCheck
