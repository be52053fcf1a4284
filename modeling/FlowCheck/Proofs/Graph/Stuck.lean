import FlowCheck.Proofs.Graph.Agreement
import FlowCheck.Proofs.Graph.Build
import FlowCheck.Proofs.Graph.StepIds

/-!
# The step at which the order stops

A graph with a cycle has no order, and the sort names a step. It is the first of the steps that
follow a cycle: those on a cycle and those to which such a step leads in the end. So it is itself on
a cycle exactly when some step on a cycle comes before all others that follow one. A step with a
small number to which a cycle leads is named although no cycle goes through it
(`not_hasCycleThrough_login`).
-/

namespace FlowCheck.FlowGraph

open Relation

/-- A cycle goes through the step: from a node of the step edges other than loops lead back to
it. -/
def HasCycleThrough (graph : FlowGraph) (step : String) : Prop :=
  ∃ i, graph.nodes[i]?.map (·.step) = some step ∧ TransGen graph.Leads i i

variable {graph : FlowGraph}

/-- Where the step ids are different, a cycle goes through a step when it goes through its node. -/
theorem hasCycleThrough_stepId_iff (hids : graph.stepIds.Nodup) {i : ℕ} (hi : i < graph.size) :
    graph.HasCycleThrough (graph.stepId i) ↔ TransGen graph.Leads i i := by
  constructor
  · rintro ⟨j, hstep, hcycle⟩
    have hj : graph.stepIds[j]? = some (graph.stepId i) := by simpa [stepIds] using hstep
    obtain rfl := eq_of_getElem?_stepIds hids hi hj
    exact hcycle
  · intro hcycle
    exact ⟨i, by simpa [stepIds] using getElem?_stepIds hi, hcycle⟩

/-- The order of a graph in range with a cycle stops at the first step that follows a cycle. A cycle
goes through this step exactly when some node on a cycle comes before all that follow one. -/
theorem checks_stuck_least (h : graph.InRange) (hids : graph.stepIds.Nodup)
    (hcyclic : ¬ graph.Acyclic) :
    ∃ checks stuck, graph.checks = .ok checks ∧ stuck < graph.size ∧
      checks.order = .error (graph.stepId stuck) ∧
      checks.verdict.errors = [.cyclic, .noOrder (graph.stepId stuck)] ∧
      IsLeast {i | graph.FollowsCycle i} stuck ∧
      (graph.HasCycleThrough (graph.stepId stuck) ↔
        ∃ i, TransGen graph.Leads i i ∧ ∀ j, graph.FollowsCycle j → i ≤ j) := by
  have hlinks := below_links h
  have hcycle : graph.cycle? ≠ none := (cycle?_eq_none_iff hlinks).not.2 hcyclic
  rcases horder : graph.order with stuck | places
  · have hleast := (order_eq_error_iff hlinks).1 horder
    have hlt := lt_size_of_order_eq_error hlinks horder
    refine ⟨_, stuck, checks_of_inRange h, hlt, by simp [horder, Except.map, Except.mapError],
      (verdict_of_order_eq_error hcycle horder).1, hleast, ?_⟩
    rw [hasCycleThrough_stepId_iff hids hlt]
    constructor
    · intro hstuck
      exact ⟨stuck, hstuck, hleast.2⟩
    · rintro ⟨i, hi, hmin⟩
      -- both are the first node that follows a cycle
      have heq : i = stuck :=
        le_antisymm (hmin stuck hleast.1) (hleast.2 (followsCycle_of_transGen hi))
      exact heq ▸ hi
  · exact absurd ((exists_order_iff hlinks).1 ⟨places, horder⟩) hcyclic

/-- The order of the tangled graph stops at its first step, which is on the cycle. -/
theorem checks_stuck_tangled :
    tangled.InRange ∧ tangled.stepIds.Nodup ∧ ¬ tangled.Acyclic ∧
      ∃ checks, tangled.checks = .ok checks ∧ checks.order = .error "a" ∧
        tangled.HasCycleThrough "a" := by
  have hrange : tangled.InRange := by
    simp [InRange, tangled, size, Edge.ofText]
  have hids : tangled.stepIds.Nodup := by decide
  have hthere : tangled.Leads 0 1 := ⟨by decide, _, List.mem_cons_self, rfl, rfl⟩
  have hback : tangled.Leads 1 0 :=
    ⟨by decide, Edge.ofText 1 0 .onFailure none, by simp [tangled], rfl, rfl⟩
  have hcycle : TransGen tangled.Leads 0 0 := .head hthere (.single hback)
  have hcyclic : ¬ tangled.Acyclic := fun hacyclic => hacyclic 0 hcycle
  obtain ⟨checks, stuck, hchecks, -, horder, -, -, hthrough⟩ :=
    checks_stuck_least hrange hids hcyclic
  have hname : tangled.stepId stuck = "a" := by
    cases hchecks
    exact (Except.error.inj horder).symm
  rw [hname] at horder hthrough
  exact ⟨hrange, hids, hcyclic, checks, hchecks, horder,
    hthrough.2 ⟨0, hcycle, fun j _ => Nat.zero_le j⟩⟩

/-- A workflow whose last two steps repeat until they succeed, or start again with the first. -/
def polling : Workflow :=
  let calling (id : String) : Step := { (default : Step) with id, operationId := .str id }
  let goingOn (name id : String) : Action := ⟨name, Action.goto, [(.str "stepId", .str id)]⟩
  { (default : Workflow) with
    id := "polling"
    steps := [
      { calling "login" with onFailure := some [goingOn "again" "login"] },
      calling "poll",
      { calling "check" with
        onSuccess := some [goingOn "more" "poll"]
        onFailure := some [goingOn "back" "login"] }] }

/-- The order of its graph stops at the first step, with a message of a cycle at this step. The
cycle goes through the other two steps, and no edge but a loop leaves the first. -/
theorem not_hasCycleThrough_login :
    (ofWorkflow polling .absent ⟨true, false⟩).InRange ∧
      (ofWorkflow polling .absent ⟨true, false⟩).stepIds.Nodup ∧
      ¬ (ofWorkflow polling .absent ⟨true, false⟩).Acyclic ∧
      (∃ checks, (ofWorkflow polling .absent ⟨true, false⟩).checks = .ok checks ∧
        checks.order = .error "login" ∧
        checks.verdict.errors.map GraphError.message =
          ["Graph contains cycles (not a DAG)",
            "Failed to compute topological order: cycle detected at step 'login'"]) ∧
      ¬ (ofWorkflow polling .absent ⟨true, false⟩).HasCycleThrough "login" := by
  have hedges : (ofWorkflow polling .absent ⟨true, false⟩).edges =
      [⟨1, 2, .sequential, none, none⟩, ⟨0, 0, .onFailure, none, some "again"⟩,
        ⟨2, 1, .onSuccess, none, some "more"⟩, ⟨2, 0, .onFailure, none, some "back"⟩] := by
    decide
  refine ⟨inRange_ofWorkflow, by decide, ?_, ⟨_, rfl, rfl, rfl⟩, ?_⟩
  · intro hacyclic
    have hthere : (ofWorkflow polling .absent ⟨true, false⟩).Leads 1 2 := by
      simp [Leads, hedges]
    have hback : (ofWorkflow polling .absent ⟨true, false⟩).Leads 2 1 := by
      simp [Leads, hedges]
    exact hacyclic 1 (.head hthere (.single hback))
  · rintro ⟨i, hstep, hcycle⟩
    -- a cycle leaves its nodes by edges other than loops, and those leave only the other two steps
    obtain ⟨j, hlead, -⟩ := TransGen.head'_iff.1 hcycle
    simp only [Leads, hedges, List.mem_cons, List.not_mem_nil, or_false] at hlead
    obtain ⟨hne, edge, rfl | rfl | rfl | rfl, rfl, rfl⟩ := hlead
    · exact absurd hstep (by decide)
    · exact hne rfl
    · exact absurd hstep (by decide)
    · exact absurd hstep (by decide)

end FlowCheck.FlowGraph
