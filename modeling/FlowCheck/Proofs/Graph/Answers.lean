import FlowCheck.Proofs.Document.Valid
import FlowCheck.Proofs.Graph.StepOrder

/-!
# What the checks of a graph answer

The checks work on the numbers of nodes and answer with step ids. Where the edges are in range, all
numbers that they come to are those of nodes, so that each answer speaks of steps of the graph
(`FlowGraph.exists_checks_about`). The graph of an accepted workflow has the steps as its nodes, in
their order and each under its own id, and its edges are in range. So none of the checks fails on it
(`FlowGraph.checks_ofWorkflow`).
-/

namespace FlowCheck

/-- What a step of an accepted document says of the operation that it calls is a text or nothing,
and so its node says the same. -/
theorem Step.Valid.ofStr?_str? {step : Step} (h : step.Valid) :
    Value.ofStr? step.operationId.str? = step.operationId ∧
      Value.ofStr? step.operationPath.str? = step.operationPath := by
  have hcheck : step.checkTargetTexts "" = .ok () := (Step.checkTarget_eq_ok_iff.2 h.target).1
  have htexts := Step.checkTargetTexts_eq_ok_iff.1 hcheck
  have hkeep {value : Value} (hvalue : value.isNull = true ∨ ∃ text, value = .str text) :
      Value.ofStr? value.str? = value := by
    obtain hnull | ⟨text, rfl⟩ := hvalue
    · cases value <;> simp_all [Value.isNull, Value.str?, Value.ofStr?]
    · rfl
  constructor
  · exact hkeep (htexts ("operationId", step.operationId) (by simp [Step.targets]))
  · exact hkeep (htexts ("operationPath", step.operationPath) (by simp [Step.targets]))

namespace FlowGraph

/-- The answers speak of the steps with the ids: a cycle has some of them, an order has them all,
the order stops at one of them, and the two lists hold some of them in their order. -/
structure Checks.About (ids : List String) (checks : Checks) : Prop where
  cycle : ∀ cycle, checks.cycle = some cycle → cycle ≠ [] ∧ cycle ⊆ ids
  order : ∀ steps, checks.order = .ok steps → steps.Perm ids
  stuck : ∀ step, checks.order = .error step → step ∈ ids
  unreachable : checks.unreachable.Sublist ids
  deadEnds : checks.deadEnds.Sublist ids

variable {graph : FlowGraph}

/-- Where the edges are in range, all checks give an answer, and it speaks of the steps of the
graph. -/
theorem exists_checks_about (h : graph.InRange) :
    ∃ checks, graph.checks = .ok checks ∧ checks.About graph.stepIds := by
  have hlinks := below_links h
  refine ⟨_, checks_of_inRange h, ?_⟩
  constructor
  case cycle =>
    intro steps hsteps
    obtain ⟨cycle, hcycle, rfl⟩ := Option.map_eq_some_iff.1 hsteps
    have hnodes := isCycle_of_cycle?_eq_some hlinks hcycle
    refine ⟨by simpa using hnodes.ne_nil, fun step hstep => ?_⟩
    obtain ⟨i, hi, rfl⟩ := List.mem_map.1 hstep
    exact stepId_mem_stepIds (hnodes.lt_size hlinks i hi)
  case order =>
    intro steps hsteps
    cases horder : graph.order with
    | error stuck => simp [horder, Except.map, Except.mapError] at hsteps
    | ok places =>
      obtain rfl : places.map graph.stepId = steps := by
        simpa [horder, Except.map, Except.mapError] using hsteps
      rw [← map_stepId_range]
      exact (perm_range_of_order_eq_ok hlinks horder).map graph.stepId
  case stuck =>
    intro step hstep
    cases horder : graph.order with
    | error stuck =>
      obtain rfl : graph.stepId stuck = step := by
        simpa [horder, Except.map, Except.mapError] using hstep
      exact stepId_mem_stepIds (lt_size_of_order_eq_error hlinks horder)
    | ok places => simp [horder, Except.map, Except.mapError] at hstep
  case unreachable =>
    rw [← map_stepId_range]
    exact List.filter_sublist.map graph.stepId
  case deadEnds =>
    rw [← map_stepId_range]
    exact List.filter_sublist.map graph.stepId

variable {value : Value} {document : Document} {workflow : Workflow}

/-- The graph of an accepted workflow has the steps as its nodes, in their order and each under its
own id, and edges between them. All checks of the graph give an answer about these steps. -/
theorem checks_ofWorkflow (hread : Document.read value = .ok document)
    (hworkflow : workflow ∈ document.workflows) (interface : Interface) (options : Options) :
    (ofWorkflow workflow interface options).size = workflow.steps.length ∧
      (∀ i step, workflow.steps[i]? = some step →
        (ofWorkflow workflow interface options).nodeIndex? step.id = some i ∧
          ∃ node, (ofWorkflow workflow interface options).nodes[i]? = some node ∧
            node.step = step.id ∧ Value.ofStr? node.operationId = step.operationId ∧
            Value.ofStr? node.operationPath = step.operationPath ∧
            node.description = step.description) ∧
      (∀ edge ∈ (ofWorkflow workflow interface options).edges,
        edge.source < workflow.steps.length ∧ edge.target < workflow.steps.length) ∧
      ∃ checks, (ofWorkflow workflow interface options).checks = .ok checks ∧
        checks.About (workflow.steps.map (·.id)) := by
  have hvalid := (Document.read_eq_ok_iff.1 hread).2.workflows workflow hworkflow
  have hsize : (ofWorkflow workflow interface options).size = workflow.steps.length :=
    size_nodesOf workflow interface
  refine ⟨hsize, ?_, ?_, ?_⟩
  · intro i step hstep
    constructor
    · -- no other step has the id, so that the last one with it is the step itself
      have hposition : workflow.position? step.id = some i :=
        (Workflow.position?_eq_some_iff hvalid.nodup).2 ⟨step, hstep, rfl⟩
      exact (nodeIndex?_nodesOf step.id).trans hposition
    · obtain ⟨hid, hpath⟩ := (hvalid.steps step (List.mem_of_getElem? hstep)).ofStr?_str?
      exact ⟨Node.ofStep interface step, by simp [nodes_ofWorkflow, hstep], rfl, hid, hpath, rfl⟩
  · rw [← hsize]
    exact inRange_ofWorkflow
  · rw [← stepIds_ofWorkflow workflow interface options]
    exact exists_checks_about inRange_ofWorkflow

/-- The value of a document with two steps, the second of which goes back to the first when it
fails. -/
def retryDocument : Value :=
  let again : Value := .map [(.str "name", .str "again"), (.str "type", .str Action.goto),
    (.str "stepId", .str "login")]
  let login : Value := .map [(.str "stepId", .str "login"), (.str "operationId", .str "login")]
  let fetch : Value := .map [(.str "stepId", .str "fetch"), (.str "operationId", .str "fetch"),
    (.str "onFailure", .list [again])]
  let workflow : Value :=
    .map [(.str "workflowId", .str "fetching"), (.str "steps", .list [login, fetch])]
  .map [(.str "arazzo", .str "1.0.0"),
    (.str "info", .map [(.str "title", .str "Fetching"), (.str "version", .str "1")]),
    (.str "workflows", .list [workflow])]

/-- The checks of its graph find the cycle of both steps and stop at the first of them. -/
theorem checks_retry :
    ∃ document, Document.read retryDocument = .ok document ∧
      ∃ workflow ∈ document.workflows, workflow.steps.map (·.id) = ["login", "fetch"] ∧
        ∃ checks, (ofWorkflow workflow .absent ⟨true, true⟩).checks = .ok checks ∧
          checks.cycle = some ["fetch", "login"] ∧ checks.order = .error "login" ∧
          checks.About ["login", "fetch"] := by
  have hread : Document.read retryDocument = .ok _ := rfl
  refine ⟨_, hread, _, List.mem_singleton.2 rfl, rfl, ?_⟩
  obtain ⟨-, -, -, checks, hchecks, habout⟩ :=
    checks_ofWorkflow hread (List.mem_singleton.2 rfl) .absent ⟨true, true⟩
  have hanswers : checks.cycle = some ["fetch", "login"] ∧ checks.order = .error "login" := by
    cases hchecks
    exact ⟨rfl, rfl⟩
  exact ⟨checks, hchecks, hanswers.1, hanswers.2, habout⟩

end FlowGraph

end FlowCheck
