import FlowCheck.Proofs.Graph.Agreement
import FlowCheck.Proofs.Graph.Build
import FlowCheck.Proofs.Graph.StepIds

/-!
# The order of the data and the order of the steps

The checks of the data and the graph of a workflow collect references between steps by themselves.
Where the checks report no step that needs the outputs of a later one, every data edge of the graph
leads forward. Where the actions go forward too, the graph has no error and its order is the order
of the document.
-/

namespace FlowCheck

open FlowGraph

/-- No finding of the data checks says that a step of the workflow needs the outputs of a later
step. -/
def DataInOrder (document : Document) (workflow : Workflow) : Prop :=
  ∀ error ∈ (checkDataFlow document).errors, error.kind = .stepOrderViolation →
    error.place.workflow ≠ some workflow.id

/-- No action goes on at an earlier step of the workflow. -/
def Workflow.ActionsInOrder (workflow : Workflow) : Prop :=
  ∀ (i j : ℕ) (step : Step), workflow.steps[i]? = some step → ∀ action ∈ step.actions,
    action.type = Action.goto → ∀ target, action.targetStep? = some target →
      (workflow.steps[j]?).map (·.id) = some target → i ≤ j

namespace Workflow

variable {document : Document} {workflow : Workflow} {step : Step} {i j : ℕ} {id : String}

/-- What is wrong with an expression of a step is an error of the document. -/
theorem mem_errors_checkDataFlow (hworkflow : workflow ∈ document.workflows)
    (hstep : workflow.steps[i]? = some step) {e : Expression} (he : e ∈ step.expressions)
    {error : ErrorFinding} (herror : error ∈ (workflow.checkExpression step i e).errors) :
    error ∈ (checkDataFlow document).errors := by
  rw [checkDataFlow, Report.errors_concat, List.mem_flatMap]
  refine ⟨workflow.checkData, List.mem_map_of_mem hworkflow, ?_⟩
  simp only [checkData, Report.append, Report.errors_concat, List.append_nil, List.mem_flatMap]
  refine ⟨workflow.checkExpression step i e, ⟨(step, i), ?_, List.mem_map_of_mem he⟩, herror⟩
  exact List.mk_mem_zipIdx_iff_getElem?.2 hstep

/-- A reference to a step that does not come before is an error. -/
theorem exists_order_error (step : Step) {e : Expression} (htarget : e.target.step? = some id)
    (hposition : workflow.position? id = some j) (hle : i ≤ j) :
    ∃ error ∈ (workflow.checkExpression step i e).errors,
      error.kind = .stepOrderViolation ∧ error.place.workflow = some workflow.id := by
  cases he : e.target with
  | stepOutput other path =>
    obtain rfl : other = id := by simpa [he, Reference.step?] using htarget
    simp [checkExpression, he, hposition, Nat.not_lt.2 hle, placeOf]
  | _ => simp [he, Reference.step?] at htarget

/-- Where the data is in order, the steps that a request needs come before it. -/
theorem position_lt_of_dataInOrder (h : DataInOrder document workflow)
    (hworkflow : workflow ∈ document.workflows) (hstep : workflow.steps[i]? = some step)
    (hid : id ∈ step.dependencies.map Prod.fst) (hposition : workflow.position? id = some j) :
    j < i := by
  by_contra hnot
  -- the checks see the reference too, and would report it
  obtain ⟨e, he, htarget⟩ := Step.exists_mem_expressions hid
  obtain ⟨error, herror, hkind, hplace⟩ :=
    exists_order_error step htarget hposition (Nat.not_lt.1 hnot)
  exact h error (mem_errors_checkDataFlow hworkflow hstep he herror) hkind hplace

end Workflow

namespace FlowGraph

variable {document : Document} {workflow : Workflow} {interface : Interface} {options : Options}

/-- The nodes of a workflow's graph are its steps. -/
theorem stepIds_ofWorkflow (workflow : Workflow) (interface : Interface) (options : Options) :
    (ofWorkflow workflow interface options).stepIds = workflow.steps.map (·.id) := by
  simp [ofWorkflow, nodesOf, foldl_addNode, empty, stepIds, Node.ofStep, Function.comp_def]

/-- A data edge leads forward where the data is in order. -/
theorem source_lt_target_of_dataInOrder (h : DataInOrder document workflow)
    (hworkflow : workflow ∈ document.workflows) {edge : Edge}
    (hedge : edge ∈ (ofWorkflow workflow interface options).edges)
    (hkind : edge.kind = .dataDependency) : edge.source < edge.target := by
  cases origin_of_mem_edges hedge with
  | sequential _ htarget _ => omega
  | data _ hstep hid hposition =>
    exact Workflow.position_lt_of_dataInOrder h hworkflow hstep hid hposition
  | loop hother => simp [hkind] at hother
  | action hother => simp [hkind] at hother

/-- Where the data and the actions are in order, no edge leads back. -/
theorem source_le_target (hdata : DataInOrder document workflow)
    (hactions : workflow.ActionsInOrder) (hworkflow : workflow ∈ document.workflows) {edge : Edge}
    (hedge : edge ∈ (ofWorkflow workflow interface options).edges) :
    edge.source ≤ edge.target := by
  cases origin_of_mem_edges hedge with
  | sequential _ htarget _ => omega
  | data hkind => exact (source_lt_target_of_dataInOrder hdata hworkflow hedge hkind).le
  | loop _ heq => exact heq.le
  | action _ hstep hmem hgoto hid hposition =>
    exact hactions _ _ _ hstep _ hmem hgoto _ hid (Workflow.id_of_position?_eq_some hposition)

/-- A graph whose edges do not lead back is valid, and its order is that of its nodes. -/
theorem checks_of_source_le_target {graph : FlowGraph} (hrange : graph.InRange)
    (hforward : ∀ edge ∈ graph.edges, edge.source ≤ edge.target) :
    ∃ checks, graph.checks = .ok checks ∧ checks.verdict.errors = [] ∧
      checks.order = .ok graph.stepIds := by
  have hlinks := below_links hrange
  -- links are no loops, so that they lead to a greater node
  have hlt (i j : ℕ) (hlink : Linked graph.links i j) : i < j := by
    obtain ⟨hne, edge, hedge, rfl, rfl⟩ := linked_links.1 hlink
    exact lt_of_le_of_ne (hforward edge hedge) hne
  have horder := order_eq_range hlinks hlt
  have hcycle : graph.cycle? = none :=
    (cycle?_eq_none_iff hlinks).2 (acyclic_iff.2 (acyclic_of_rank id hlt))
  refine ⟨_, checks_of_inRange hrange, (verdict_of_order_eq_ok hcycle horder).1, ?_⟩
  rw [horder, ← map_stepId_range]
  rfl

/-- Where the checks find the data of a workflow in order, the data edges of its graph lead forward.
If its actions are in order too, the graph has no error, and its order is that of the document. -/
theorem ofWorkflow_in_order (hworkflow : workflow ∈ document.workflows)
    (hdata : DataInOrder document workflow) (interface : Interface) (loops : Bool) :
    (∀ edge ∈ (ofWorkflow workflow interface ⟨loops, true⟩).edges,
        edge.kind = .dataDependency → edge.source < edge.target) ∧
      (workflow.ActionsInOrder → ∀ dataEdges,
        ∃ checks, (ofWorkflow workflow interface ⟨loops, dataEdges⟩).checks = .ok checks ∧
          checks.verdict.errors = [] ∧
          checks.order = .ok (workflow.steps.map (·.id))) := by
  constructor
  · intro edge hedge hkind
    exact source_lt_target_of_dataInOrder hdata hworkflow hedge hkind
  · intro hactions dataEdges
    rw [← stepIds_ofWorkflow workflow interface ⟨loops, dataEdges⟩]
    exact checks_of_source_le_target inRange_ofWorkflow fun edge hedge =>
      source_le_target hdata hactions hworkflow hedge

/-- A workflow whose second step needs an output of the first and may be repeated. -/
def paging : Workflow :=
  let calling (id : String) : Step := { (default : Step) with id, operationId := .str id }
  let again : Action := ⟨"again", Action.goto, [(.str "stepId", .str "more")]⟩
  { (default : Workflow) with
    id := "all"
    steps := [
      { calling "list" with
        outputs := some [(.str "token", .str "$response.body#/next")] },
      { calling "more" with
        parameters := [⟨"page", .str "query", .str "$steps.list.outputs.token", none, false⟩]
        onSuccess := some [again] }] }

/-- The document of that workflow. -/
def pagingDocument : Document :=
  { (default : Document) with version := "1.0.0", workflows := [paging] }

/-- The data and the actions of the workflow are in order, and so is its graph. -/
theorem order_paging :
    DataInOrder pagingDocument paging ∧ paging.ActionsInOrder ∧
      (∀ edge ∈ (ofWorkflow paging .absent ⟨true, true⟩).edges,
        edge.kind = .dataDependency → edge.source < edge.target) ∧
      ∃ checks, (ofWorkflow paging .absent ⟨true, true⟩).checks = .ok checks ∧
        checks.verdict.errors = [] ∧ checks.order = .ok ["list", "more"] := by
  have hmem : paging ∈ pagingDocument.workflows := List.mem_singleton.2 rfl
  have hdata : DataInOrder pagingDocument paging := by
    have hnone : (checkDataFlow pagingDocument).errors = [] := by decide
    simp [DataInOrder, hnone]
  have hactions : paging.ActionsInOrder := by
    -- only the second step has an action, and that one goes on at the second step
    intro i j step hstep action haction _ target htarget hid
    match i, hstep with
    | 0, hstep =>
      obtain rfl := Option.some.inj hstep
      exact absurd haction List.not_mem_nil
    | 1, hstep =>
      obtain rfl := Option.some.inj hstep
      obtain rfl := List.mem_singleton.1 haction
      obtain rfl : "more" = target := Option.some.inj htarget
      match j, hid with
      | 0, hid => exact absurd hid (by decide)
      | j + 1, _ => omega
  obtain ⟨hforward, horder⟩ := ofWorkflow_in_order hmem hdata .absent true
  exact ⟨hdata, hactions, hforward, horder hactions true⟩

end FlowGraph

end FlowCheck
