import FlowCheck.Graph.Build
import FlowCheck.Proofs.Consistency.Position
import FlowCheck.Proofs.Document.References
import FlowCheck.Proofs.Graph.Links

/-!
# The edges of a workflow's graph

Node `i` of the graph of a workflow is step `i`, and a step id leads to the node of the last step
that has it, which is also the place at which the checks of the data find it
(`nodeIndex?_nodesOf`). Each group of edges is told by what made it, and all edges are between nodes
of the graph (`inRange_ofWorkflow`).
-/

namespace FlowCheck

namespace FlowGraph

variable {workflow : Workflow} {interface : Interface} {options : Options}

/-- Nodes that are added one by one take the next numbers. -/
theorem foldl_addNode (nodes : List Node) (graph : FlowGraph) :
    nodes.foldl addNode graph =
      { graph with
        nodes := graph.nodes ++ nodes
        index := ((nodes.zipIdx graph.size).map fun entry => (entry.1.step, entry.2)).reverse ++
          graph.index } := by
  induction nodes generalizing graph with
  | nil => simp
  | cons node rest ih =>
    rw [List.foldl_cons, ih]
    simp [addNode, size, List.zipIdx_cons]

/-- There is one node for each step. -/
@[simp]
theorem size_nodesOf (workflow : Workflow) (interface : Interface) :
    (nodesOf workflow interface).size = workflow.steps.length := by
  simp [nodesOf, foldl_addNode, empty, size]

/-- Node `i` is the node of step `i`. -/
theorem nodes_ofWorkflow (workflow : Workflow) (interface : Interface) (options : Options) :
    (ofWorkflow workflow interface options).nodes =
      workflow.steps.map (Node.ofStep interface) := by
  simp [ofWorkflow, nodesOf, foldl_addNode, empty]

/-- A step id leads to the place of its last step. -/
theorem nodeIndex?_nodesOf (id : String) :
    (nodesOf workflow interface).nodeIndex? id = workflow.position? id := by
  -- both look from the last step back, one among pairs of id and place, one among the steps
  rw [Workflow.position?, ← Keyed.lookup_map (fun entry : Step × ℕ => entry.1.id) Prod.snd,
    List.map_reverse]
  simp [nodesOf, foldl_addNode, empty, nodeIndex?, size, List.zipIdx_map, Node.ofStep,
    Function.comp_def]

/-- A neighbour edge leads to the next step. -/
theorem mem_sequentialEdges {steps : List Step} {start : ℕ} {edge : Edge}
    (h : edge ∈ sequentialEdges (steps.zipIdx start)) :
    edge.kind = .sequential ∧ edge.target = edge.source + 1 ∧
      edge.target < start + steps.length := by
  -- the steps are numbered from any number on, so that the rest is again such a list
  induction steps generalizing start with
  | nil => simp [sequentialEdges] at h
  | cons step rest ih =>
    cases rest with
    | nil => simp [sequentialEdges] at h
    | cons next rest =>
      rw [List.zipIdx_cons, List.zipIdx_cons, sequentialEdges, List.mem_append] at h
      -- the edge leaves the first step, unless an action of that step goes on elsewhere
      rcases h with hfirst | hrest
      · split at hfirst
        · simp at hfirst
        · rw [List.mem_singleton.1 hfirst]
          simp only [Edge.ofText, List.length_cons, true_and]
          omega
      · rw [← List.zipIdx_cons] at hrest
        obtain ⟨hkind, htarget, hlt⟩ := ih hrest
        exact ⟨hkind, htarget, by rw [List.length_cons]; omega⟩

/-- A data edge leads to a step from one whose outputs its request needs. -/
theorem mem_dataEdges {graph : FlowGraph} {step : Step} {i : ℕ} {edge : Edge}
    (h : edge ∈ graph.dataEdges step i) :
    edge.kind = .dataDependency ∧ edge.target = i ∧
      ∃ id ∈ step.dependencies.map Prod.fst, graph.nodeIndex? id = some edge.source := by
  obtain ⟨⟨id, raws⟩, hgroup, hedge⟩ := List.mem_flatMap.1 h
  have hid : id ∈ step.dependencies.map Prod.fst := List.mem_map_of_mem (f := Prod.fst) hgroup
  cases hsource : graph.nodeIndex? id with
  | none => simp [hsource] at hedge
  | some source =>
    simp only [hsource, List.mem_map] at hedge
    obtain ⟨raw, -, rfl⟩ := hedge
    exact ⟨rfl, rfl, id, hid, hsource⟩

/-- A loop leads from a step to itself. -/
theorem mem_loopEdges {step : Step} {i : ℕ} {edge : Edge} (h : edge ∈ loopEdges step i) :
    edge.kind = .conditional ∧ edge.source = i ∧ edge.target = i := by
  rw [loopEdges] at h
  split at h
  · simp at h
  · rw [List.mem_singleton.1 h]
    exact ⟨rfl, rfl, rfl⟩

/-- An edge for an action leads to the step at which the action goes on. -/
theorem mem_gotoEdges {graph : FlowGraph} {kind : EdgeKind} {i : ℕ} {actions : List Action}
    {edge : Edge} (h : edge ∈ graph.gotoEdges kind i actions) :
    edge.kind = kind ∧ edge.source = i ∧
      ∃ action ∈ actions, action.type = Action.goto ∧
        ∃ id, action.targetStep? = some id ∧ graph.nodeIndex? id = some edge.target := by
  obtain ⟨action, haction, hedge⟩ := List.mem_filterMap.1 h
  split at hedge
  next hgoto =>
    obtain ⟨target, htarget, rfl⟩ := Option.map_eq_some_iff.1 hedge
    obtain ⟨id, hid, hindex⟩ := Option.bind_eq_some_iff.1 htarget
    cases kind <;> exact ⟨rfl, rfl, action, haction, hgoto, id, hid, hindex⟩
  next => cases hedge

/-- An edge for an action leads from its step to one at which an action of the step goes on. -/
theorem mem_actionEdges {graph : FlowGraph} {step : Step} {i : ℕ} {edge : Edge}
    (h : edge ∈ graph.actionEdges step i) :
    (edge.kind = .onSuccess ∨ edge.kind = .onFailure) ∧ edge.source = i ∧
      ∃ action ∈ step.actions, action.type = Action.goto ∧
        ∃ id, action.targetStep? = some id ∧ graph.nodeIndex? id = some edge.target := by
  rcases List.mem_append.1 h with hedge | hedge
  · obtain ⟨hkind, hsource, action, haction, hgoto⟩ := mem_gotoEdges hedge
    exact ⟨.inl hkind, hsource, action, List.mem_append_left _ haction, hgoto⟩
  · obtain ⟨hkind, hsource, action, haction, hgoto⟩ := mem_gotoEdges hedge
    exact ⟨.inr hkind, hsource, action, List.mem_append_right _ haction, hgoto⟩

/-- What an edge of a workflow's graph says about the steps at its ends. -/
inductive Origin (workflow : Workflow) (edge : Edge) : Prop
  | sequential : edge.kind = .sequential → edge.target = edge.source + 1 →
      edge.target < workflow.steps.length → Origin workflow edge
  | data {step : Step} {id : String} : edge.kind = .dataDependency →
      workflow.steps[edge.target]? = some step → id ∈ step.dependencies.map Prod.fst →
      workflow.position? id = some edge.source → Origin workflow edge
  | loop {step : Step} : edge.kind = .conditional → edge.source = edge.target →
      workflow.steps[edge.source]? = some step → Origin workflow edge
  | action {step : Step} {action : Action} {id : String} :
      edge.kind = .onSuccess ∨ edge.kind = .onFailure →
      workflow.steps[edge.source]? = some step → action ∈ step.actions →
      action.type = Action.goto → action.targetStep? = some id →
      workflow.position? id = some edge.target → Origin workflow edge

/-- Every edge of a workflow's graph has one of the four origins. -/
theorem origin_of_mem_edges {edge : Edge}
    (h : edge ∈ (ofWorkflow workflow interface options).edges) : Origin workflow edge := by
  -- three of the four groups are made step by step
  have hstep {edges : Step × ℕ → List Edge} (hedge : edge ∈ workflow.steps.zipIdx.flatMap edges) :
      ∃ step i, workflow.steps[i]? = some step ∧ edge ∈ edges (step, i) := by
    obtain ⟨⟨step, i⟩, hentry, hedge⟩ := List.mem_flatMap.1 hedge
    exact ⟨step, i, List.mk_mem_zipIdx_iff_getElem?.1 hentry, hedge⟩
  simp only [ofWorkflow, edgesOf, List.mem_append] at h
  rcases h with ((hsequential | hdata) | hloop) | haction
  · obtain ⟨hkind, htarget, hlt⟩ := mem_sequentialEdges hsequential
    exact .sequential hkind htarget (by simpa using hlt)
  · split at hdata
    · obtain ⟨step, i, hget, hedge⟩ := hstep hdata
      obtain ⟨hkind, rfl, id, hid, hindex⟩ := mem_dataEdges hedge
      exact .data hkind hget hid (nodeIndex?_nodesOf id ▸ hindex)
    · simp at hdata
  · split at hloop
    · obtain ⟨step, i, hget, hedge⟩ := hstep hloop
      obtain ⟨hkind, rfl, htarget⟩ := mem_loopEdges hedge
      exact .loop hkind htarget.symm hget
    · simp at hloop
  · obtain ⟨step, i, hget, hedge⟩ := hstep haction
    obtain ⟨hkind, rfl, action, hmem, hgoto, id, hid, hindex⟩ := mem_actionEdges hedge
    exact .action hkind hget hmem hgoto hid (nodeIndex?_nodesOf id ▸ hindex)

/-- Both ends of every edge of a workflow's graph are steps. -/
theorem inRange_ofWorkflow : (ofWorkflow workflow interface options).InRange := by
  intro edge hedge
  have hsize : (ofWorkflow workflow interface options).size = workflow.steps.length :=
    size_nodesOf workflow interface
  have hlt {i : ℕ} {step : Step} (h : workflow.steps[i]? = some step) :
      i < workflow.steps.length := (List.getElem?_eq_some_iff.1 h).1
  rw [hsize]
  cases origin_of_mem_edges hedge with
  | sequential _ htarget hbound => omega
  | data _ hstep _ hsource =>
    exact ⟨Workflow.lt_length_of_position?_eq_some hsource, hlt hstep⟩
  | loop _ heq hstep =>
    have := hlt hstep
    omega
  | action _ hstep _ _ _ htarget =>
    exact ⟨hlt hstep, Workflow.lt_length_of_position?_eq_some htarget⟩

end FlowGraph

end FlowCheck
