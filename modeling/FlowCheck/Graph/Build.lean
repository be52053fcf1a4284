import FlowCheck.Catalog
import FlowCheck.Graph

/-!
# The flow graph of a workflow

Node `i` is step `i`. The edges come in four groups: neighbours, unless the earlier step goes on
elsewhere; data dependencies, if they are asked for; loops at steps with conditions for success,
unless they are not wanted; and the actions that go on at a step of the workflow.
-/

namespace FlowCheck

/-- Where the methods of operations are looked up. -/
inductive Interface where
  /-- Nowhere. -/
  | absent
  /-- In one API description, whatever source an operation id names. -/
  | single (api : Api)
  /-- In a catalog, and only in the source that an operation id names. -/
  | catalog (catalog : Catalog)
deriving Inhabited

/-- The method of the first operation with an id. -/
def Interface.method? (interface : Interface) (id : String) : Option Method :=
  let (source, bare) := splitId id
  let apis :=
    match interface with
    | .absent => []
    | .single api => [api]
    | .catalog known => (known.searched source).map Prod.snd
  apis.findSome? fun api => (api.byId? bare Method.reported).map (·.method)

/-- The name of the method of the operation that a step calls. -/
def Step.method? (step : Step) (interface : Interface) : Option String :=
  match step.operationPath.str? with
  | some path => (splitPath? path).map Prod.fst
  | none => step.operationId.str?.bind fun id => (interface.method? id).map (·.name)

/-- The step says where the workflow goes on. -/
def Step.branches (step : Step) : Bool :=
  step.actions.any fun action => action.type == Action.goto

/-- Which groups of edges a graph has. -/
structure FlowGraph.Options where
  /-- Steps with conditions for success have a loop. -/
  loops : Bool := true
  /-- There are edges for data dependencies. -/
  dataEdges : Bool := false
deriving Inhabited

/-- The node of a step. -/
def Node.ofStep (interface : Interface) (step : Step) : Node where
  step := step.id
  operationId := step.operationId.str?
  operationPath := step.operationPath.str?
  method := step.method? interface
  description := step.description
  hasOutputs := step.hasOutputs
  hasCriteria := step.hasCriteria

namespace FlowGraph

/-- The steps of a workflow with their numbers. -/
abbrev Numbered := List (Step × Nat)

/-- The edges between neighbours. -/
def sequentialEdges : Numbered → List Edge
  | (step, i) :: (next, j) :: rest =>
    (if step.branches then [] else [Edge.ofText i j .sequential none]) ++
      sequentialEdges ((next, j) :: rest)
  | _ => []

/-- The edges for the data dependencies of a step on the steps of the graph. -/
def dataEdges (graph : FlowGraph) (step : Step) (i : Nat) : List Edge :=
  step.dependencies.flatMap fun (id, raws) =>
    match graph.nodeIndex? id with
    | none => []
    | some source => raws.eraseDups.map fun raw => Edge.ofText source i .dataDependency (some raw)

/-- The loop at a step with conditions for success. -/
def loopEdges (step : Step) (i : Nat) : List Edge :=
  match step.criteria.getD [] with
  | [] => []
  | criteria =>
    [Edge.ofText i i .conditional (some s!"Success criteria: {criteria.length} conditions")]

/-- The edges for the actions that go on at a step of the graph. -/
def gotoEdges (graph : FlowGraph) (kind : EdgeKind) (i : Nat) (actions : List Action) :
    List Edge :=
  actions.filterMap fun action =>
    if action.type = Action.goto then
      (action.targetStep?.bind graph.nodeIndex?).map fun target =>
        Edge.ofText i target kind (some action.name)
    else none

/-- The edges for the actions of a step. -/
def actionEdges (graph : FlowGraph) (step : Step) (i : Nat) : List Edge :=
  graph.gotoEdges .onSuccess i (step.onSuccess.getD []) ++
    graph.gotoEdges .onFailure i (step.onFailure.getD [])

/-- The nodes of a workflow, and no edges. -/
def nodesOf (workflow : Workflow) (interface : Interface) : FlowGraph :=
  (workflow.steps.map (Node.ofStep interface)).foldl addNode (empty workflow.id)

/-- The edges of a workflow, given the graph of its nodes. -/
def edgesOf (graph : FlowGraph) (steps : Numbered) (options : Options) : List Edge :=
  sequentialEdges steps ++
    (if options.dataEdges then steps.flatMap fun (step, i) => graph.dataEdges step i else []) ++
    (if options.loops then steps.flatMap fun (step, i) => loopEdges step i else []) ++
    steps.flatMap fun (step, i) => graph.actionEdges step i

/-- The steps whose outputs each step needs. -/
def dependenciesOf (steps : List Step) : Groups :=
  steps.foldl (fun table step => Keyed.put step.id (step.dependencies.map Prod.fst) table) []

/-- The flow graph of a workflow. -/
def ofWorkflow (workflow : Workflow) (interface : Interface) (options : Options) : FlowGraph :=
  -- all nodes are there before the first edge, since edges may lead to later steps
  let graph := nodesOf workflow interface
  { graph with
    edges := graph.edgesOf workflow.steps.zipIdx options
    dependencies := dependenciesOf workflow.steps }

end FlowGraph

end FlowCheck
