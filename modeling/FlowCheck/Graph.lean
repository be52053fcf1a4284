import FlowCheck.Document.References
import FlowCheck.Fault
import FlowCheck.Text.Quoted

/-!
# Flow graphs

The steps of a workflow as nodes, and the ways from one step to another as edges. Nodes are
numbered in the order of their addition. An index finds the node of a step id; a repeated id leads
to the node that was added last. Parallel edges, loops and edges between nodes that are not there
are kept as they are.
-/

namespace FlowCheck

/-- Why one step follows another. -/
inductive EdgeKind where
  /-- The steps are neighbours in the document. -/
  | sequential
  /-- The step has conditions for success. -/
  | conditional
  /-- The later step needs an output of the earlier one. -/
  | dataDependency
  /-- An action after success goes on there. -/
  | onSuccess
  /-- An action after failure goes on there. -/
  | onFailure
deriving DecidableEq, Inhabited

namespace EdgeKind

/-- All kinds of edges. -/
def all : List EdgeKind :=
  [.sequential, .conditional, .dataDependency, .onSuccess, .onFailure]

/-- The name of a kind of edges. -/
def name : EdgeKind → String
  | .sequential => "Sequential"
  | .conditional => "Conditional"
  | .dataDependency => "DataDependency"
  | .onSuccess => "OnSuccess"
  | .onFailure => "OnFailure"

/-- The kind with a name. -/
def ofName? (name : String) : Option EdgeKind :=
  all.find? fun kind => kind.name == name

end EdgeKind

/-- A node: a step, with what is shown of it. -/
structure Node where
  /-- The id of the step. -/
  step : String
  /-- The id of the operation that the step calls. -/
  operationId : Option String
  /-- The method and the path of the operation that the step calls. -/
  operationPath : Option String
  /-- The method of the operation that the step calls. -/
  method : Option String
  /-- The description of the step. -/
  description : Value
  /-- The step has outputs. -/
  hasOutputs : Bool
  /-- The step has conditions for success. -/
  hasCriteria : Bool
deriving Inhabited

/-- An edge between two nodes, given by their numbers. Whoever adds an edge may give others for
them, also negative ones, so that the type of the numbers is left open. -/
structure Edge (ι : Type := Nat) where
  /-- The node that the edge leaves. -/
  source : ι
  /-- The node that the edge enters. -/
  target : ι
  /-- Why the target follows the source. -/
  kind : EdgeKind
  /-- The text of the expression behind a data dependency. -/
  dataRef : Option String
  /-- What is said about the edge. -/
  description : Option String
deriving DecidableEq, Inhabited

namespace Edge

variable {ι : Type}

/-- The edge leads back to its own source. -/
def isLoop [BEq ι] (edge : Edge ι) : Bool :=
  edge.source == edge.target

/-- An edge with a text: the expression for a data dependency, nothing for a neighbour, and a
description for all others. -/
def ofText (source target : ι) (kind : EdgeKind) (text : Option String) : Edge ι :=
  match kind with
  | .sequential => ⟨source, target, kind, none, none⟩
  | .dataDependency => ⟨source, target, kind, text, none⟩
  | _ => ⟨source, target, kind, none, text⟩

/-- The text that is shown at an edge. -/
def label (edge : Edge ι) : Option String :=
  match edge.kind with
  | .sequential => none
  | .dataDependency => edge.dataRef
  | _ => edge.description

end Edge

/-- A flow graph. -/
structure FlowGraph (ι : Type := Nat) where
  /-- The id of the workflow. -/
  workflow : String
  /-- The nodes by number. -/
  nodes : List Node
  /-- The edges in the order of their addition. -/
  edges : List (Edge ι)
  /-- For each step the steps whose outputs it needs. -/
  dependencies : Groups
  /-- The number of the node of each step id, the latest first. -/
  index : List (String × Nat)
deriving Inhabited

namespace FlowGraph

variable {ι : Type}

/-- The graph without nodes. -/
def empty (workflow : String) : FlowGraph ι :=
  ⟨workflow, [], [], [], []⟩

/-- The number of nodes. -/
def size (graph : FlowGraph ι) : Nat :=
  graph.nodes.length

/-- Adds a node; its number is the size before. -/
def addNode (graph : FlowGraph ι) (node : Node) : FlowGraph ι :=
  { graph with
    nodes := graph.nodes ++ [node]
    index := (node.step, graph.size) :: graph.index }

/-- Adds an edge. -/
def addEdge (graph : FlowGraph ι) (edge : Edge ι) : FlowGraph ι :=
  { graph with edges := graph.edges ++ [edge] }

/-- The number of the node of a step id. -/
def nodeIndex? (graph : FlowGraph ι) (step : String) : Option Nat :=
  graph.index.lookup step

/-- The node of a step id. -/
def node? (graph : FlowGraph ι) (step : String) : Option Node :=
  (graph.nodeIndex? step).bind fun i => graph.nodes[i]?

/-- The step ids of the nodes. -/
def stepIds (graph : FlowGraph ι) : List String :=
  graph.nodes.map (·.step)

/-- The nodes that the edges of a node enter. -/
def successors [BEq ι] (graph : FlowGraph ι) (i : ι) : List ι :=
  (graph.edges.filter (·.source == i)).map (·.target)

/-- The nodes whose edges enter a node. -/
def predecessors [BEq ι] (graph : FlowGraph ι) (i : ι) : List ι :=
  (graph.edges.filter (·.target == i)).map (·.source)

/-- The edges of a kind. -/
def edgesOfKind (graph : FlowGraph ι) (kind : EdgeKind) : List (Edge ι) :=
  graph.edges.filter (·.kind == kind)

/-- The step id of a node. -/
def stepId (graph : FlowGraph ι) (i : Nat) : String :=
  (graph.nodes[i]?.map (·.step)).getD ""

/-- The nodes at both ends of an edge. -/
def ends (graph : FlowGraph) (edge : Edge) : Except Fault (Node × Node) :=
  match graph.nodes[edge.source]?, graph.nodes[edge.target]? with
  | some source, some target => .ok (source, target)
  | _, _ => .error .noSuchNode

/-- The graph in a few words. -/
def summary (graph : FlowGraph ι) : String :=
  let name := Text.quoted graph.workflow
  s!"FlowGraph({name}, nodes={graph.nodes.length}, edges={graph.edges.length})"

/-- A node that was just added is the node of its step id. -/
@[simp]
theorem nodeIndex?_addNode_self (graph : FlowGraph ι) (node : Node) :
    (graph.addNode node).nodeIndex? node.step = some graph.size := by
  simp [nodeIndex?, addNode]

end FlowGraph

end FlowCheck
