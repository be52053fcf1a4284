import FlowCheck.Graph
import FlowCheck.Value.Json

/-!
# Flow graphs as data

A mapping with the workflow id, the nodes, the edges by the step ids of their ends, and the
numbers of both.
-/

namespace FlowCheck.FlowGraph

/-- An entry under a text key. -/
def field (key : String) (value : Value) : Value × Value :=
  (.str key, value)

/-- The record of a node. -/
def nodeRecord (node : Node) : Value :=
  .map [field "id" (.str node.step), field "operationId" (.ofStr? node.operationId),
    field "operationPath" (.ofStr? node.operationPath), field "method" (.ofStr? node.method),
    field "description" node.description, field "hasOutputs" (.bool node.hasOutputs),
    field "hasSuccessCriteria" (.bool node.hasCriteria)]

/-- The record of an edge between two nodes. -/
def edgeRecord (edge : Edge) (source target : Node) : Value :=
  .map [field "source" (.str source.step), field "target" (.str target.step),
    field "edge_type" (.str edge.kind.name), field "dataRef" (.ofStr? edge.dataRef),
    field "description" (.ofStr? edge.description)]

/-- The graph as data. -/
def toRecord (graph : FlowGraph) : Except Fault Value := do
  let edges ← graph.edges.mapM fun edge => do
    let (source, target) ← graph.ends edge
    return edgeRecord edge source target
  return .map [field "workflowId" (.str graph.workflow),
    field "nodes" (.list (graph.nodes.map nodeRecord)), field "edges" (.list edges),
    field "stats" (.map [field "nodeCount" (.int graph.nodes.length),
      field "edgeCount" (.int graph.edges.length)])]

/-- The graph as JSON text. -/
def toJson (graph : FlowGraph) (indent : Value.Indent) : Except Fault String := do
  let record ← graph.toRecord
  record.json indent

end FlowCheck.FlowGraph
