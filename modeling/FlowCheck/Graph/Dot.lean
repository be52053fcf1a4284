import FlowCheck.Graph

/-!
# Flow graphs as DOT

One statement a line, nodes before edges. Texts stand between double quotes; inside them quotes
and backslashes are escaped.
-/

namespace FlowCheck

/-- A character inside a quoted text. -/
def FlowGraph.dotChar (c : Char) : List Char :=
  if c = '\\' || c = '"' then ['\\', c] else [c]

/-- A text as it stands between quotes. -/
def FlowGraph.dotEscape (text : String) : String :=
  String.ofList (text.toList.flatMap FlowGraph.dotChar)

/-- The lines of the label of a node: the step id, the operation id and the method. -/
def Node.labelParts (node : Node) : List String :=
  let operation := (node.operationId.filter (· != "")).toList
  let method := (node.method.filter (· != "")).toList
  node.step :: operation ++ method.map fun name => "[" ++ name ++ "]"

/-- The colour of the frame of a node. -/
def Node.color (node : Node) : String :=
  if node.hasCriteria then "orange" else if node.hasOutputs then "blue" else "black"

/-- The colour with which a node is filled. -/
def Node.fill (node : Node) : String :=
  if node.hasCriteria then "lightyellow" else if node.hasOutputs then "lightblue" else "lightgray"

/-- The line style and the colour of an edge. -/
def EdgeKind.dotStyle : EdgeKind → String × String
  | .sequential => ("solid", "black")
  | .conditional => ("dashed", "orange")
  | .dataDependency => ("dotted", "blue")
  | .onSuccess => ("solid", "green")
  | .onFailure => ("solid", "red")

namespace FlowGraph

/-- The statement of a node. -/
def dotNode (node : Node) : String :=
  let label := String.intercalate "\\n" (node.labelParts.map dotEscape)
  "  \"" ++ dotEscape node.step ++ "\" [label=\"" ++ label ++ "\", color=\"" ++ node.color ++
    "\", fillcolor=\"" ++ node.fill ++ "\", style=\"rounded,filled\"];"

/-- The statement of an edge between two nodes. -/
def dotEdge (edge : Edge) (source target : Node) : String :=
  let (style, color) := edge.kind.dotStyle
  "  \"" ++ dotEscape source.step ++ "\" -> \"" ++ dotEscape target.step ++ "\" [style=\"" ++
    style ++ "\", color=\"" ++ color ++ "\", label=\"" ++ dotEscape (edge.label.getD "") ++ "\"];"

/-- The graph as DOT. -/
def toDot (graph : FlowGraph) : Except Fault String := do
  let edges ← graph.edges.mapM fun edge => do
    let (source, target) ← graph.ends edge
    return dotEdge edge source target
  let lines :=
    ["digraph \"" ++ dotEscape graph.workflow ++ "\" \x7b", "  rankdir=LR;",
      "  node [shape=box, style=rounded];", ""] ++
    graph.nodes.map dotNode ++ [""] ++ edges ++ ["\x7d"]
  return String.intercalate "\n" lines ++ "\n"

end FlowGraph

end FlowCheck
