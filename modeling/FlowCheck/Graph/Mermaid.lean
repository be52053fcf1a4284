import FlowCheck.Graph.Dot

/-!
# Flow graphs as Mermaid flowcharts

A header, one line for each node, an empty line, and one line for each edge. The ids of nodes are
made of letters, digits and underscores, avoid the words of the flowchart grammar and are distinct.
-/

namespace FlowCheck

/-- The shape of the arrow of an edge. -/
def EdgeKind.arrow : EdgeKind → String
  | .sequential => "-->"
  | .conditional => "-.->"
  | .dataDependency => "==>"
  | .onSuccess => "==>"
  | .onFailure => "-.->"

namespace FlowGraph

/-- The words of the flowchart grammar. -/
def reservedWords : List String :=
  ["end", "graph", "subgraph", "flowchart", "style", "class", "classdef", "click", "linkstyle",
    "default", "direction"]

/-- A character of a node id. -/
def isIdChar (c : Char) : Bool :=
  ('A' ≤ c && c ≤ 'Z') || ('a' ≤ c && c ≤ 'z') || ('0' ≤ c && c ≤ '9') || c == '_'

/-- A text with underscores in place of the characters that node ids cannot have. -/
def idBase (text : String) : String :=
  let chars := text.toList.map fun c => if isIdChar c then c else '_'
  let base := if chars.isEmpty then ['_'] else chars
  if reservedWords.contains (String.ofList (base.map Char.toLower)) then
    "step_" ++ String.ofList base
  else String.ofList base

/-- The id that is tried first, then the same with numbers from 2 on. -/
def idVariant (base : String) : Nat → String
  | 0 => base
  | k + 1 => s!"{base}_{k + 2}"

/-- The first variant that is not taken. One of as many variants as there are taken ids and one
more is free. -/
def freeId (taken : List String) (base : String) : String :=
  (((List.range (taken.length + 1)).map (idVariant base)).find? fun id =>
    !taken.contains id).getD base

/-- The ids of nodes by step id, latest first, after those that are there already. -/
def assignIds : List (String × String) → List String → List (String × String)
  | table, [] => table
  | table, step :: rest =>
    assignIds ((step, freeId (table.map Prod.snd) (idBase step)) :: table) rest

/-- The node id of a step. -/
def mermaidId (table : List (String × String)) (step : String) : String :=
  (table.lookup step).getD ""

/-- A character of a label. -/
def mermaidChar (c : Char) : List Char :=
  if c = '"' then "#quot;".toList else if c = '|' then "#124;".toList else [c]

/-- A text as it stands in a label. -/
def mermaidText (text : String) : String :=
  String.ofList (text.toList.flatMap mermaidChar)

/-- The line of a node. -/
def mermaidNode (table : List (String × String)) (node : Node) : String :=
  let label := mermaidText (String.intercalate "<br/>" node.labelParts)
  let shape :=
    if node.hasCriteria then "(\"" ++ label ++ "\")"
    else if node.hasOutputs then "([\"" ++ label ++ "\"])"
    else "[\"" ++ label ++ "\"]"
  "  " ++ mermaidId table node.step ++ shape

/-- The line of an edge between two nodes. -/
def mermaidEdge (table : List (String × String)) (edge : Edge) (source target : Node) : String :=
  let label :=
    match edge.label.getD "" with
    | "" => ""
    | text => "|" ++ mermaidText text ++ "|"
  "  " ++ mermaidId table source.step ++ " " ++ edge.kind.arrow ++ label ++ " " ++
    mermaidId table target.step

/-- The graph as a Mermaid flowchart. -/
def toMermaid (graph : FlowGraph) : Except Fault String := do
  let table := assignIds [] graph.stepIds
  let edges ← graph.edges.mapM fun edge => do
    let (source, target) ← graph.ends edge
    return mermaidEdge table edge source target
  let lines := ["flowchart LR"] ++ graph.nodes.map (mermaidNode table) ++ [""] ++ edges
  return String.intercalate "\n" lines ++ "\n"

end FlowGraph

end FlowCheck
