import FlowCheck.Graph

/-!
# Cycles of a flow graph

The links of a flow graph are its edges without the loops. A search in depth along the links looks
for a cycle, and nodes that no link enters or leaves are listed.
-/

namespace FlowCheck.FlowGraph

/-- The edges that are not loops, as pairs of nodes. -/
def links (graph : FlowGraph) : List (Nat × Nat) :=
  (graph.edges.filter fun edge => !edge.isLoop).map fun edge => (edge.source, edge.target)

/-- The nodes that follow a node, in the order of the edges. -/
def next (links : List (Nat × Nat)) (i : Nat) : List Nat :=
  (links.filter (·.1 == i)).map Prod.snd

/-- The nodes of the cycle that closes when the path, latest node first, comes back to one of its
own nodes; the node at which it closes is the last. -/
def closing (path : List Nat) (node : Nat) : List Nat :=
  (path.takeWhile (· ≠ node)).reverse ++ [node]

/-- Visits a node and, in depth, all that follow it. `path` leads to the node, latest first, and
`done` holds the nodes from which no cycle is reached. The answer is the larger `done`, or a
cycle. -/
def visit (links : List (Nat × Nat)) :
    (depth : Nat) → (path done : List Nat) → (node : Nat) → Except (List Nat) (List Nat)
  | 0, _, done, _ => .ok done
  | depth + 1, path, done, node =>
    if path.contains node then .error (closing path node)
    else if done.contains node then .ok done
    else do
      -- the node is done only after all that follow it
      let done ← (next links node).foldlM (visit links depth (node :: path)) done
      return node :: done

/-- The nodes of a cycle, or none. Each node is taken as a start in turn. A path without
repetition has at most as many nodes as the graph, which bounds the depth. -/
def cycle? (graph : FlowGraph) : Option (List Nat) :=
  match (List.range graph.size).foldlM (visit graph.links (graph.size + 1) []) [] with
  | .ok _ => none
  | .error cycle => some cycle

/-- The nodes after the first one that no link enters. -/
def unreachable (graph : FlowGraph) : List Nat :=
  (List.range graph.size).filter fun i => i != 0 && !graph.links.any (·.2 == i)

/-- The nodes that no link leaves. -/
def deadEnds (graph : FlowGraph) : List Nat :=
  (List.range graph.size).filter fun i => !graph.links.any (·.1 == i)

/-- Both ends of every link are nodes. -/
def linksInRange (graph : FlowGraph) : Bool :=
  graph.links.all fun link => link.1 < graph.size && link.2 < graph.size

end FlowCheck.FlowGraph
