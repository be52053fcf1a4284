import FlowCheck.Graph.Cycle

/-!
# The order of a flow graph

The nodes are put in order one by one. A count of the links that still enter each node tells which
nodes are ready: those that no link enters any more. The smallest of them goes next, and the links
that leave it no longer count. Parallel links count one by one.
-/

namespace FlowCheck.FlowGraph

/-- How far the nodes are put in order. -/
structure Sorting where
  /-- The number of links that still enter each node. -/
  entering : List Nat
  /-- The nodes that no link enters any more and that wait for their place. -/
  ready : List Nat
  /-- The nodes that have their place, in order. -/
  placed : List Nat
deriving Inhabited

namespace Sorting

/-- The state in which no node has its place. -/
def start (links : List (Nat × Nat)) (size : Nat) : Sorting :=
  let entering := (List.range size).map fun i => links.countP (·.2 == i)
  { entering
    ready := (List.range size).filter fun i => entering[i]? == some 0
    placed := [] }

/-- Takes away a link that enters a node. The node is ready when that link was the last. -/
def release (state : Sorting) (i : Nat) : Sorting :=
  { state with
    entering := state.entering.modify i (· - 1)
    -- the count was one before, so it is zero now
    ready := if state.entering[i]? = some 1 then state.ready ++ [i] else state.ready }

/-- Puts a node in its place and takes away the links that leave it. -/
def place (links : List (Nat × Nat)) (state : Sorting) (i : Nat) : Sorting :=
  (next links i).foldl release
    { state with ready := state.ready.erase i, placed := state.placed ++ [i] }

/-- Puts the smallest ready node in its place, if there is one. -/
def step (links : List (Nat × Nat)) (state : Sorting) : Sorting :=
  match state.ready.min? with
  | none => state
  | some i => state.place links i

/-- Takes a number of steps. -/
def run (links : List (Nat × Nat)) : (steps : Nat) → Sorting → Sorting
  | 0, state => state
  | steps + 1, state => run links steps (state.step links)

end Sorting

/-- The state in which no node is ready any more. Every step puts one node in its place, so there
are at most as many steps as nodes. -/
def sorted (graph : FlowGraph) : Sorting :=
  (Sorting.start graph.links graph.size).run graph.links graph.size

/-- The nodes in an order in which every link leads forward, or the first node that a link still
enters in the end. -/
def order (graph : FlowGraph) : Except Nat (List Nat) :=
  match graph.sorted.entering.findIdx? (· != 0) with
  | none => .ok graph.sorted.placed
  | some stuck => .error stuck

end FlowCheck.FlowGraph
