import FlowCheck.Graph
import Mathlib.Data.List.Basic
import Mathlib.Order.Bounds.Basic

/-!
# Graphs that are built by additions

Nodes and edges are added to a graph one after the other, in any order: step ids may repeat, edges
may be parallel, and what they lead to may be no number of a node, nor a natural number at all. The
graph keeps an index beside its nodes. One addition keeps index and nodes in agreement
(`IsIndexed.applyTo`), and so does every run of additions. The nodes that were there keep their
numbers, and the edges are seen alike from both of their ends (`ofAdditions_indexed`).

## Main definitions

* `FlowGraph.ofAdditions`: the graph to which additions lead;
* `FlowGraph.numbersOf`: the numbers of the nodes of a step;
* `FlowGraph.IsIndexed`: the index leads to the last node of each step.
-/

namespace FlowCheck.FlowGraph

variable {ι : Type}

/-- What is added to a graph. -/
inductive Addition (ι : Type) where
  /-- A node. -/
  | node (node : Node)
  /-- An edge, whether there are nodes at its ends or not. -/
  | edge (edge : Edge ι)

/-- The node that is added. -/
def Addition.node? : Addition ι → Option Node
  | .node added => some added
  | .edge _ => none

/-- The edge that is added. -/
def Addition.edge? : Addition ι → Option (Edge ι)
  | .node _ => none
  | .edge added => some added

/-- The graph after an addition. -/
def Addition.applyTo (graph : FlowGraph ι) : Addition ι → FlowGraph ι
  | .node added => graph.addNode added
  | .edge added => graph.addEdge added

/-- The graph after a run of additions. -/
def addAll (graph : FlowGraph ι) (additions : List (Addition ι)) : FlowGraph ι :=
  additions.foldl Addition.applyTo graph

/-- The graph to which additions lead, starting from no nodes. -/
def ofAdditions (workflow : String) (additions : List (Addition ι)) : FlowGraph ι :=
  (empty workflow).addAll additions

/-- The numbers of the nodes of a step. -/
def numbersOf (graph : FlowGraph ι) (step : String) : Set ℕ :=
  {i | ∃ node, graph.nodes[i]? = some node ∧ node.step = step}

/-- The index leads from the id of each step to the last one of its nodes, and from other ids
nowhere. -/
structure IsIndexed (graph : FlowGraph ι) : Prop where
  eq_some_iff : ∀ step i, graph.nodeIndex? step = some i ↔ IsGreatest (graph.numbersOf step) i
  eq_none_iff : ∀ step, graph.nodeIndex? step = none ↔ graph.numbersOf step = ∅

variable {graph : FlowGraph ι} {step : String} {i j : ℕ}

/-! ## One addition -/

/-- All numbers of nodes are below the number of a new one. -/
theorem lt_size_of_mem_numbersOf (h : i ∈ graph.numbersOf step) : i < graph.size := by
  obtain ⟨node, hnode, -⟩ := h
  exact (List.getElem?_eq_some_iff.1 hnode).1

/-- A new node has the next number; all others keep theirs. -/
theorem mem_numbersOf_addNode {node : Node} :
    i ∈ (graph.addNode node).numbersOf step ↔
      i ∈ graph.numbersOf step ∨ i = graph.size ∧ node.step = step := by
  have hnodes : (graph.addNode node).nodes = graph.nodes ++ [node] := rfl
  rw [numbersOf, Set.mem_ofPred_eq, hnodes]
  constructor
  · rintro ⟨found, hfound, rfl⟩
    rw [List.getElem?_append] at hfound
    split at hfound
    · exact .inl ⟨found, hfound, rfl⟩
    · next hle =>
      obtain ⟨hzero, rfl⟩ : i - graph.nodes.length = 0 ∧ node = found := by
        simpa [List.getElem?_singleton] using hfound
      exact .inr ⟨by rw [size]; omega, rfl⟩
  · rintro (⟨found, hfound, rfl⟩ | ⟨rfl, rfl⟩)
    · have hlt := (List.getElem?_eq_some_iff.1 hfound).1
      exact ⟨found, by rw [List.getElem?_append_left hlt, hfound], rfl⟩
    · exact ⟨node, List.getElem?_concat_length, rfl⟩

/-- The other steps have the same nodes as before. -/
theorem numbersOf_addNode_of_ne {node : Node} (h : node.step ≠ step) :
    (graph.addNode node).numbersOf step = graph.numbersOf step := by
  ext i
  simp [mem_numbersOf_addNode, h]

/-- The index leads to a new node from its step, and from all other steps as before. -/
theorem nodeIndex?_addNode (graph : FlowGraph ι) (node : Node) (step : String) :
    (graph.addNode node).nodeIndex? step =
      if node.step = step then some graph.size else graph.nodeIndex? step := by
  split
  · next h => rw [← h, nodeIndex?_addNode_self]
  · next h =>
    have hne : (step == node.step) = false := beq_eq_false_iff_ne.2 (Ne.symm h)
    rw [nodeIndex?, addNode, List.lookup_cons, hne]
    rfl

/-- A graph without nodes has an empty index. -/
theorem isIndexed_empty (workflow : String) : (empty workflow : FlowGraph ι).IsIndexed where
  eq_some_iff step i := by simp [empty, nodeIndex?, numbersOf, IsGreatest]
  eq_none_iff step := by simp [empty, nodeIndex?, numbersOf]

/-- A new node becomes the last one of its step. -/
theorem IsIndexed.addNode (h : graph.IsIndexed) (node : Node) : (graph.addNode node).IsIndexed := by
  -- nothing changes for any step but that of the new node
  refine ⟨fun step i => ?_, fun step => ?_⟩ <;> by_cases hstep : node.step = step
  · have hgreatest : IsGreatest ((graph.addNode node).numbersOf step) graph.size := by
      refine ⟨mem_numbersOf_addNode.2 (.inr ⟨rfl, hstep⟩), fun j hj => ?_⟩
      obtain hold | ⟨rfl, -⟩ := mem_numbersOf_addNode.1 hj
      · exact (lt_size_of_mem_numbersOf hold).le
      · exact le_rfl
    rw [nodeIndex?_addNode, if_pos hstep, Option.some_inj]
    exact ⟨fun heq => heq ▸ hgreatest, fun hi => hgreatest.unique hi⟩
  · rw [nodeIndex?_addNode, if_neg hstep, numbersOf_addNode_of_ne hstep]
    exact h.eq_some_iff step i
  · have hnew : graph.size ∈ (graph.addNode node).numbersOf step :=
      mem_numbersOf_addNode.2 (.inr ⟨rfl, hstep⟩)
    rw [nodeIndex?_addNode, if_pos hstep]
    exact iff_of_false nofun (Set.Nonempty.ne_empty ⟨_, hnew⟩)
  · rw [nodeIndex?_addNode, if_neg hstep, numbersOf_addNode_of_ne hstep]
    exact h.eq_none_iff step

/-- One addition keeps the index in agreement with the nodes. -/
theorem IsIndexed.applyTo (h : graph.IsIndexed) (addition : Addition ι) :
    (addition.applyTo graph).IsIndexed := by
  cases addition with
  | node added => exact h.addNode added
  | edge added =>
    -- neither the index nor the nodes are touched
    exact ⟨h.eq_some_iff, h.eq_none_iff⟩

/-- The index leads to nodes, and each of them has the step id that was looked up. -/
theorem IsIndexed.map_node? (h : graph.IsIndexed) (step : String) :
    (graph.node? step).map (·.step) = (graph.nodeIndex? step).map fun _ => step := by
  cases hindex : graph.nodeIndex? step with
  | none => rw [node?, hindex]; rfl
  | some i =>
    obtain ⟨⟨node, hnode, rfl⟩, -⟩ := (h.eq_some_iff step i).1 hindex
    rw [node?, hindex, Option.bind_some, hnode]
    rfl

/-! ## Runs of additions -/

/-- A run of additions keeps the index in agreement with the nodes. -/
theorem IsIndexed.addAll (h : graph.IsIndexed) (additions : List (Addition ι)) :
    (graph.addAll additions).IsIndexed := by
  induction additions generalizing graph with
  | nil => exact h
  | cons addition rest ih => exact ih (h.applyTo addition)

/-- Where one addition puts what it adds at the end of a list, a run of additions does so with all
that it adds. -/
theorem addAll_append {α : Type} {items : FlowGraph ι → List α} {added? : Addition ι → Option α}
    (h : ∀ graph addition,
      items (addition.applyTo graph) = items graph ++ (added? addition).toList)
    (graph : FlowGraph ι) (additions : List (Addition ι)) :
    items (graph.addAll additions) = items graph ++ additions.filterMap added? := by
  rw [List.filterMap_eq_flatMap_toList]
  induction additions generalizing graph with
  | nil => exact (List.append_nil _).symm
  | cons addition rest ih =>
    rw [List.flatMap_cons, ← List.append_assoc, ← h]
    exact ih (addition.applyTo graph)

/-- Nodes that are added come after those that were there, in their order. -/
theorem nodes_addAll (graph : FlowGraph ι) (additions : List (Addition ι)) :
    (graph.addAll additions).nodes = graph.nodes ++ additions.filterMap Addition.node? := by
  refine addAll_append (fun graph addition => ?_) graph additions
  cases addition with
  | node added => rfl
  | edge added => exact (List.append_nil _).symm

/-- Edges that are added come after those that were there, in their order. -/
theorem edges_addAll (graph : FlowGraph ι) (additions : List (Addition ι)) :
    (graph.addAll additions).edges = graph.edges ++ additions.filterMap Addition.edge? := by
  refine addAll_append (fun graph addition => ?_) graph additions
  cases addition with
  | node added => exact (List.append_nil _).symm
  | edge added => rfl

/-! ## Both ends of the edges -/

/-- A node follows another as often as there are edges from the one to the other. -/
theorem count_successors [DecidableEq ι] (graph : FlowGraph ι) (i j : ι) :
    (graph.successors i).count j =
      (graph.edges.map fun edge => (edge.source, edge.target)).count (i, j) := by
  rw [successors, List.count, List.count, List.countP_map, List.countP_map, List.countP_filter]
  refine List.countP_congr fun edge _ => ?_
  simp [and_comm]

/-- A node comes before another as often as there are edges from the one to the other. -/
theorem count_predecessors [DecidableEq ι] (graph : FlowGraph ι) (i j : ι) :
    (graph.predecessors j).count i =
      (graph.edges.map fun edge => (edge.source, edge.target)).count (i, j) := by
  rw [predecessors, List.count, List.count, List.countP_map, List.countP_map, List.countP_filter]
  refine List.countP_congr fun edge _ => ?_
  simp

/-- Whatever is added to a graph, its nodes and its edges are those that were added, in the order of
their addition. The index leads from a step id to the largest number of a node with that id, and
nowhere exactly if there is none; the node that is found has the step id that was looked up. A node
keeps its number, which is the number of nodes before it, whatever is added later. Of any two things
that edges may lead to, numbers of nodes or not, the second follows the first, and the first comes
before the second, as often as there is an edge from the one to the other. -/
theorem ofAdditions_indexed [DecidableEq ι] (workflow : String) (additions : List (Addition ι)) :
    let graph := ofAdditions workflow additions
    graph.nodes = additions.filterMap Addition.node? ∧
      graph.edges = additions.filterMap Addition.edge? ∧
      (∀ step i, graph.nodeIndex? step = some i ↔ IsGreatest (graph.numbersOf step) i) ∧
      (∀ step, graph.nodeIndex? step = none ↔ graph.numbersOf step = ∅) ∧
      (∀ step, (graph.node? step).map (·.step) = (graph.nodeIndex? step).map fun _ => step) ∧
      (∀ node later, (ofAdditions workflow (additions ++ .node node :: later)).nodes[graph.size]? =
        some node) ∧
      (∀ later, graph.nodes <+: (ofAdditions workflow (additions ++ later)).nodes) ∧
      ∀ i j, (graph.successors i).count j =
          (graph.edges.map fun edge => (edge.source, edge.target)).count (i, j) ∧
        (graph.predecessors j).count i =
          (graph.edges.map fun edge => (edge.source, edge.target)).count (i, j) := by
  intro graph
  have hindexed : graph.IsIndexed := (isIndexed_empty workflow).addAll additions
  -- what is added later stands behind what is there
  have hnodes (more : List (Addition ι)) : (ofAdditions workflow (additions ++ more)).nodes =
      graph.nodes ++ more.filterMap Addition.node? := by
    rw [ofAdditions, addAll, List.foldl_append]
    exact nodes_addAll graph more
  refine ⟨nodes_addAll (empty workflow) additions, edges_addAll (empty workflow) additions,
    hindexed.eq_some_iff, hindexed.eq_none_iff, hindexed.map_node?, fun node later => ?_,
    fun later => ?_, fun i j => ⟨graph.count_successors i j, graph.count_predecessors i j⟩⟩
  · rw [hnodes, size, List.getElem?_append_right le_rfl, Nat.sub_self]
    rfl
  · rw [hnodes]
    exact List.prefix_append _ _

/-- A step id that is added again leads to the new node. Parallel edges to a node that is not there
are all kept. -/
example :
    let node (step : String) : Addition ℤ := .node { (default : Node) with step }
    let edge : Addition ℤ := .edge ⟨-1, 7, .sequential, none, none⟩
    let graph := ofAdditions "w" [node "a", edge, node "b", node "a", edge]
    graph.nodeIndex? "a" = some 2 ∧ graph.nodeIndex? "c" = none ∧ graph.successors (-1) = [7, 7] ∧
      graph.predecessors 7 = [-1, -1] := by decide

end FlowCheck.FlowGraph
