import FlowCheck.Graph
import Mathlib.Data.List.Nodup

/-!
# Nodes and their steps

A node has a number and the id of its step. All nodes by number are all step ids in their order, and
where the step ids are different a step id tells the number of its node.
-/

namespace FlowCheck.FlowGraph

variable {graph : FlowGraph} {i j : ℕ}

/-- The step ids by number. -/
theorem getElem?_stepIds (hi : i < graph.size) : graph.stepIds[i]? = some (graph.stepId i) := by
  have hnode : graph.nodes[i]? = some graph.nodes[i] := List.getElem?_eq_getElem hi
  simp [stepIds, stepId, hnode]

/-- The steps of a graph, node by node. -/
theorem map_stepId_range (graph : FlowGraph) :
    (List.range graph.size).map graph.stepId = graph.stepIds := by
  refine List.ext_getElem? fun i => ?_
  by_cases hi : i < graph.size
  · rw [getElem?_stepIds hi, List.getElem?_map, List.getElem?_range hi, Option.map_some]
  · have hnone : graph.stepIds[i]? = none := by simpa [stepIds, size] using hi
    simpa [hnone] using hi

/-- The id of a node is one of the step ids. -/
theorem stepId_mem_stepIds (hi : i < graph.size) : graph.stepId i ∈ graph.stepIds :=
  List.mem_of_getElem? (getElem?_stepIds hi)

/-- Where the step ids are different, only one node has the step of a node. -/
theorem eq_of_getElem?_stepIds (hids : graph.stepIds.Nodup) (hi : i < graph.size)
    (hj : graph.stepIds[j]? = some (graph.stepId i)) : i = j := by
  have hlen : i < graph.stepIds.length := by simpa [stepIds, size] using hi
  exact (List.getElem?_inj hlen hids).1 ((getElem?_stepIds hi).trans hj.symm)

/-- Where the step ids are different, a node is told by its step. -/
theorem stepId_inj (hids : graph.stepIds.Nodup) (hi : i < graph.size) (hj : j < graph.size)
    (heq : graph.stepId i = graph.stepId j) : i = j :=
  eq_of_getElem?_stepIds hids hi ((getElem?_stepIds hj).trans (congrArg some heq.symm))

end FlowCheck.FlowGraph
