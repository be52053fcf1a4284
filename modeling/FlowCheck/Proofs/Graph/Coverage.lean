import FlowCheck.Proofs.Graph.Agreement

/-!
# Where an acyclic graph starts and ends

The checks list the nodes after the first one that no link enters, and the nodes that no link
leaves. On an acyclic graph this is enough to know where all nodes are reached from and where they
lead to: every node is reached from the first one or from a listed one, and leads to a listed end.
-/

namespace FlowCheck.FlowGraph

open Relation

variable {graph : FlowGraph} {i : ℕ}

/-- The list holds the nodes after the first one that nothing leads to. -/
theorem mem_unreachable_iff :
    i ∈ graph.unreachable ↔ i < graph.size ∧ i ≠ 0 ∧ ∀ j, ¬ graph.Leads j i := by
  have hlinks : (graph.links.any fun link => link.2 == i) = false ↔ ∀ j, ¬ graph.Leads j i := by
    simp only [List.any_eq_false, beq_iff_eq, Prod.forall, ← linked_links]
    exact ⟨fun h j hlink => h j i hlink rfl, fun h a b hlink heq => h a (heq ▸ hlink)⟩
  simp [unreachable, hlinks]

/-- The list holds the nodes that lead nowhere. -/
theorem mem_deadEnds_iff : i ∈ graph.deadEnds ↔ i < graph.size ∧ ∀ j, ¬ graph.Leads i j := by
  have hlinks : (graph.links.any fun link => link.1 == i) = false ↔ ∀ j, ¬ graph.Leads i j := by
    simp only [List.any_eq_false, beq_iff_eq, Prod.forall, ← linked_links]
    exact ⟨fun h j hlink => h i j hlink rfl, fun h a b hlink heq => h b (heq ▸ hlink)⟩
  simp [deadEnds, hlinks]

/-- Every node is reached from the first one or from one that nothing leads to. -/
theorem exists_start (h : graph.InRange) (hacyclic : graph.Acyclic) (hi : i < graph.size) :
    ∃ start, (start = 0 ∨ start ∈ graph.unreachable) ∧ ReflTransGen graph.Leads start i := by
  have hlt (a b : ℕ) (hab : graph.Leads a b) : a < graph.size :=
    (below_links h a b (linked_links.2 hab)).1
  obtain ⟨start, hstart, hreach, hnone⟩ := exists_source_of_acyclic hacyclic hlt hi
  refine ⟨start, ?_, hreach⟩
  rw [mem_unreachable_iff]
  tauto

/-- Every node leads to one that leads nowhere. -/
theorem exists_deadEnd (h : graph.InRange) (hacyclic : graph.Acyclic) (hi : i < graph.size) :
    ∃ last ∈ graph.deadEnds, ReflTransGen graph.Leads i last := by
  -- the links read backwards form no cycle either, and what they start from are the ends
  have hback : ∀ i, ¬ TransGen (Function.swap graph.Leads) i i := by
    intro i hcycle
    exact hacyclic i (transGen_swap.1 hcycle)
  have hlt (a b : ℕ) (hab : Function.swap graph.Leads a b) : a < graph.size :=
    (below_links h b a (linked_links.2 hab)).2
  obtain ⟨last, hlast, hreach, hnone⟩ := exists_source_of_acyclic hback hlt hi
  exact ⟨last, mem_deadEnds_iff.2 ⟨hlast, hnone⟩, reflTransGen_swap.1 hreach⟩

/-- A listed node is reached from no other node. -/
theorem eq_of_reflTransGen_unreachable (hi : i ∈ graph.unreachable) {j : ℕ}
    (hji : ReflTransGen graph.Leads j i) : j = i := by
  rcases ReflTransGen.cases_tail hji with heq | ⟨k, -, hki⟩
  · exact heq.symm
  · exact absurd hki ((mem_unreachable_iff.1 hi).2.2 k)

/-- A listed end leads to no other node. -/
theorem eq_of_deadEnd_reflTransGen (hi : i ∈ graph.deadEnds) {j : ℕ}
    (hij : ReflTransGen graph.Leads i j) : j = i := by
  rcases ReflTransGen.cases_head hij with heq | ⟨k, hik, -⟩
  · exact heq.symm
  · exact absurd hik ((mem_deadEnds_iff.1 hi).2 k)

/-- On an acyclic graph in range every node is reached from the first one or from a node that is
listed as not reachable, and leads to a node that is listed as an end. No listed node could be left
out, since it is reached from no other node, and a listed end leads to no other node. In particular
no node is listed as not reachable exactly when all nodes are reached from the first one. -/
theorem checks_cover (h : graph.InRange) (hacyclic : graph.Acyclic) :
    ∃ checks, graph.checks = .ok checks ∧
      checks.unreachable = graph.unreachable.map graph.stepId ∧
      checks.deadEnds = graph.deadEnds.map graph.stepId ∧
      (∀ i < graph.size, ∃ start,
        (start = 0 ∨ start ∈ graph.unreachable) ∧ ReflTransGen graph.Leads start i) ∧
      (∀ i < graph.size, ∃ last ∈ graph.deadEnds, ReflTransGen graph.Leads i last) ∧
      (∀ i ∈ graph.unreachable, ∀ j, ReflTransGen graph.Leads j i → j = i) ∧
      (∀ i ∈ graph.deadEnds, ∀ j, ReflTransGen graph.Leads i j → j = i) ∧
      (checks.unreachable = [] ↔ ∀ i < graph.size, ReflTransGen graph.Leads 0 i) := by
  refine ⟨_, checks_of_inRange h, rfl, rfl, fun i hi => exists_start h hacyclic hi,
    fun i hi => exists_deadEnd h hacyclic hi,
    fun i hi j hji => eq_of_reflTransGen_unreachable hi hji,
    fun i hi j hij => eq_of_deadEnd_reflTransGen hi hij, ?_⟩
  rw [List.map_eq_nil_iff]
  constructor
  · intro hnone i hi
    obtain ⟨start, rfl | hstart, hreach⟩ := exists_start h hacyclic hi
    · exact hreach
    · simp [hnone] at hstart
  · intro hall
    refine List.eq_nil_iff_forall_not_mem.2 fun i hi => ?_
    obtain ⟨hlt, hne, -⟩ := mem_unreachable_iff.1 hi
    exact hne (eq_of_reflTransGen_unreachable hi (hall i hlt)).symm

/-- Five steps: two ways lead to the fourth, and the fifth stands alone with a loop. -/
def delta : FlowGraph where
  workflow := "w"
  nodes := ["a", "b", "c", "d", "e"].map fun id => { (default : Node) with step := id }
  edges := [Edge.ofText 0 1 .sequential none, Edge.ofText 1 3 .onSuccess none,
    Edge.ofText 2 3 .sequential none, Edge.ofText 2 3 .onFailure none,
    Edge.ofText 4 4 .conditional none]
  dependencies := []
  index := [("e", 4), ("d", 3), ("c", 2), ("b", 1), ("a", 0)]

/-- Its steps are reached from the first, the third and the fifth, and lead to the fourth and the
fifth. -/
theorem checks_delta :
    delta.InRange ∧ delta.Acyclic ∧
      ∃ checks, delta.checks = .ok checks ∧ checks.unreachable = ["c", "e"] ∧
        checks.deadEnds = ["d", "e"] ∧
        ∀ i < 5, (∃ start, (start = 0 ∨ start ∈ [2, 4]) ∧ ReflTransGen delta.Leads start i) ∧
          ∃ last ∈ [3, 4], ReflTransGen delta.Leads i last := by
  have hrange : delta.InRange := by
    simp [InRange, delta, size, Edge.ofText]
  have hacyclic : delta.Acyclic :=
    (exists_order_iff (below_links hrange)).1 ⟨[0, 1, 2, 3, 4], rfl⟩
  obtain ⟨checks, hchecks, hunreachable, hdeadEnds, hstart, hlast, -⟩ :=
    checks_cover hrange hacyclic
  exact ⟨hrange, hacyclic, checks, hchecks, hunreachable, hdeadEnds,
    fun i hi => ⟨hstart i hi, hlast i hi⟩⟩

end FlowCheck.FlowGraph
