import FlowCheck.Proofs.Graph.Agreement
import FlowCheck.Proofs.Graph.StepIds

/-!
# Cycles of steps

The search works on the numbers of nodes and answers with step ids. On a graph whose steps have
different ids a cycle that it answers is one of steps (`IsStepCycle`), and where it answers none no
closed walk visits two nodes. The bound on its depth has no part in this: the search has one course,
on which no node is entered twice, and takes it under every bound that is greater than the number of
nodes (`checks_cycle_exact`).
-/

namespace FlowCheck.FlowGraph

open Relation

/-- The walk leads from each of its items to the next one, and from the last one to the first. -/
def IsClosedWalk {α : Type} (r : α → α → Prop) (walk : List α) : Prop :=
  ∃ start last, walk = start ++ [last] ∧ (last :: walk).IsChain r

/-- An edge, maybe a loop, leads from the first node to the second. -/
def Joins (graph : FlowGraph) (i j : ℕ) : Prop :=
  ∃ edge ∈ graph.edges, edge.source = i ∧ edge.target = j

/-- An edge that is not a loop leads from the first step to the second. -/
def StepLeads (graph : FlowGraph) (a b : String) : Prop :=
  ∃ edge ∈ graph.edges, edge.source ≠ edge.target ∧
    graph.nodes[edge.source]?.map (·.step) = some a ∧
    graph.nodes[edge.target]?.map (·.step) = some b

/-- The steps form a cycle of the graph. -/
structure IsStepCycle (graph : FlowGraph) (steps : List String) : Prop where
  /-- There are at least two of them. -/
  two_le_length : 2 ≤ steps.length
  /-- None of them occurs twice. -/
  nodup : steps.Nodup
  /-- From each of them an edge leads to the next one, and from the last one to the first. -/
  closed : IsClosedWalk graph.StepLeads steps

variable {graph : FlowGraph}

/-! ## Walks -/

/-- On a closed walk every item is reached from every item. -/
theorem IsClosedWalk.reflTransGen {α : Type} {r : α → α → Prop} {walk : List α}
    (h : IsClosedWalk r walk) {a b : α} (ha : a ∈ walk) (hb : b ∈ walk) : ReflTransGen r a b := by
  obtain ⟨start, last, rfl, hchain⟩ := h
  -- every item leads to all that come after it, and the walk starts and ends with the same item
  have hpairs : (last :: (start ++ [last])).Pairwise (ReflTransGen r) :=
    (hchain.imp fun _ _ => ReflTransGen.single).pairwise
  obtain ⟨hfirst, hrest⟩ := List.pairwise_cons.1 hpairs
  have hlast : ReflTransGen r a last := by
    rcases List.mem_append.1 ha with ha | ha
    · exact (List.pairwise_append.1 hrest).2.2 a ha last (List.mem_singleton_self last)
    · rw [List.mem_singleton.1 ha]
  exact hlast.trans (hfirst b hb)

/-- What is reached along edges is reached without loops. -/
theorem reflTransGen_leads {i j : ℕ} (h : ReflTransGen graph.Joins i j) :
    ReflTransGen graph.Leads i j := by
  induction h with
  | refl => exact .refl
  | @tail j k _ hedge ih =>
    by_cases hloop : j = k
    · exact hloop ▸ ih
    · exact ih.tail ⟨hloop, hedge⟩

/-- On an acyclic graph a closed walk stays at one node. -/
theorem Acyclic.eq_of_mem_closedWalk (h : graph.Acyclic) {walk : List ℕ}
    (hwalk : IsClosedWalk graph.Joins walk) {i j : ℕ} (hi : i ∈ walk) (hj : j ∈ walk) : i = j := by
  rcases reflTransGen_iff_eq_or_transGen.1 (reflTransGen_leads (hwalk.reflTransGen hi hj)) with
    heq | hthere
  · exact heq.symm
  · exact absurd (hthere.trans_left (reflTransGen_leads (hwalk.reflTransGen hj hi))) (h i)

/-! ## Cycles of nodes and of steps -/

/-- A link leads from the step of the one node to that of the other. -/
theorem stepLeads_of_leads (h : graph.InRange) {i j : ℕ} (hij : graph.Leads i j) :
    graph.StepLeads (graph.stepId i) (graph.stepId j) := by
  obtain ⟨hne, edge, hedge, rfl, rfl⟩ := hij
  obtain ⟨hsource, htarget⟩ := h edge hedge
  refine ⟨edge, hedge, hne, ?_, ?_⟩
  · simpa [stepIds] using getElem?_stepIds hsource
  · simpa [stepIds] using getElem?_stepIds htarget

/-- A cycle of nodes has at least two nodes, since no link is a loop. -/
theorem IsCycle.two_le_length {cycle : List ℕ} (h : IsCycle graph.links cycle) :
    2 ≤ cycle.length := by
  obtain ⟨start, last, rfl, hchain⟩ := h.closed
  cases start with
  | nil =>
    have hlink : Linked graph.links last last := by simpa using hchain
    exact absurd rfl (linked_links.1 hlink).1
  | cons first rest => simp

/-- The steps of a cycle of nodes form a cycle. -/
theorem IsCycle.isStepCycle (h : graph.InRange) (hids : graph.stepIds.Nodup) {cycle : List ℕ}
    (hcycle : IsCycle graph.links cycle) : graph.IsStepCycle (cycle.map graph.stepId) := by
  have hlt := hcycle.lt_size (below_links h)
  constructor
  · simpa using hcycle.two_le_length
  · exact hcycle.nodup.map_on fun i hi j hj heq => stepId_inj hids (hlt i hi) (hlt j hj) heq
  · obtain ⟨start, last, rfl, hchain⟩ := hcycle.closed
    refine ⟨start.map graph.stepId, graph.stepId last, by simp, ?_⟩
    rw [← List.map_cons, List.isChain_map]
    exact hchain.imp fun i j hlink => stepLeads_of_leads h (linked_links.1 hlink)

/-! ## The answer of the search -/

/-- On a graph in range whose steps have different ids the search answers a cycle of steps, or no
closed walk visits two nodes. It has one course, on which no node is entered twice, and this is what
it does under every bound greater than the number of nodes. -/
theorem checks_cycle_exact (h : graph.InRange) (hids : graph.stepIds.Nodup) :
    ∃ checks, graph.checks = .ok checks ∧
      (∀ steps, checks.cycle = some steps → graph.IsStepCycle steps) ∧
      (checks.cycle = none → ∀ walk, IsClosedWalk graph.Joins walk →
        ∀ i ∈ walk, ∀ j ∈ walk, i = j) ∧
      ∃ entered result,
        (∀ others other, Course graph.links [] [] (List.range graph.size) others other ↔
          others = entered ∧ other = result) ∧
        (∀ depth, graph.size < depth →
          (List.range graph.size).foldlM (visit graph.links depth []) [] = result) ∧
        entered.Nodup ∧ (∀ i ∈ entered, i < graph.size) ∧
        checks.cycle = match result with
          | .ok _ => none
          | .error cycle => some (cycle.map graph.stepId) := by
  have hlinks := below_links h
  refine ⟨_, checks_of_inRange h, ?_, ?_, ?_⟩
  · intro steps hsteps
    obtain ⟨cycle, hcycle, rfl⟩ := Option.map_eq_some_iff.1 hsteps
    exact (isCycle_of_cycle?_eq_some hlinks hcycle).isStepCycle h hids
  · intro hnone walk hwalk i hi j hj
    have hacyclic := (cycle?_eq_none_iff hlinks).1 (Option.map_eq_none_iff.1 hnone)
    exact hacyclic.eq_of_mem_closedWalk hwalk hi hj
  · obtain ⟨entered, hcourse⟩ := exists_course_search hlinks (Nat.lt_succ_self graph.size)
    refine ⟨entered, _, fun others other => ⟨hcourse.unique, ?_⟩, fun depth hdepth => ?_,
      hcourse.nodup.1, hcourse.lt_size hlinks fun i hi => List.mem_range.1 hi, ?_⟩
    · rintro ⟨rfl, rfl⟩
      exact hcourse
    · -- under another bound the search takes a course too, and there is only one
      obtain ⟨others, hother⟩ := exists_course_search hlinks hdepth
      exact (hcourse.unique hother).2
    · simp only [cycle?]
      split <;> rename_i hfold <;> simp [hfold]

/-- Four steps: the second and the third go on at each other, the third by two edges and with a
loop. -/
def pingPong : FlowGraph where
  workflow := "w"
  nodes := ["a", "b", "c", "d"].map fun id => { (default : Node) with step := id }
  edges := [Edge.ofText 0 1 .sequential none, Edge.ofText 1 2 .sequential none,
    Edge.ofText 2 2 .conditional none, Edge.ofText 2 1 .onSuccess none,
    Edge.ofText 2 1 .onFailure none, Edge.ofText 2 3 .onFailure none]
  dependencies := []
  index := [("d", 3), ("c", 2), ("b", 1), ("a", 0)]

/-- The search finds the cycle of the two steps after it has entered three nodes. -/
theorem checks_pingPong :
    pingPong.InRange ∧ pingPong.stepIds.Nodup ∧
      ∃ checks, pingPong.checks = .ok checks ∧ checks.cycle = some ["c", "b"] ∧
        pingPong.IsStepCycle ["c", "b"] ∧
        ∃ entered result,
          Course pingPong.links [] [] (List.range 4) entered result ∧ entered.Nodup ∧
            result = .error [2, 1] := by
  have hrange : pingPong.InRange := by
    simp [InRange, pingPong, size, Edge.ofText]
  have hids : pingPong.stepIds.Nodup := by decide
  obtain ⟨checks, hchecks, hsome, -, entered, result, hcourse, hbound, hnodup, -, -⟩ :=
    checks_cycle_exact hrange hids
  have hcycle : checks.cycle = some ["c", "b"] := by
    cases hchecks
    rfl
  have hresult : result = .error [2, 1] := (hbound 5 (by decide)).symm.trans rfl
  exact ⟨hrange, hids, checks, hchecks, hcycle, hsome _ hcycle, entered, result,
    (hcourse entered result).2 ⟨rfl, rfl⟩, hnodup, hresult⟩

end FlowCheck.FlowGraph
