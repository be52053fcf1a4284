import FlowCheck.Graph.Cycle
import Mathlib.Data.Fintype.EquivFin
import Mathlib.Data.List.Perm.Subperm
import Mathlib.Logic.Relation
import Mathlib.Order.WellFounded

/-!
# Links as a relation

A flow graph is acyclic when no node is reached from itself along edges that are not loops. This
file states that for the edges of a graph, carries it over to the list of links on which the search
and the sort work, and gives the ways in which it is used:

- `FlowGraph.acyclic_of_rank`: links that lead to nodes of a higher rank form no cycle;
- `FlowGraph.exists_first_of_acyclic`: without a cycle, every nonempty set of nodes has a node
  that no other node of the set leads to;
- `FlowGraph.exists_cycle_of_forall_exists`: a set of nodes without such a node follows a cycle.
-/

namespace FlowCheck.FlowGraph

open Relation

/-- Both ends of every edge are nodes. -/
def InRange (graph : FlowGraph) : Prop :=
  ∀ edge ∈ graph.edges, edge.source < graph.size ∧ edge.target < graph.size

/-- An edge that is not a loop leads from the first node to the second. -/
def Leads (graph : FlowGraph) (i j : ℕ) : Prop :=
  i ≠ j ∧ ∃ edge ∈ graph.edges, edge.source = i ∧ edge.target = j

/-- Without its loops the graph has no directed cycle. -/
def Acyclic (graph : FlowGraph) : Prop :=
  ∀ i, ¬ TransGen graph.Leads i i

/-- The node is on a cycle, or a node on a cycle leads to it in the end. -/
def FollowsCycle (graph : FlowGraph) (i : ℕ) : Prop :=
  ∃ j, TransGen graph.Leads j j ∧ ReflTransGen graph.Leads j i

/-- There is a link from the first node to the second. -/
abbrev Linked (links : List (ℕ × ℕ)) (i j : ℕ) : Prop :=
  (i, j) ∈ links

/-- Both ends of every link are below a bound. -/
def Below (links : List (ℕ × ℕ)) (size : ℕ) : Prop :=
  ∀ i j, Linked links i j → i < size ∧ j < size

/-- The links are the pairs of nodes that an edge other than a loop joins. -/
theorem linked_links {graph : FlowGraph} {i j : ℕ} :
    Linked graph.links i j ↔ graph.Leads i j := by
  simp only [Linked, links, List.mem_map, List.mem_filter, Edge.isLoop, Leads, Bool.not_eq_true',
    beq_eq_false_iff_ne, Prod.mk.injEq]
  constructor
  · rintro ⟨edge, ⟨hedge, hne⟩, rfl, rfl⟩
    exact ⟨hne, edge, hedge, rfl, rfl⟩
  · rintro ⟨hne, edge, hedge, rfl, rfl⟩
    exact ⟨edge, ⟨hedge, hne⟩, rfl, rfl⟩

/-- The links of a graph are a list of the pairs that its edges other than loops join. -/
theorem linked_eq_leads (graph : FlowGraph) : Linked graph.links = graph.Leads := by
  ext i j
  exact linked_links

/-- A graph is acyclic when its links form no cycle. -/
theorem acyclic_iff {graph : FlowGraph} :
    graph.Acyclic ↔ ∀ i, ¬ TransGen (Linked graph.links) i i := by
  rw [linked_eq_leads, Acyclic]

/-- A node on a cycle follows it. -/
theorem followsCycle_of_transGen {graph : FlowGraph} {i : ℕ} (h : TransGen graph.Leads i i) :
    graph.FollowsCycle i :=
  ⟨i, h, .refl⟩

/-- A graph is acyclic when no node follows a cycle. -/
theorem acyclic_iff_not_followsCycle {graph : FlowGraph} :
    graph.Acyclic ↔ ∀ i, ¬ graph.FollowsCycle i := by
  constructor
  · rintro h i ⟨j, hcycle, -⟩
    exact h j hcycle
  · intro h i hcycle
    exact h i (followsCycle_of_transGen hcycle)

/-- The nodes that follow a node are those to which it has a link. -/
theorem mem_next {links : List (ℕ × ℕ)} {i j : ℕ} : j ∈ next links i ↔ Linked links i j := by
  simp [next, Linked]

/-- The links of a graph whose edges are in range are between its nodes. -/
theorem below_links {graph : FlowGraph} (h : graph.InRange) :
    Below graph.links graph.size := by
  intro i j hij
  obtain ⟨-, edge, hedge, rfl, rfl⟩ := linked_links.1 hij
  exact h edge hedge

/-- What follows a cycle is a node. -/
theorem FollowsCycle.lt_size {graph : FlowGraph} (hlinks : Below graph.links graph.size) {i : ℕ}
    (h : graph.FollowsCycle i) : i < graph.size := by
  obtain ⟨j, hcycle, hji⟩ := h
  obtain ⟨k, -, hki⟩ := TransGen.tail'_iff.1 (hcycle.trans_left hji)
  exact (hlinks k i (linked_links.2 hki)).2

/-- A graph whose edges are in range passes the check of its links. -/
theorem linksInRange_of_inRange {graph : FlowGraph} (h : graph.InRange) :
    graph.linksInRange = true := by
  simp only [linksInRange, List.all_eq_true, Bool.and_eq_true, decide_eq_true_eq]
  intro link hlink
  exact below_links h link.1 link.2 hlink

/-- A list without repetition has at most as many nodes as there are. -/
theorem length_le_of_nodup {nodes : List ℕ} {size : ℕ} (h : nodes.Nodup)
    (hlt : ∀ i ∈ nodes, i < size) : nodes.length ≤ size := by
  have hsub : nodes ⊆ List.range size := fun i hi => List.mem_range.2 (hlt i hi)
  simpa using (h.subperm hsub).length_le

/-- Links that lead to nodes of a higher rank form no cycle. -/
theorem acyclic_of_rank {r : ℕ → ℕ → Prop} (rank : ℕ → ℕ)
    (h : ∀ i j, r i j → rank i < rank j) (i : ℕ) : ¬ TransGen r i i := by
  intro hcycle
  have hlt : TransGen (· < ·) (rank i) (rank i) := hcycle.lift rank h
  rw [transGen_eq_self] at hlt
  exact lt_irrefl _ hlt

/-- Where there is no cycle, a nonempty set of nodes below a bound has a node that no node of the
set leads to. -/
theorem exists_first_of_acyclic {r : ℕ → ℕ → Prop} (h : ∀ i, ¬ TransGen r i i) {size : ℕ}
    {p : ℕ → Prop} (hp : ∀ i, p i → i < size) {i : ℕ} (hi : p i) :
    ∃ first, p first ∧ ∀ j, p j → ¬ r j first := by
  -- without a cycle, leading on is a strict order of the finitely many nodes
  let before (a b : Fin size) : Prop := TransGen r a b
  have : IsTrans (Fin size) before := ⟨fun _ _ _ => TransGen.trans⟩
  have : Std.Irrefl before := ⟨fun a => h a⟩
  have hwf : WellFounded before := Finite.wellFounded_of_trans_of_irrefl before
  obtain ⟨first, hfirst, hmin⟩ := hwf.has_min {a | p a} ⟨⟨i, hp i hi⟩, hi⟩
  exact ⟨first, hfirst, fun j hj hr => hmin ⟨j, hp j hj⟩ hj (TransGen.single hr)⟩

/-- Where each node of a finite set is led to from a node of the set, a cycle leads to each of
them. -/
theorem exists_cycle_of_forall_exists {r : ℕ → ℕ → Prop} {size : ℕ} {p : ℕ → Prop}
    (hp : ∀ i, p i → i < size) (hback : ∀ i, p i → ∃ j, p j ∧ r j i) {i : ℕ} (hi : p i) :
    ∃ j, TransGen r j j ∧ ReflTransGen r j i := by
  by_contra! hnone
  -- the nodes of the set from which this one is reached would form no cycle, and have a first one
  have hacyclic : ∀ k, ¬ TransGen (fun a b => r a b ∧ ReflTransGen r b i) k k := by
    intro k hk
    obtain ⟨_, -, -, hki⟩ := TransGen.tail'_iff.1 hk
    exact hnone k (TransGen.mono (fun _ _ => And.left) _ _ hk) hki
  obtain ⟨first, ⟨hfirst, hreach⟩, hmin⟩ := exists_first_of_acyclic hacyclic
    (p := fun k => p k ∧ ReflTransGen r k i) (fun k hk => hp k hk.1) ⟨hi, .refl⟩
  obtain ⟨j, hj, hlink⟩ := hback first hfirst
  exact hmin j ⟨hj, .head hlink hreach⟩ ⟨hlink, hreach⟩

/-- Where there is no cycle, each node below a bound is reached from one that nothing leads to. -/
theorem exists_source_of_acyclic {r : ℕ → ℕ → Prop} (h : ∀ i, ¬ TransGen r i i) {size : ℕ}
    (hr : ∀ i j, r i j → i < size) {i : ℕ} (hi : i < size) :
    ∃ source < size, ReflTransGen r source i ∧ ∀ j, ¬ r j source := by
  -- among the nodes from which it is reached, the first one is reached from no other node
  obtain ⟨source, ⟨hlt, hreach⟩, hmin⟩ := exists_first_of_acyclic h
    (p := fun k => k < size ∧ ReflTransGen r k i) (fun _ hk => hk.1) ⟨hi, .refl⟩
  exact ⟨source, hlt, hreach, fun j hj => hmin j ⟨hr j source hj, .head hj hreach⟩ hj⟩

end FlowCheck.FlowGraph
