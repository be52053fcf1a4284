import FlowCheck.Proofs.Graph.Agreement
import Mathlib.Data.List.Lex
import Mathlib.Order.Bounds.Basic

/-!
# The least order

Among the lists in which every node has one place and every link leads to a later one (`IsOrder`),
the sort gives the least in the lexicographic order of lists: as long as two such lists agree, the
next node of each is ready, and the sort takes the smallest. So the order depends only on the nodes
and on which of them are linked, and neither on the order of the edges nor on their number.
-/

namespace FlowCheck.FlowGraph

/-- Every node has one place in the list, and every edge that is not a loop leads to a later
place. -/
structure IsOrder (graph : FlowGraph) (places : List ℕ) : Prop where
  /-- Every node has one place. -/
  perm : places.Perm (List.range graph.size)
  /-- What a node leads to comes after it. -/
  forward : ∀ i j, graph.Leads i j → places.idxOf i < places.idxOf j

variable {graph : FlowGraph} {placed : List ℕ}

/-- No node has two places in an order. -/
theorem IsOrder.nodup {places : List ℕ} (h : graph.IsOrder places) : places.Nodup :=
  h.perm.nodup_iff.2 List.nodup_range

/-- The next node of an order is ready. -/
theorem IsOrder.isReady {rest : List ℕ} {i : ℕ} (h : graph.IsOrder (placed ++ i :: rest)) :
    IsReady graph.links graph.size placed i := by
  have hnot : i ∉ placed := fun hi =>
    (List.nodup_append.1 h.nodup).2.2 i hi i List.mem_cons_self rfl
  constructor
  · exact List.mem_range.1 (h.perm.mem_iff.1 (by simp))
  · exact hnot
  · intro j hlink
    -- the node that leads to it comes before it, and there are only those that have their place
    have hlt := h.forward j i (linked_links.1 hlink)
    rw [List.idxOf_append_of_notMem hnot, List.idxOf_cons_self, Nat.add_zero] at hlt
    by_contra hj
    rw [List.idxOf_append_of_notMem hj] at hlt
    omega

/-- A greedy list is the start of an order, or less than it, whatever follows. -/
theorem Greedy.start_or_lt {other : List ℕ} (h : Greedy graph.links graph.size placed)
    (hother : graph.IsOrder other) :
    (∃ rest, placed ++ rest = other) ∨ ∀ more, placed ++ more < other := by
  induction h with
  | nil => exact .inl ⟨other, rfl⟩
  | @snoc placed i _ hready hleast ih =>
    rcases ih with ⟨rest, rfl⟩ | hlt
    · cases rest with
      | nil =>
        -- all nodes have their place in the order, so that none is left
        have hi : i ∈ placed ++ [] := hother.perm.mem_iff.2 (List.mem_range.2 hready.lt_size)
        exact absurd (by simpa using hi) hready.not_placed
      | cons k rest =>
        rcases (hleast k hother.isReady).eq_or_lt with rfl | hlt
        · exact .inl ⟨rest, by simp⟩
        · right
          intro more
          rw [List.append_assoc]
          exact List.Lex.append_left _ (List.Lex.rel hlt) placed
    · right
      intro more
      rw [List.append_assoc]
      exact hlt ([i] ++ more)

/-- The order that the sort gives is the least one. -/
theorem isLeast_of_order_eq_ok (hlinks : Below graph.links graph.size) {places : List ℕ}
    (h : graph.order = .ok places) : IsLeast {other | graph.IsOrder other} places := by
  obtain ⟨rfl, hall⟩ := (order_eq_ok_iff hlinks).1 h
  have hgreedy := (sorted_spec hlinks).1.greedy
  have hperm := perm_range_of_order_eq_ok hlinks h
  constructor
  · refine ⟨hperm, fun i j hlead => ?_⟩
    have hlink := linked_links.2 hlead
    exact (hgreedy.idxOf_lt (hall j (hlinks i j hlink).2) hlink).2
  · intro other hother
    rcases hgreedy.start_or_lt hother with ⟨rest, hrest⟩ | hlt
    · -- both have a place for each node, so that nothing is left of the other one
      have hlen : graph.sorted.placed.length = other.length :=
        (hperm.trans hother.perm.symm).length_eq
      have hnil : rest = [] := by simpa [← hrest] using hlen
      rw [← hrest, hnil, List.append_nil]
    · simpa using (hlt []).le

/-- Graphs with as many nodes and the same links have the same orders. -/
theorem isOrder_congr {other : FlowGraph} (hsize : other.size = graph.size)
    (hleads : ∀ i j, other.Leads i j ↔ graph.Leads i j) :
    {places | other.IsOrder places} = {places | graph.IsOrder places} := by
  ext places
  constructor
  · intro h
    exact ⟨hsize ▸ h.perm, fun i j hij => h.forward i j ((hleads i j).2 hij)⟩
  · intro h
    exact ⟨hsize.symm ▸ h.perm, fun i j hij => h.forward i j ((hleads i j).1 hij)⟩

/-- An acyclic graph in range is put in the least of its orders. The order is the same for every
graph in range that has the same nodes and links the same of them, whatever the order of its edges
and however many of them are parallel. -/
theorem checks_order_least (h : graph.InRange) (hacyclic : graph.Acyclic) :
    ∃ checks places, graph.checks = .ok checks ∧ graph.order = .ok places ∧
      checks.order = .ok (places.map graph.stepId) ∧
      IsLeast {other | graph.IsOrder other} places ∧
      ∀ other : FlowGraph, other.InRange → other.nodes = graph.nodes →
        (∀ i j, other.Leads i j ↔ graph.Leads i j) →
        other.order = .ok places ∧
          ∃ answers, other.checks = .ok answers ∧ answers.order = checks.order := by
  have hlinks := below_links h
  obtain ⟨places, hplaces⟩ := (exists_order_iff hlinks).2 hacyclic
  have hleast := isLeast_of_order_eq_ok hlinks hplaces
  refine ⟨_, places, checks_of_inRange h, hplaces, ?_, hleast, ?_⟩
  · simp [hplaces, Except.map, Except.mapError]
  · intro other hrange hnodes hleads
    have hsize : other.size = graph.size := congrArg List.length hnodes
    have hids : other.stepId = graph.stepId := by
      funext i
      rw [stepId, stepId, hnodes]
    have hother : other.Acyclic := by
      have heq : other.Leads = graph.Leads := by
        ext i j
        exact hleads i j
      rwa [Acyclic, heq]
    obtain ⟨others, hothers⟩ := (exists_order_iff (below_links hrange)).2 hother
    -- which orders there are depends on nodes and links only, and one of them is the least
    have hsame : others = places := by
      have hothersLeast := isLeast_of_order_eq_ok (below_links hrange) hothers
      rw [isOrder_congr hsize hleads] at hothersLeast
      exact hothersLeast.unique hleast
    rw [hsame] at hothers
    exact ⟨hothers, _, checks_of_inRange hrange, by simp [hothers, hplaces, hids]⟩

/-- Four steps: the last comes before the second by two edges, the third has a loop. -/
def detour : FlowGraph where
  workflow := "w"
  nodes := ["a", "b", "c", "d"].map fun id => { (default : Node) with step := id }
  edges := [Edge.ofText 3 1 .onSuccess none, Edge.ofText 2 2 .conditional none,
    Edge.ofText 0 2 .sequential none, Edge.ofText 3 1 .onFailure none]
  dependencies := []
  index := [("d", 3), ("c", 2), ("b", 1), ("a", 0)]

/-- The least order of these steps puts the second of them last. -/
theorem checks_detour :
    detour.InRange ∧ detour.Acyclic ∧
      ∃ checks, detour.checks = .ok checks ∧ checks.order = .ok ["a", "c", "d", "b"] ∧
        IsLeast {other | detour.IsOrder other} [0, 2, 3, 1] := by
  have hrange : detour.InRange := by
    simp [InRange, detour, size, Edge.ofText]
  have hacyclic : detour.Acyclic := (exists_order_iff (below_links hrange)).1 ⟨[0, 2, 3, 1], rfl⟩
  obtain ⟨checks, places, hchecks, hplaces, horder, hleast, -⟩ :=
    checks_order_least hrange hacyclic
  obtain rfl : [0, 2, 3, 1] = places := Except.ok.inj hplaces
  exact ⟨hrange, hacyclic, checks, hchecks, horder, hleast⟩

end FlowCheck.FlowGraph
