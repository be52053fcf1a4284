import FlowCheck.Graph.Sorting
import FlowCheck.Proofs.Graph.Sorting

/-!
# What the order of a flow graph says

The nodes that stay without a place are those that follow a cycle (`mem_placed_iff`). So the sort
gives an order of all nodes exactly when the graph has no cycle, and otherwise it stops at the
first node that follows one (`order_eq_error_iff`). Where every link leads to a node with a greater
number, the order counts up.
-/

namespace FlowCheck.FlowGraph

open Relation

variable {graph : FlowGraph}

/-- In the end a count is zero exactly for the nodes that have a place. -/
theorem entering_sorted_eq_zero_iff (hlinks : Below graph.links graph.size) {i : ℕ}
    (hi : i < graph.size) : graph.sorted.entering[i]? = some 0 ↔ i ∈ graph.sorted.placed := by
  obtain ⟨⟨hcounts, -⟩, hready⟩ := sorted_spec hlinks
  rw [hcounts.entering i hi, Option.some.injEq]
  constructor
  · intro hzero
    by_contra hnot
    have hmem := (hcounts.mem_ready i).2 ⟨hi, hnot, hzero⟩
    simp [hready] at hmem
  · intro hmem
    exact (hcounts.placed i hmem).2

/-- There is an order exactly when every node has a place. -/
theorem order_eq_ok_iff (hlinks : Below graph.links graph.size) {places : List ℕ} :
    graph.order = .ok places ↔
      places = graph.sorted.placed ∧ ∀ i < graph.size, i ∈ graph.sorted.placed := by
  -- the sort fails at the first node whose count is not zero
  have hlen := (sorted_spec hlinks).1.counts.length_entering
  have hfind : graph.sorted.entering.findIdx? (· != 0) = none ↔
      ∀ i < graph.size, i ∈ graph.sorted.placed := by
    rw [List.findIdx?_eq_none_iff, ← hlen]
    simp only [bne_eq_false_iff_eq]
    rw [List.forall_mem_iff_getElem]
    refine forall₂_congr fun i hi => ?_
    rw [← entering_sorted_eq_zero_iff hlinks (hlen ▸ hi), List.getElem?_eq_getElem hi,
      Option.some.injEq]
  rw [order, ← hfind]
  split <;> rename_i h <;> simp [h, eq_comm]

/-- An order has a place for each node, and no other places. -/
theorem perm_range_of_order_eq_ok (hlinks : Below graph.links graph.size) {places : List ℕ}
    (h : graph.order = .ok places) : places.Perm (List.range graph.size) := by
  obtain ⟨rfl, hall⟩ := (order_eq_ok_iff hlinks).1 h
  have hgreedy := (sorted_spec hlinks).1.greedy
  refine (List.perm_ext_iff_of_nodup hgreedy.nodup List.nodup_range).2 fun i => ?_
  rw [List.mem_range]
  exact ⟨hgreedy.lt_size i, hall i⟩

/-- A node that stays without a place has a link from another such node, for otherwise it would be
ready. -/
theorem exists_linked_of_not_placed (hlinks : Below graph.links graph.size) {i : ℕ}
    (hi : i < graph.size) (hnot : i ∉ graph.sorted.placed) :
    ∃ j, (j < graph.size ∧ j ∉ graph.sorted.placed) ∧ Linked graph.links j i := by
  obtain ⟨⟨hcounts, -⟩, hready⟩ := sorted_spec hlinks
  by_contra! hnone
  have hisReady : IsReady graph.links graph.size graph.sorted.placed i := by
    refine ⟨hi, hnot, fun j hlink => ?_⟩
    by_contra hplaced
    exact hnone j ⟨(hlinks j i hlink).1, hplaced⟩ hlink
  have hmem := (hcounts.mem_ready_iff i).2 hisReady
  simp [hready] at hmem

/-- A node stays without a place exactly when it follows a cycle. -/
theorem mem_placed_iff (hlinks : Below graph.links graph.size) {i : ℕ} (hi : i < graph.size) :
    i ∈ graph.sorted.placed ↔ ¬ graph.FollowsCycle i := by
  have hgreedy := (sorted_spec hlinks).1.greedy
  rw [FollowsCycle, ← linked_eq_leads]
  constructor
  · rintro hmem ⟨j, hcycle, hji⟩
    -- a node of the cycle would stand before itself
    have hj : j ∈ graph.sorted.placed := by
      rcases reflTransGen_iff_eq_or_transGen.1 hji with rfl | hji
      · exact hmem
      · exact (hgreedy.idxOf_lt_of_transGen hmem hji).1
    exact lt_irrefl _ (hgreedy.idxOf_lt_of_transGen hj hcycle).2
  · intro hcycle
    by_contra hnot
    exact hcycle (exists_cycle_of_forall_exists
      (p := fun k => k < graph.size ∧ k ∉ graph.sorted.placed) (fun _ hk => hk.1)
      (fun _ hk => exists_linked_of_not_placed hlinks hk.1 hk.2) ⟨hi, hnot⟩)

/-- The order stops at the first node that follows a cycle. -/
theorem order_eq_error_iff (hlinks : Below graph.links graph.size) {stuck : ℕ} :
    graph.order = .error stuck ↔ IsLeast {i | graph.FollowsCycle i} stuck := by
  have hlen := (sorted_spec hlinks).1.counts.length_entering
  -- the sort fails at the first node whose count is not zero
  have hfind : graph.order = .error stuck ↔
      graph.sorted.entering.findIdx? (· != 0) = some stuck := by
    rw [order]
    split <;> rename_i h <;> simp [h]
  have hcount {i : ℕ} (hi : i < graph.sorted.entering.length) :
      graph.sorted.entering[i] ≠ 0 ↔ graph.FollowsCycle i := by
    have hzero := entering_sorted_eq_zero_iff hlinks (hlen ▸ hi)
    rw [mem_placed_iff hlinks (hlen ▸ hi), List.getElem?_eq_getElem hi, Option.some.injEq] at hzero
    rw [Ne, hzero, not_not]
  rw [hfind, List.findIdx?_eq_some_iff_getElem]
  constructor
  · rintro ⟨hlt, hstuck, hleast⟩
    refine ⟨(hcount hlt).1 (by simpa using hstuck), fun i hi => ?_⟩
    by_contra hnot
    have hlti := Nat.not_le.1 hnot
    exact hleast i hlti (by simpa using (hcount (hlti.trans hlt)).2 hi)
  · rintro ⟨hstuck, hleast⟩
    have hlt : stuck < graph.sorted.entering.length := hlen ▸ FollowsCycle.lt_size hlinks hstuck
    refine ⟨hlt, by simpa using (hcount hlt).2 hstuck, fun i hi hne => ?_⟩
    have hfollows := (hcount (hi.trans hlt)).1 (by simpa using hne)
    exact absurd (hleast hfollows) (Nat.not_le.2 hi)

/-- The order stops at a node. -/
theorem lt_size_of_order_eq_error (hlinks : Below graph.links graph.size) {stuck : ℕ}
    (h : graph.order = .error stuck) : stuck < graph.size :=
  FollowsCycle.lt_size hlinks ((order_eq_error_iff hlinks).1 h).1

/-- Every node has a place exactly when there is no cycle. -/
theorem forall_placed_iff (hlinks : Below graph.links graph.size) :
    (∀ i < graph.size, i ∈ graph.sorted.placed) ↔ graph.Acyclic := by
  rw [acyclic_iff_not_followsCycle]
  constructor
  · intro h i hfollows
    have hi := hfollows.lt_size hlinks
    exact (mem_placed_iff hlinks hi).1 (h i hi) hfollows
  · intro h i hi
    exact (mem_placed_iff hlinks hi).2 (h i)

/-- There is an order exactly when there is no cycle. -/
theorem exists_order_iff (hlinks : Below graph.links graph.size) :
    (∃ places, graph.order = .ok places) ↔ graph.Acyclic := by
  simp only [order_eq_ok_iff hlinks, exists_eq_left, forall_placed_iff hlinks]

/-- Where every link leads to a node with a greater number, the order counts up. -/
theorem order_eq_range (hlinks : Below graph.links graph.size)
    (hforward : ∀ i j, Linked graph.links i j → i < j) :
    graph.order = .ok (List.range graph.size) := by
  have hgreedy := (sorted_spec hlinks).1.greedy
  have hplaced := (forall_placed_iff hlinks).2 (acyclic_iff.2 (acyclic_of_rank id hforward))
  have hsub : List.range graph.size ⊆ graph.sorted.placed :=
    fun i hi => hplaced i (List.mem_range.1 hi)
  -- every node has one place, so that there are as many places as nodes
  have hlen : graph.sorted.placed.length = graph.size := by
    refine le_antisymm (length_le_of_nodup hgreedy.nodup hgreedy.lt_size) ?_
    simpa using (List.nodup_range.subperm hsub).length_le
  have hrange := hgreedy.eq_range hforward
  rw [hlen] at hrange
  exact (order_eq_ok_iff hlinks).2 ⟨hrange.symm, hplaced⟩

end FlowCheck.FlowGraph
