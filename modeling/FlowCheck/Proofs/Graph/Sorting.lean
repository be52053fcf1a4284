import FlowCheck.Graph.Sorting
import FlowCheck.Proofs.Graph.Links
import Mathlib.Data.List.Basic

/-!
# The count of open links

`Sorting` counts, for every node, the links that enter it from nodes without a place. This file
states what the counts and the list of ready nodes mean (`Sorting.Counts`), shows that a step keeps
that meaning, also with parallel links, and reads off the order that the sort gives:

- `Sorting.step_cases`: a step either finds no ready node, or places the smallest one;
- `Greedy`: lists that arise when the smallest ready node comes last, again and again;
- `sorted_spec`: the final state is greedy, exact, and has no ready node.
-/

namespace FlowCheck.FlowGraph

/-- The node has no place yet, and all nodes with a link to it have theirs. -/
structure IsReady (links : List (ℕ × ℕ)) (size : ℕ) (placed : List ℕ) (i : ℕ) : Prop where
  /-- It is a node. -/
  lt_size : i < size
  /-- It has no place yet. -/
  not_placed : i ∉ placed
  /-- The nodes before it have their place. -/
  sources_placed : ∀ j, Linked links j i → j ∈ placed

/-- The number of links that enter a node from nodes without a place. -/
def openLinks (links : List (ℕ × ℕ)) (placed : List ℕ) (i : ℕ) : ℕ :=
  links.countP fun link => link.2 == i && !placed.contains link.1

/-- No link is open when every node before has its place. -/
theorem openLinks_eq_zero_iff {links : List (ℕ × ℕ)} {placed : List ℕ} {i : ℕ} :
    openLinks links placed i = 0 ↔ ∀ j, Linked links j i → j ∈ placed := by
  simp only [openLinks, List.countP_eq_zero, Bool.and_eq_true, beq_iff_eq, Bool.not_eq_true',
    List.contains_eq_mem, decide_eq_false_iff_not, not_and, not_not, Linked]
  constructor
  · intro h j hj
    exact h (j, i) hj rfl
  · rintro h ⟨a, b⟩ hlink rfl
    exact h a hlink

/-- A new place closes the links that leave the node, each parallel link by itself. -/
theorem openLinks_append (links : List (ℕ × ℕ)) {placed : List ℕ} {i : ℕ} (hi : i ∉ placed)
    (k : ℕ) :
    openLinks links placed k = openLinks links (placed ++ [i]) k + (next links i).count k := by
  induction links with
  | nil => rfl
  | cons link rest ih =>
    -- a link from the node was open and is one of those that leave it, any other stays as it was
    obtain ⟨a, b⟩ := link
    simp only [openLinks, next, List.countP_cons, List.filter_cons] at ih ⊢
    by_cases ha : a = i
    · subst ha
      by_cases hb : b = k <;> simp_all
      omega
    · by_cases hb : b = k <;> simp_all
      omega

namespace Sorting

/-- What the state says while links are taken away: `rest` holds the targets of those that still
are to be taken away, although their sources have a place. -/
structure Counts (links : List (ℕ × ℕ)) (size : ℕ) (rest : List ℕ) (state : Sorting) : Prop where
  /-- Every node has its count. -/
  length_entering : state.entering.length = size
  /-- The count of a node is the number of its open links. -/
  entering : ∀ i < size,
    state.entering[i]? = some (openLinks links state.placed i + rest.count i)
  /-- The nodes with a count of zero that have no place are ready. -/
  mem_ready : ∀ i, i ∈ state.ready ↔
    i < size ∧ i ∉ state.placed ∧ openLinks links state.placed i + rest.count i = 0
  /-- No node is ready twice. -/
  nodup_ready : state.ready.Nodup
  /-- What has a place is a node, and has a count of zero. -/
  placed : ∀ i ∈ state.placed,
    i < size ∧ openLinks links state.placed i + rest.count i = 0

variable {links : List (ℕ × ℕ)} {size : ℕ} {rest : List ℕ} {state : Sorting}

/-- At the start every link is open. -/
theorem counts_start (links : List (ℕ × ℕ)) (size : ℕ) :
    Counts links size [] (start links size) where
  length_entering := by simp [start]
  entering i hi := by simp [start, openLinks, hi]
  mem_ready i := by
    by_cases hi : i < size
    · simp [start, openLinks, hi]
    · simp [start, hi]
  nodup_ready := List.nodup_range.filter _
  placed i hi := by simp [start] at hi

/-- Taking away the next link keeps the meaning of the counts. -/
theorem Counts.release {i : ℕ} (h : Counts links size (i :: rest) state) (hi : i < size) :
    Counts links size rest (state.release i) := by
  have hcount : state.entering[i]? = some (openLinks links state.placed i + rest.count i + 1) := by
    rw [h.entering i hi, List.count_cons_self, Nat.add_assoc]
  -- the link that is taken away was counted, so its target neither is ready nor has a place
  have hready : i ∉ state.ready := by simp [h.mem_ready]
  have hplaced : i ∉ state.placed := by
    intro hmem
    have := (h.placed i hmem).2
    simp at this
  constructor
  · simp [Sorting.release, h.length_entering]
  · intro k hk
    rw [Sorting.release, List.getElem?_modify]
    by_cases hki : i = k
    · subst hki
      simp [hcount]
    · simp [hki, h.entering k hk]
  · intro k
    have hk := h.mem_ready k
    -- only the node whose link goes can become ready, which it does when no other link is left
    by_cases hki : k = i
    · subst hki
      simp only [Sorting.release, hcount, Option.some.injEq, Nat.add_eq_right]
      split <;> simp_all
    · rw [List.count_cons_of_ne (Ne.symm hki)] at hk
      simp only [Sorting.release]
      split <;> simp [hk, hki]
  · simp only [Sorting.release]
    split
    · exact List.nodup_append.2 ⟨h.nodup_ready, by simp, by simpa using fun a ha => by grind⟩
    · exact h.nodup_ready
  · intro k hk
    obtain ⟨hlt, hzero⟩ := h.placed k hk
    have hki : i ≠ k := by
      rintro rfl
      exact hplaced hk
    rw [List.count_cons_of_ne hki] at hzero
    exact ⟨hlt, hzero⟩

/-- Taking away all links that are left over makes the counts exact. -/
theorem Counts.foldl_release (h : Counts links size rest state) (hrest : ∀ i ∈ rest, i < size) :
    Counts links size [] (rest.foldl Sorting.release state) := by
  induction rest generalizing state with
  | nil => exact h
  | cons i rest ih =>
    exact ih (h.release (hrest i (by simp))) fun k hk => hrest k (by simp [hk])

/-- Between steps the ready nodes are those whose sources all have a place. -/
theorem Counts.mem_ready_iff (h : Counts links size [] state) (i : ℕ) :
    i ∈ state.ready ↔ IsReady links size state.placed i := by
  rw [h.mem_ready, List.count_nil, Nat.add_zero, openLinks_eq_zero_iff]
  exact ⟨fun ⟨h₁, h₂, h₃⟩ => ⟨h₁, h₂, h₃⟩, fun ⟨h₁, h₂, h₃⟩ => ⟨h₁, h₂, h₃⟩⟩

/-- Giving a ready node its place leaves over exactly the links that leave it. -/
theorem Counts.takeReady {i : ℕ} (h : Counts links size [] state) (hi : i ∈ state.ready) :
    Counts links size (next links i)
      { state with ready := state.ready.erase i, placed := state.placed ++ [i] } := by
  obtain ⟨hlt, hnot, hzero⟩ := (h.mem_ready i).1 hi
  -- the links that leave the node are no longer open, and are all that is left over
  have hsum (k : ℕ) := openLinks_append links hnot k
  constructor
  · exact h.length_entering
  · intro k hk
    rw [← hsum k]
    simpa using h.entering k hk
  · intro k
    rw [h.nodup_ready.mem_erase_iff, h.mem_ready, ← hsum k]
    simp only [List.count_nil, Nat.add_zero, List.mem_append, List.mem_singleton, not_or]
    grind
  · exact h.nodup_ready.erase i
  · intro k hk
    rw [← hsum k]
    rcases List.mem_append.1 hk with hold | hnew
    · exact h.placed k hold
    · rw [List.mem_singleton.1 hnew]
      exact ⟨hlt, hzero⟩

/-- Giving a ready node its place keeps the meaning of the counts. -/
theorem Counts.place {i : ℕ} (hlinks : Below links size) (h : Counts links size [] state)
    (hi : i ∈ state.ready) : Counts links size [] (state.place links i) :=
  (h.takeReady hi).foldl_release fun k hk => (hlinks i k (mem_next.1 hk)).2

/-- Taking away links gives no node a place. -/
theorem placed_foldl_release (rest : List ℕ) (state : Sorting) :
    (rest.foldl Sorting.release state).placed = state.placed := by
  induction rest generalizing state with
  | nil => rfl
  | cons i rest ih => rw [List.foldl_cons, ih, Sorting.release]

/-- A step either finds no ready node and changes nothing, or gives the smallest ready node the
next place. -/
theorem Counts.step_cases (hlinks : Below links size) (h : Counts links size [] state) :
    (state.ready = [] ∧ state.step links = state) ∨
      ∃ i, IsReady links size state.placed i ∧ (∀ j, IsReady links size state.placed j → i ≤ j) ∧
        (state.step links).placed = state.placed ++ [i] ∧
        Counts links size [] (state.step links) := by
  cases hmin : state.ready.min? with
  | none =>
    left
    exact ⟨List.min?_eq_none_iff.1 hmin, by rw [Sorting.step, hmin]⟩
  | some i =>
    right
    obtain ⟨hi, hle⟩ := List.min?_eq_some_iff.1 hmin
    have hstep : state.step links = state.place links i := by rw [Sorting.step, hmin]
    refine ⟨i, (h.mem_ready_iff i).1 hi, fun j hj => hle j ((h.mem_ready_iff j).2 hj), ?_, ?_⟩
    · rw [hstep, Sorting.place, placed_foldl_release]
    · rw [hstep]
      exact h.place hlinks hi

end Sorting

/-- Lists that arise when the smallest ready node comes last, again and again. -/
inductive Greedy (links : List (ℕ × ℕ)) (size : ℕ) : List ℕ → Prop
  | nil : Greedy links size []
  | snoc {placed : List ℕ} {i : ℕ} : Greedy links size placed → IsReady links size placed i →
      (∀ j, IsReady links size placed j → i ≤ j) → Greedy links size (placed ++ [i])

namespace Greedy

variable {links : List (ℕ × ℕ)} {size : ℕ} {placed : List ℕ}

/-- A greedy list holds only nodes. -/
theorem lt_size (h : Greedy links size placed) : ∀ i ∈ placed, i < size := by
  induction h with
  | nil => simp
  | snoc _ hready _ ih =>
    intro k hk
    rcases List.mem_append.1 hk with hold | hnew
    · exact ih k hold
    · rw [List.mem_singleton.1 hnew]
      exact hready.lt_size

/-- A greedy list holds no node twice. -/
theorem nodup (h : Greedy links size placed) : placed.Nodup := by
  induction h with
  | nil => exact List.nodup_nil
  | snoc _ hready _ ih =>
    rw [← List.concat_eq_append]
    exact ih.concat hready.not_placed

/-- In a greedy list every link leads forward. -/
theorem idxOf_lt (h : Greedy links size placed) {i j : ℕ} (hj : j ∈ placed)
    (hlink : Linked links i j) : i ∈ placed ∧ placed.idxOf i < placed.idxOf j := by
  induction h with
  | nil => simp at hj
  | @snoc placed k _ hready _ ih =>
    rcases List.mem_append.1 hj with hold | hnew
    · obtain ⟨hi, hlt⟩ := ih hold
      rw [List.idxOf_append_of_mem hi, List.idxOf_append_of_mem hold]
      exact ⟨List.mem_append_left _ hi, hlt⟩
    -- the node comes last, and was ready, so that all that lead to it stand before it
    · obtain rfl := List.mem_singleton.1 hnew
      have hi : i ∈ placed := hready.sources_placed i hlink
      rw [List.idxOf_append_of_mem hi, List.idxOf_append_of_notMem hready.not_placed]
      exact ⟨List.mem_append_left _ hi, Nat.lt_add_right _ (List.idxOf_lt_length_of_mem hi)⟩

/-- In a greedy list all nodes from which a node is reached stand before it. -/
theorem idxOf_lt_of_transGen (h : Greedy links size placed) {i j : ℕ} (hj : j ∈ placed)
    (hij : Relation.TransGen (Linked links) i j) :
    i ∈ placed ∧ placed.idxOf i < placed.idxOf j := by
  induction hij using Relation.TransGen.head_induction_on with
  | single hlink => exact h.idxOf_lt hj hlink
  | head hlink _ ih =>
    obtain ⟨hmem, hlt⟩ := h.idxOf_lt ih.1 hlink
    exact ⟨hmem, hlt.trans ih.2⟩

/-- Where every link leads to a greater node, a greedy list counts up. -/
theorem eq_range (h : Greedy links size placed) (hlinks : ∀ i j, Linked links i j → i < j) :
    placed = List.range placed.length := by
  induction h with
  | nil => rfl
  | @snoc placed i _ hready hleast ih =>
    -- the places so far go to the nodes below their number, so that the next node is ready
    have hnot : i ∉ List.range placed.length := ih ▸ hready.not_placed
    have hge : placed.length ≤ i := by simpa using hnot
    have hnext : IsReady links size placed placed.length := by
      constructor
      · exact lt_of_le_of_lt hge hready.lt_size
      · rw [ih]
        simp
      · intro j hj
        rw [ih]
        simpa using hlinks j _ hj
    have hi : i = placed.length := le_antisymm (hleast _ hnext) hge
    rw [List.length_append, List.length_singleton, List.range_succ, ← ih, hi]

end Greedy

namespace Sorting

variable {links : List (ℕ × ℕ)} {size : ℕ} {state : Sorting}

/-- What a state says between steps. -/
structure Sound (links : List (ℕ × ℕ)) (size : ℕ) (state : Sorting) : Prop where
  /-- The counts are exact. -/
  counts : Counts links size [] state
  /-- The nodes got their places greedily. -/
  greedy : Greedy links size state.placed

/-- Where no node is ready, a run changes nothing. -/
theorem run_of_ready_eq_nil (h : state.ready = []) (steps : ℕ) : state.run links steps = state := by
  induction steps with
  | zero => rfl
  | succ steps ih =>
    have hstep : state.step links = state := by simp [step, h]
    rw [run, hstep, ih]

/-- A run keeps the state sound, and either ends without a ready node or has given a node its place
in every step. -/
theorem Sound.run (hlinks : Below links size) (h : Sound links size state) (steps : ℕ) :
    Sound links size (state.run links steps) ∧
      ((state.run links steps).ready = [] ∨
        (state.run links steps).placed.length = state.placed.length + steps) := by
  induction steps generalizing state with
  | zero => exact ⟨h, .inr rfl⟩
  | succ steps ih =>
    -- without a ready node the state stays as it is for all steps that are left
    rcases h.counts.step_cases hlinks with ⟨hready, -⟩ | ⟨i, hi, hleast, hplaced, hcounts⟩
    · rw [run_of_ready_eq_nil hready]
      exact ⟨h, .inl hready⟩
    · rw [Sorting.run]
      have hsound : Sound links size (state.step links) :=
        ⟨hcounts, hplaced ▸ h.greedy.snoc hi hleast⟩
      obtain ⟨hrun, hend⟩ := ih hsound
      rw [hplaced, List.length_append, List.length_singleton] at hend
      exact ⟨hrun, hend.imp_right fun hlen => by omega⟩

end Sorting

/-- As many steps as there are nodes are enough: in the end the counts are exact, the places were
given greedily, and no node is ready. -/
theorem sorted_spec {graph : FlowGraph} (hlinks : Below graph.links graph.size) :
    graph.sorted.Sound graph.links graph.size ∧ graph.sorted.ready = [] := by
  have hstart : (Sorting.start graph.links graph.size).Sound graph.links graph.size :=
    ⟨Sorting.counts_start _ _, .nil⟩
  obtain ⟨hsound, hend⟩ := hstart.run hlinks graph.size
  refine ⟨hsound, ?_⟩
  rcases hend with hready | hlen
  · exact hready
  · -- all nodes have their place, so that one more would be one too many
    refine List.eq_nil_iff_forall_not_mem.2 fun i hi => ?_
    have hready := (hsound.counts.mem_ready_iff i).1 hi
    have hnodup : (i :: graph.sorted.placed).Nodup :=
      List.nodup_cons.2 ⟨hready.not_placed, hsound.greedy.nodup⟩
    have hlt : ∀ k ∈ i :: graph.sorted.placed, k < graph.size := by
      simpa using ⟨hready.lt_size, hsound.greedy.lt_size⟩
    have hle := length_le_of_nodup hnodup hlt
    have hnone : (Sorting.start graph.links graph.size).placed.length = 0 := rfl
    rw [List.length_cons, sorted, hlen] at hle
    omega

end FlowCheck.FlowGraph
