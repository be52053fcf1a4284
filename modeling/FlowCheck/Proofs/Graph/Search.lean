import FlowCheck.Proofs.Graph.Course

/-!
# The search in depth

The search keeps the path to the node that it visits and the list of nodes that it is done with.
Its invariant is in two parts. The path is a chain of links without repetition, so a visit of one
of its nodes closes a cycle (`isCycle_closing`). The nodes that are done lead only to such nodes and
lie on no cycle (`Settled`), so a search that is done with all nodes has found that there is none.
Both parts are carried along the course of the search (`Course.outcome`).
-/

namespace FlowCheck.FlowGraph

open Relation

variable {links : List (ℕ × ℕ)} {size : ℕ}

/-- Each node of the list has a link to the next one, and the last one to the first; no node occurs
twice. -/
structure IsCycle (links : List (ℕ × ℕ)) (cycle : List ℕ) : Prop where
  /-- No node occurs twice. -/
  nodup : cycle.Nodup
  /-- After its last node the list starts again. -/
  closed : ∃ start last, cycle = start ++ [last] ∧ (last :: cycle).IsChain (Linked links)

/-- The nodes lead only to nodes of the list, and lie on no cycle. -/
structure Settled (links : List (ℕ × ℕ)) (done : List ℕ) : Prop where
  /-- A link from a node of the list leads to one. -/
  closed : ∀ i ∈ done, ∀ j, Linked links i j → j ∈ done
  /-- No node of the list is on a cycle. -/
  acyclic : ∀ i ∈ done, ¬ TransGen (Linked links) i i

/-- What a search may answer that starts with some nodes done and is to visit others. -/
inductive Outcome (links : List (ℕ × ℕ)) (done nodes : List ℕ) : Except (List ℕ) (List ℕ) → Prop
  | settled {more : List ℕ} : Settled links more → done ⊆ more → nodes ⊆ more →
      Outcome links done nodes (.ok more)
  | cycle {cycle : List ℕ} : IsCycle links cycle → Outcome links done nodes (.error cycle)

/-- A cycle leads from a node back to it. -/
theorem IsCycle.not_acyclic {cycle : List ℕ} (h : IsCycle links cycle) :
    ∃ i, TransGen (Linked links) i i := by
  obtain ⟨start, last, rfl, hchain⟩ := h.closed
  -- the walk goes from the last node to the first, and along the list to the last one again
  refine ⟨last, ?_⟩
  cases start with
  | nil => exact TransGen.single (by simpa using hchain)
  | cons first rest =>
    rw [List.cons_append, List.isChain_cons_cons] at hchain
    refine TransGen.head' hchain.1 ?_
    exact List.relationReflTransGen_of_exists_isChain_cons (rest ++ [last]) hchain.2 (by simp)

/-- In a chain, every item after the first is related to the one before it. -/
theorem exists_rel_of_isChain_cons {α : Type} {r : α → α → Prop} {first : α} {rest : List α}
    (h : (first :: rest).IsChain r) {b : α} (hb : b ∈ rest) : ∃ a, r a b := by
  induction rest generalizing first with
  | nil => simp at hb
  | cons next rest ih =>
    rw [List.isChain_cons_cons] at h
    rcases List.mem_cons.1 hb with rfl | hb
    · exact ⟨first, h.1⟩
    · exact ih h.2 hb

/-- A cycle has a node. -/
theorem IsCycle.ne_nil {cycle : List ℕ} (h : IsCycle links cycle) : cycle ≠ [] := by
  obtain ⟨start, last, rfl, -⟩ := h.closed
  simp

/-- All that is on a cycle is a node. -/
theorem IsCycle.lt_size (hlinks : Below links size) {cycle : List ℕ} (h : IsCycle links cycle) :
    ∀ i ∈ cycle, i < size := by
  intro i hi
  -- the walk starts again after its last node, so that a link enters each node, also the first
  obtain ⟨start, last, -, hchain⟩ := h.closed
  obtain ⟨j, hlink⟩ := exists_rel_of_isChain_cons hchain hi
  exact (hlinks j i hlink).2

/-- Nodes that are settled lead nowhere else. -/
theorem Settled.mem_of_reflTransGen {done : List ℕ} (h : Settled links done) {i j : ℕ}
    (hi : i ∈ done) (hij : ReflTransGen (Linked links) i j) : j ∈ done := by
  induction hij with
  | refl => exact hi
  | tail _ hlink ih => exact h.closed _ ih _ hlink

/-- A node that leads only to settled nodes is settled with them. -/
theorem Settled.cons {done : List ℕ} (h : Settled links done) {node : ℕ}
    (hnode : ∀ j, Linked links node j → j ∈ done) : Settled links (node :: done) := by
  -- a cycle through the new node would lead back to it from a settled one
  have hback (hcycle : TransGen (Linked links) node node) : node ∈ done := by
    obtain ⟨j, hlink, hj⟩ := TransGen.head'_iff.1 hcycle
    exact h.mem_of_reflTransGen (hnode j hlink) hj
  constructor
  · intro i hi j hlink
    rcases List.mem_cons.1 hi with rfl | hi
    · exact List.mem_cons_of_mem _ (hnode j hlink)
    · exact List.mem_cons_of_mem _ (h.closed i hi j hlink)
  · intro i hi hcycle
    rcases List.mem_cons.1 hi with rfl | hi
    · exact h.acyclic i (hback hcycle) hcycle
    · exact h.acyclic i hi hcycle

/-- A visit of a node of the path closes a cycle. -/
theorem IsPath.isCycle_closing {path : List ℕ} {node : ℕ} (h : IsPath links size path node)
    (hmem : node ∈ path) : IsCycle links (closing path node) := by
  obtain ⟨front, back, rfl, hfront⟩ := List.eq_append_cons_of_mem hmem
  have htake : (front ++ node :: back).takeWhile (· ≠ node) = front := by
    rw [List.takeWhile_append_of_pos (by simpa using fun i hi => ne_of_mem_of_not_mem hi hfront)]
    simp
  rw [closing, htake]
  constructor
  · have hnodup : front.Nodup := (List.nodup_append.1 h.nodup).1
    refine List.nodup_append.2 ⟨List.nodup_reverse.2 hnodup, by simp, fun i hi j hj => ?_⟩
    rw [List.mem_singleton.1 hj]
    exact ne_of_mem_of_not_mem (List.mem_reverse.1 hi) hfront
  · refine ⟨front.reverse, node, rfl, ?_⟩
    -- the closed walk is a piece of the path, read from its earliest node on
    have hpiece : (node :: front ++ [node]).IsChain fun i j => Linked links j i :=
      List.IsChain.prefix h.chain ⟨back, by simp⟩
    rw [← List.isChain_reverse] at hpiece
    simpa using hpiece

/-- A search that starts with more nodes done also starts with fewer. -/
theorem Outcome.weaken {done more nodes others : List ℕ} {result : Except (List ℕ) (List ℕ)}
    (h : Outcome links more nodes result) (hdone : done ⊆ more)
    (hothers : ∀ i ∈ others, i ∈ more ∨ i ∈ nodes) : Outcome links done others result := by
  cases h with
  | settled hlast hmore hnodes =>
    refine .settled hlast (List.Subset.trans hdone hmore) fun i hi => ?_
    exact (hothers i hi).elim (fun h => hmore h) fun h => hnodes h
  | cycle hcycle => exact .cycle hcycle

/-- A search settles the nodes that it visits or finds a cycle. -/
theorem Course.outcome {path done nodes entered : List ℕ} {result : Except (List ℕ) (List ℕ)}
    (hlinks : Below links size) (h : Course links path done nodes entered result)
    (hpath : ∀ i ∈ nodes, IsPath links size path i) (hdone : Settled links done) :
    Outcome links done nodes result := by
  induction h with
  | finished => exact .settled hdone (List.Subset.refl _) (List.nil_subset _)
  | closed hopen => exact .cycle ((hpath _ List.mem_cons_self).isCycle_closing hopen)
  | known _ hknown _ ih =>
    refine (ih (List.forall_mem_cons.1 hpath).2 hdone).weaken (List.Subset.refl _) ?_
    rintro i (_ | ⟨_, hi⟩)
    · exact .inl hknown
    · exact .inr hi
  | stopped hnot _ _ ih =>
    obtain ⟨hnode, -⟩ := List.forall_mem_cons.1 hpath
    cases ih (hnode.step hlinks hnot) hdone with
    | cycle hcycle => exact .cycle hcycle
  | passed hnot _ _ _ ihinner ihouter =>
    obtain ⟨hnode, hrest⟩ := List.forall_mem_cons.1 hpath
    cases ihinner (hnode.step hlinks hnot) hdone with
    | settled hmore hsub hall =>
      -- all that follow the node are settled, and so it is settled itself
      have hsettled := hmore.cons fun j hj => hall (mem_next.2 hj)
      refine (ihouter hrest hsettled).weaken (List.subset_cons_of_subset _ hsub) ?_
      rintro i (_ | ⟨_, hi⟩)
      · exact .inl List.mem_cons_self
      · exact .inr hi

variable {graph : FlowGraph}

/-- The search of a graph settles all its nodes or finds a cycle. -/
theorem outcome_search (hlinks : Below graph.links graph.size) :
    Outcome graph.links [] (List.range graph.size)
      ((List.range graph.size).foldlM (visit graph.links (graph.size + 1) []) []) := by
  obtain ⟨entered, hcourse⟩ := exists_course_search hlinks (Nat.lt_succ_self _)
  exact hcourse.outcome hlinks (fun i hi => .start (List.mem_range.1 hi)) ⟨by simp, by simp⟩

/-- A cycle that the search answers is one. -/
theorem isCycle_of_cycle?_eq_some (hlinks : Below graph.links graph.size) {cycle : List ℕ}
    (h : graph.cycle? = some cycle) : IsCycle graph.links cycle := by
  have houtcome := outcome_search hlinks
  rw [cycle?] at h
  split at h
  next => cases h
  next hfold =>
    rw [hfold] at houtcome
    cases houtcome with
    | cycle hcycle => exact Option.some.inj h ▸ hcycle

/-- The search finds no cycle exactly when there is none. -/
theorem cycle?_eq_none_iff (hlinks : Below graph.links graph.size) :
    graph.cycle? = none ↔ graph.Acyclic := by
  constructor
  · intro h
    have houtcome := outcome_search hlinks
    rw [cycle?] at h
    split at h
    next hfold =>
      rw [hfold] at houtcome
      cases houtcome with
      | settled hmore _ hall =>
        refine acyclic_iff.2 fun i hcycle => ?_
        -- what lies on a cycle has a link, and so it is a node, and settled
        obtain ⟨j, hlink, -⟩ := TransGen.head'_iff.1 hcycle
        exact hmore.acyclic i (hall (List.mem_range.2 (hlinks i j hlink).1)) hcycle
    next => cases h
  · intro h
    by_contra hsome
    obtain ⟨cycle, hcycle⟩ := Option.ne_none_iff_exists'.1 hsome
    obtain ⟨i, hi⟩ := (isCycle_of_cycle?_eq_some hlinks hcycle).not_acyclic
    exact acyclic_iff.1 h i hi

end FlowCheck.FlowGraph
