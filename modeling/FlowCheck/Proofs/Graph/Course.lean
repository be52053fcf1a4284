import FlowCheck.Proofs.Graph.Links
import Mathlib.Data.List.Chain
import Mathlib.Tactic.Tauto

/-!
# The course of the search

The search in depth works under a bound on its depth, and tells only how it ends. `Course` tells
the same search without a bound, together with the nodes that it enters. A course is finite, so
that the search comes to an end by itself:

- `exists_course`: a bound that is greater than the number of nodes is never reached;
- `Course.unique`: there is only one course;
- `Course.nodup`: no node is entered twice.
-/

namespace FlowCheck.FlowGraph

variable {links : List (ℕ × ℕ)} {size : ℕ}

/-- The nodes of the path lead to the node, latest first, and none of them occurs twice. -/
structure IsPath (links : List (ℕ × ℕ)) (size : ℕ) (path : List ℕ) (node : ℕ) : Prop where
  /-- No node of the path occurs twice. -/
  nodup : path.Nodup
  /-- The node and those of the path are nodes of the graph. -/
  lt_size : ∀ i ∈ node :: path, i < size
  /-- Each of them has a link to the one before it in the list. -/
  chain : (node :: path).IsChain fun i j => Linked links j i

/-- A new node makes a path to the nodes that follow it. -/
theorem IsPath.step {path : List ℕ} {node : ℕ} (hlinks : Below links size)
    (h : IsPath links size path node) (hnew : node ∉ path) :
    ∀ j ∈ next links node, IsPath links size (node :: path) j := by
  intro j hj
  have hlink := mem_next.1 hj
  constructor
  · exact List.nodup_cons.2 ⟨hnew, h.nodup⟩
  · exact List.forall_mem_cons.2 ⟨(hlinks node j hlink).2, h.lt_size⟩
  · exact List.isChain_cons_cons.2 ⟨hlink, h.chain⟩

/-- A node of the graph is the start of a path. -/
theorem IsPath.start {i : ℕ} (hi : i < size) : IsPath links size [] i :=
  ⟨List.nodup_nil, by simpa using hi, List.isChain_singleton _⟩

/-- The course of a search that visits the nodes of a list one after the other. `path` leads to
them, latest node first, and `done` holds the nodes that are done before. The nodes that are
entered, because they are neither on the path nor done, are listed in their order. The search ends
with the larger `done`, or with a cycle. -/
inductive Course (links : List (ℕ × ℕ)) :
    (path done nodes entered : List ℕ) → Except (List ℕ) (List ℕ) → Prop
  /-- No node is left to be visited. -/
  | finished {path done : List ℕ} : Course links path done [] [] (.ok done)
  /-- The next node is on the path, so that a cycle closes. -/
  | closed {path done rest : List ℕ} {node : ℕ} : node ∈ path →
      Course links path done (node :: rest) [] (.error (closing path node))
  /-- The next node is done. -/
  | known {path done rest entered : List ℕ} {node : ℕ} {result : Except (List ℕ) (List ℕ)} :
      node ∉ path → node ∈ done → Course links path done rest entered result →
      Course links path done (node :: rest) entered result
  /-- The next node is entered, and what follows it closes a cycle. -/
  | stopped {path done rest inner cycle : List ℕ} {node : ℕ} : node ∉ path → node ∉ done →
      Course links (node :: path) done (next links node) inner (.error cycle) →
      Course links path done (node :: rest) (node :: inner) (.error cycle)
  /-- The next node is entered, and it is done after all that follow it. -/
  | passed {path done rest inner more outer : List ℕ} {node : ℕ}
      {result : Except (List ℕ) (List ℕ)} : node ∉ path → node ∉ done →
      Course links (node :: path) done (next links node) inner (.ok more) →
      Course links path (node :: more) rest outer result →
      Course links path done (node :: rest) (node :: (inner ++ outer)) result

variable {path done nodes entered : List ℕ} {node depth : ℕ} {result : Except (List ℕ) (List ℕ)}

/-- A visit of a node of the path closes a cycle. -/
theorem visit_of_mem_path (h : node ∈ path) :
    visit links (depth + 1) path done node = .error (closing path node) := by
  rw [visit, if_pos (by simpa using h)]

/-- A visit of a node that is done changes nothing. -/
theorem visit_of_mem_done (hpath : node ∉ path) (hdone : node ∈ done) :
    visit links (depth + 1) path done node = .ok done := by
  rw [visit, if_neg (by simpa using hpath), if_pos (by simpa using hdone)]

/-- A visit of any other node goes on to those that follow it. -/
theorem visit_of_notMem (hpath : node ∉ path) (hdone : node ∉ done) :
    visit links (depth + 1) path done node =
      ((next links node).foldlM (visit links depth (node :: path)) done).map (node :: ·) := by
  rw [visit, if_neg (by simpa using hpath), if_neg (by simpa using hdone)]
  cases (next links node).foldlM (visit links depth (node :: path)) done <;> rfl

/-- The search under a bound takes a course that does not know the bound, when the bound is greater
than what the path leaves of the nodes. -/
theorem exists_course (hlinks : Below links size) (depth : ℕ) (path done nodes : List ℕ)
    (hpath : ∀ i ∈ nodes, IsPath links size path i) (hdepth : size < depth + path.length) :
    ∃ entered, Course links path done nodes entered
      (nodes.foldlM (visit links depth path) done) := by
  -- a node that is entered makes the path longer by one, and leaves a bound that is less by one
  induction depth generalizing path done nodes with
  | zero =>
    cases nodes with
    | nil => exact ⟨[], .finished⟩
    | cons node rest =>
      have hnode := hpath node List.mem_cons_self
      have hle := length_le_of_nodup hnode.nodup
        fun i hi => hnode.lt_size i (List.mem_cons_of_mem _ hi)
      omega
  | succ depth ih =>
    induction nodes generalizing done with
    | nil => exact ⟨[], .finished⟩
    | cons node rest ihrest =>
      have hnode := hpath node List.mem_cons_self
      have hrest := fun i hi => hpath i (List.mem_cons_of_mem _ hi)
      rw [List.foldlM_cons]
      by_cases hopen : node ∈ path
      · rw [visit_of_mem_path hopen]
        exact ⟨[], .closed hopen⟩
      by_cases hknown : node ∈ done
      · rw [visit_of_mem_done hopen hknown]
        obtain ⟨entered, hcourse⟩ := ihrest done hrest
        exact ⟨entered, .known hopen hknown hcourse⟩
      · rw [visit_of_notMem hopen hknown]
        obtain ⟨inner, hinner⟩ := ih (node :: path) done (next links node)
          (hnode.step hlinks hopen) (by rw [List.length_cons]; omega)
        -- the nodes that follow come first, and the rest of the list only if they close no cycle
        cases hfold : (next links node).foldlM (visit links depth (node :: path)) done with
        | error cycle =>
          rw [hfold] at hinner
          exact ⟨node :: inner, .stopped hopen hknown hinner⟩
        | ok more =>
          rw [hfold] at hinner
          obtain ⟨outer, houter⟩ := ihrest (node :: more) hrest
          exact ⟨node :: (inner ++ outer), .passed hopen hknown hinner houter⟩

/-- Each node is the start of a path of its own, so that the number of nodes is enough. -/
theorem exists_course_search {graph : FlowGraph} (hlinks : Below graph.links graph.size) {depth : ℕ}
    (hdepth : graph.size < depth) :
    ∃ entered, Course graph.links [] [] (List.range graph.size) entered
      ((List.range graph.size).foldlM (visit graph.links depth []) []) :=
  exists_course hlinks depth [] [] _ (fun _ hi => .start (List.mem_range.1 hi))
    (by simpa using hdepth)

namespace Course

/-- There is only one course. -/
theorem unique {others : List ℕ} {other : Except (List ℕ) (List ℕ)}
    (h : Course links path done nodes entered result)
    (hother : Course links path done nodes others other) : others = entered ∧ other = result := by
  -- whether the next node is on the path, and whether it is done, leaves one rule for it
  induction h generalizing others other with
  | finished =>
    cases hother
    exact ⟨rfl, rfl⟩
  | closed hopen =>
    cases hother with
    | closed => exact ⟨rfl, rfl⟩
    | known hnot => exact absurd hopen hnot
    | stopped hnot => exact absurd hopen hnot
    | passed hnot => exact absurd hopen hnot
  | known hnot hknown _ ih =>
    cases hother with
    | closed hopen => exact absurd hopen hnot
    | known _ _ hrest => exact ih hrest
    | stopped _ hnew => exact absurd hknown hnew
    | passed _ hnew => exact absurd hknown hnew
  | stopped hnot hnew _ ih =>
    cases hother with
    | closed hopen => exact absurd hopen hnot
    | known _ hknown => exact absurd hknown hnew
    | stopped _ _ hinner =>
      obtain ⟨rfl, heq⟩ := ih hinner
      exact ⟨rfl, heq⟩
    | passed _ _ hinner => cases (ih hinner).2
  | passed hnot hnew _ _ ihinner ihouter =>
    cases hother with
    | closed hopen => exact absurd hopen hnot
    | known _ hknown => exact absurd hknown hnew
    | stopped _ _ hinner => cases (ihinner hinner).2
    | passed _ _ hinner houter =>
      obtain ⟨rfl, heq⟩ := ihinner hinner
      obtain rfl := Except.ok.inj heq
      obtain ⟨rfl, heq⟩ := ihouter houter
      exact ⟨rfl, heq⟩

/-- A search that comes to no cycle is done with the nodes that it has entered, besides those that
were done before. -/
theorem mem_iff (h : Course links path done nodes entered result) {more : List ℕ}
    (hmore : result = .ok more) (i : ℕ) : i ∈ more ↔ i ∈ entered ∨ i ∈ done := by
  induction h generalizing more with
  | finished =>
    obtain rfl := Except.ok.inj hmore
    simp
  | closed => cases hmore
  | known _ _ _ ih => exact ih hmore
  | stopped => cases hmore
  | passed _ _ _ _ ihinner ihouter =>
    rw [ihouter hmore, List.mem_cons, ihinner rfl, List.mem_cons, List.mem_append]
    tauto

/-- No node is entered that is on the path or done, and none is entered twice. -/
theorem nodup (h : Course links path done nodes entered result) :
    entered.Nodup ∧ ∀ i ∈ entered, i ∉ path ∧ i ∉ done := by
  induction h with
  | finished => exact ⟨List.nodup_nil, by simp⟩
  | closed => exact ⟨List.nodup_nil, by simp⟩
  | known _ _ _ ih => exact ih
  | @stopped path done rest inner cycle node hnot hnew _ ih =>
    obtain ⟨hnodup, hfresh⟩ := ih
    have hself : node ∉ inner := fun hmem => (hfresh node hmem).1 List.mem_cons_self
    refine ⟨List.nodup_cons.2 ⟨hself, hnodup⟩, List.forall_mem_cons.2 ⟨⟨hnot, hnew⟩, ?_⟩⟩
    intro i hi
    exact ⟨fun hmem => (hfresh i hi).1 (List.mem_cons_of_mem _ hmem), (hfresh i hi).2⟩
  | @passed path done rest inner more outer node result hnot hnew hinner _ ihinner ihouter =>
    obtain ⟨hinnerNodup, hinnerFresh⟩ := ihinner
    obtain ⟨houterNodup, houterFresh⟩ := ihouter
    have hmore := hinner.mem_iff rfl
    -- what the inner search has entered is done when the outer one goes on
    have hdisjoint : ∀ i ∈ inner, ∀ j ∈ outer, i ≠ j := by
      rintro i hi j hj rfl
      exact (houterFresh i hj).2 (List.mem_cons_of_mem _ ((hmore i).2 (.inl hi)))
    have hself : node ∉ inner ++ outer := by
      intro hmem
      rcases List.mem_append.1 hmem with hmem | hmem
      · exact (hinnerFresh node hmem).1 List.mem_cons_self
      · exact (houterFresh node hmem).2 List.mem_cons_self
    refine ⟨List.nodup_cons.2 ⟨hself, List.nodup_append.2
      ⟨hinnerNodup, houterNodup, hdisjoint⟩⟩, List.forall_mem_cons.2 ⟨⟨hnot, hnew⟩, ?_⟩⟩
    intro i hi
    rcases List.mem_append.1 hi with hi | hi
    · exact ⟨fun hmem => (hinnerFresh i hi).1 (List.mem_cons_of_mem _ hmem), (hinnerFresh i hi).2⟩
    · refine ⟨(houterFresh i hi).1, fun hmem => (houterFresh i hi).2 ?_⟩
      exact List.mem_cons_of_mem _ ((hmore i).2 (.inr hmem))

/-- All that is entered is a node. -/
theorem lt_size (hlinks : Below links size) (h : Course links path done nodes entered result)
    (hnodes : ∀ i ∈ nodes, i < size) : ∀ i ∈ entered, i < size := by
  have hnext (node : ℕ) : ∀ j ∈ next links node, j < size :=
    fun j hj => (hlinks node j (mem_next.1 hj)).2
  induction h with
  | finished => simp
  | closed => simp
  | known _ _ _ ih => exact ih (List.forall_mem_cons.1 hnodes).2
  | stopped _ _ _ ih =>
    exact List.forall_mem_cons.2 ⟨(List.forall_mem_cons.1 hnodes).1, ih (hnext _)⟩
  | passed _ _ _ _ ihinner ihouter =>
    obtain ⟨hnode, hrest⟩ := List.forall_mem_cons.1 hnodes
    exact List.forall_mem_cons.2
      ⟨hnode, List.forall_mem_append.2 ⟨ihinner (hnext _), ihouter hrest⟩⟩

end Course

end FlowCheck.FlowGraph
