import FlowCheck.Proofs.Graph.Export
import FlowCheck.Proofs.Graph.Links
import Mathlib.Data.List.Nodup

/-!
# The ids of nodes in a flowchart

A step id may be any text, but the id of a node in a flowchart is made of few characters and is no
word of the grammar. Characters are replaced and words get a start, so that different steps can come
to the same id, and the later one gets a number. With its number it can run into the id of a step
that comes after it. So what is kept from step to step is that the ids that are taken are different
and can all be used (`UsableIds`).

## Main definitions

* `FindsFree`: the search for an id that is not taken, without a bound on the numbers that it tries;
* `Assigns`: the run over the steps, with one such search for each;
* `IsNodeId`: the id can be used in a flowchart;
* `NamesEnds`: the lines of edges name their ends as the lines of nodes do.
-/

namespace FlowCheck.FlowGraph

open Result

variable {taken steps : List String} {base id step : String} {k : ℕ}

/-! ## The search for a free id -/

/-- The search from a variant on ends at an id: it passes over the variants that are taken. -/
inductive FindsFree (taken : List String) (base : String) : ℕ → String → Prop
  /-- The variant is free. -/
  | free {k : ℕ} : idVariant base k ∉ taken → FindsFree taken base k (idVariant base k)
  /-- The variant is taken, and the search goes on with the next one. -/
  | next {k : ℕ} {id : String} : idVariant base k ∈ taken → FindsFree taken base (k + 1) id →
      FindsFree taken base k id

/-- The search ends at one id only. -/
theorem FindsFree.unique {other : String} (h : FindsFree taken base k id)
    (hother : FindsFree taken base k other) : id = other := by
  induction h with
  | free hfree =>
    cases hother with
    | free => rfl
    | next htaken => exact absurd htaken hfree
  | next htaken _ ih =>
    cases hother with
    | free hfree => exact absurd htaken hfree
    | next _ hrest => exact ih hrest

/-- The search ends at a variant that is not taken. -/
theorem FindsFree.exists_variant (h : FindsFree taken base k id) :
    id ∉ taken ∧ ∃ j, id = idVariant base j := by
  induction h with
  | free hfree => exact ⟨hfree, _, rfl⟩
  | next _ _ ih => exact ih

/-- The first variant is the text itself. -/
@[simp]
theorem idVariant_zero (base : String) : idVariant base 0 = base := rfl

/-- The characters of a variant with a number. -/
@[simp]
theorem toList_idVariant_succ (base : String) (k : ℕ) :
    (idVariant base (k + 1)).toList = base.toList ++ '_' :: Nat.toDigits 10 (k + 2) := by
  rw [← Nat.toList_repr]
  simp only [idVariant, String.toList_append, List.append_assoc]
  rfl

/-- No two variants are the same. -/
theorem idVariant_injective (base : String) : Function.Injective (idVariant base) := by
  intro i j h
  rw [← String.toList_inj] at h
  cases i with
  | zero =>
    cases j with
    | zero => rfl
    | succ j => simp at h
  | succ i =>
    cases j with
    | zero => simp at h
    | succ j =>
      rw [toList_idVariant_succ, toList_idVariant_succ, List.append_cancel_left_eq,
        List.cons.injEq] at h
      -- the digits give the number back
      have hnumber := congrArg (Nat.ofDigitChars 10 · 0) h.2
      simp only [Nat.ofDigitChars_toDigits (b := 10) (by decide) (by decide)] at hnumber
      omega

/-- One of as many variants as there are taken ids and one more is free. -/
theorem exists_variant_notMem (taken : List String) (base : String) :
    ∃ k < taken.length + 1, idVariant base k ∉ taken := by
  by_contra! hall
  -- otherwise all these variants, which are different, would be among the taken ids
  have hnodup : ((List.range (taken.length + 1)).map (idVariant base)).Nodup :=
    List.nodup_range.map (idVariant_injective base)
  have hsub : (List.range (taken.length + 1)).map (idVariant base) ⊆ taken := by
    intro id hid
    obtain ⟨k, hk, rfl⟩ := List.mem_map.1 hid
    exact hall k (List.mem_range.1 hk)
  have hle := (hnodup.subperm hsub).length_le
  rw [List.length_map, List.length_range] at hle
  omega

/-- A search comes to the first variant that is free from every variant before it. -/
theorem findsFree_of_taken {j : ℕ} (hfree : idVariant base k ∉ taken)
    (htaken : ∀ i < k, idVariant base i ∈ taken) (hj : j ≤ k) :
    FindsFree taken base j (idVariant base k) := by
  induction hj using Nat.decreasingInduction with
  | self => exact .free hfree
  | of_succ j hj ih => exact .next (htaken j hj) ih

/-- The search ends, and ends at the id that is assigned. -/
theorem findsFree_freeId (taken : List String) (base : String) :
    FindsFree taken base 0 (freeId taken base) := by
  rw [freeId, List.find?_map]
  cases hfind : (List.range (taken.length + 1)).find?
      ((fun id => !taken.contains id) ∘ idVariant base) with
  | none =>
    obtain ⟨k, hk, hfree⟩ := exists_variant_notMem taken base
    have hnone := List.find?_eq_none.1 hfind k (List.mem_range.2 hk)
    simp [hfree] at hnone
  | some k =>
    obtain ⟨hfree, -, htaken⟩ := List.find?_range_eq_some.1 hfind
    refine findsFree_of_taken (by simpa using hfree) (fun i hi => ?_) (Nat.zero_le k)
    simpa using htaken i hi

/-! ## The run over the steps -/

/-- Ids are assigned to the steps, one after the other, when each search for an id ends. -/
inductive Assigns : List (String × String) → List String → List (String × String) → Prop
  /-- No step is left. -/
  | done {table : List (String × String)} : Assigns table [] table
  /-- The next step gets the id at which the search ends. -/
  | step {table last : List (String × String)} {step id : String} {rest : List String} :
      FindsFree (table.map Prod.snd) (idBase step) 0 id → Assigns ((step, id) :: table) rest last →
      Assigns table (step :: rest) last

variable {table last : List (String × String)}

/-- The run comes to its end, and there is only one. -/
theorem assigns_iff : Assigns table steps last ↔ last = assignIds table steps := by
  constructor
  · intro h
    induction h with
    | done => rfl
    | step hfinds _ ih =>
      rw [ih, assignIds, hfinds.unique (findsFree_freeId _ _)]
  · rintro rfl
    induction steps generalizing table with
    | nil => exact .done
    | cons step rest ih => exact .step (findsFree_freeId _ _) ih

/-! ## Usable ids -/

/-- A text can be the id of a node: it is not empty, has letters, digits and underscores only, and
is no word of the grammar, also when letters are changed from small to large. -/
structure IsNodeId (id : String) : Prop where
  /-- It is not empty. -/
  ne_empty : id ≠ ""
  /-- It has letters, digits and underscores only. -/
  isIdChar : ∀ c ∈ id.toList, isIdChar c = true
  /-- It is no word of the grammar, whatever letters are large. -/
  not_reserved : String.ofList (id.toList.map Char.toLower) ∉ reservedWords

/-- A digit can stand in an id. -/
theorem isIdChar_of_isDigit {c : Char} (h : c.isDigit = true) : isIdChar c = true := by
  have hrange : '0' ≤ c ∧ c ≤ '9' := by simpa [Char.isDigit, Char.le_def] using h
  simp [FlowGraph.isIdChar, hrange]

/-- No word of the grammar has an underscore. -/
theorem not_reserved_of_underscore {chars : List Char} (h : '_' ∈ chars) :
    String.ofList (chars.map Char.toLower) ∉ reservedWords := by
  intro hmem
  have hnone : ∀ word ∈ reservedWords, '_' ∉ word.toList := by decide
  refine hnone _ hmem ?_
  rw [String.toList_ofList]
  exact List.mem_map.2 ⟨'_', h, rfl⟩

/-- What an id starts from can be used. -/
theorem isNodeId_idBase (step : String) : IsNodeId (idBase step) := by
  rw [idBase]
  set chars := step.toList.map fun c => if isIdChar c then c else '_' with hchars
  have hletters : ∀ c ∈ chars, isIdChar c = true := by
    intro c hc
    obtain ⟨d, -, rfl⟩ := List.mem_map.1 hc
    split
    · assumption
    · decide
  -- without a character the id starts from an underscore
  have hstart : ∀ c ∈ (if chars.isEmpty then ['_'] else chars), isIdChar c = true := by
    split
    · simpa using (by decide : isIdChar '_' = true)
    · exact hletters
  have hne : (if chars.isEmpty then ['_'] else chars) ≠ [] := by
    split
    · simp
    · next hnot => simpa using hnot
  generalize (if chars.isEmpty then ['_'] else chars) = start at hstart hne
  split
  · constructor
    · simp [← String.toList_inj]
    · intro c hc
      rw [String.toList_append, List.mem_append] at hc
      rcases hc with hc | hc
      · exact List.all_eq_true.1 (by decide : "step_".toList.all isIdChar = true) c hc
      · rw [String.toList_ofList] at hc
        exact hstart c hc
    · rw [String.toList_append]
      exact not_reserved_of_underscore (List.mem_append_left _ (by decide))
  · next hfree =>
    constructor
    · simpa [← String.toList_inj] using hne
    · simpa using hstart
    · simpa using hfree

/-- The variants of a usable id can be used. -/
theorem IsNodeId.idVariant (h : IsNodeId base) (k : ℕ) : IsNodeId (idVariant base k) := by
  cases k with
  | zero => exact h
  | succ k =>
    have hchars := toList_idVariant_succ base k
    constructor
    · rw [ne_eq, ← String.toList_inj, hchars]
      simp
    · intro c hc
      rw [hchars, List.mem_append, List.mem_cons] at hc
      rcases hc with hc | rfl | hc
      · exact h.isIdChar c hc
      · decide
      · -- what is left are the digits of the number
        have hdigit := Nat.isDigit_of_mem_toDigits (b := 10) (by decide) (by decide) hc
        exact isIdChar_of_isDigit hdigit
    · rw [hchars]
      exact not_reserved_of_underscore (List.mem_append_right _ List.mem_cons_self)

/-- The entries of a table give usable ids, and no two of them the same. -/
structure UsableIds (table : List (String × String)) : Prop where
  /-- Every id can be used. -/
  isNodeId : ∀ entry ∈ table, IsNodeId entry.2
  /-- No id is given twice. -/
  nodup : (table.map Prod.snd).Nodup

/-- The ids stay usable when a step gets an id that a search ends at. -/
theorem UsableIds.cons (h : UsableIds table)
    (hfinds : FindsFree (table.map Prod.snd) (idBase step) 0 id) :
    UsableIds ((step, id) :: table) := by
  obtain ⟨hfree, j, rfl⟩ := hfinds.exists_variant
  constructor
  · exact List.forall_mem_cons.2 ⟨(isNodeId_idBase step).idVariant j, h.isNodeId⟩
  · exact List.nodup_cons.2 ⟨hfree, h.nodup⟩

/-- The ids stay usable through a run. -/
theorem Assigns.usableIds (h : Assigns table steps last) (htable : UsableIds table) :
    UsableIds last := by
  induction h with
  | done => exact htable
  | step hfinds _ ih => exact ih (htable.cons hfinds)

/-- A run gives an id to each step, after those that are there before. -/
theorem Assigns.map_fst (h : Assigns table steps last) :
    last.map Prod.fst = steps.reverse ++ table.map Prod.fst := by
  induction h with
  | done => rfl
  | step _ _ ih => simp [ih]

/-- Steps with the same usable id are the same. -/
theorem UsableIds.eq_of_lookup (h : UsableIds table) {other : String}
    (hstep : table.lookup step = some id) (hother : table.lookup other = some id) :
    step = other := by
  have hentry := List.inj_on_of_nodup_map h.nodup (Keyed.mem_of_lookup hstep)
    (Keyed.mem_of_lookup hother) rfl
  exact congrArg Prod.fst hentry

/-- The ids that are assigned to some steps can be used. -/
theorem usableIds_assignIds (steps : List String) : UsableIds (assignIds [] steps) :=
  (assigns_iff.2 rfl).usableIds ⟨by simp, by simp⟩

/-- Each of the steps has an id. -/
theorem exists_lookup_assignIds (h : step ∈ steps) :
    ∃ id, (assignIds [] steps).lookup step = some id := by
  rw [← Option.ne_none_iff_exists', ne_eq, List.lookup_eq_none_iff]
  have hkeys : (assignIds [] steps).map Prod.fst = steps.reverse := by
    simpa using (assigns_iff.2 rfl : Assigns [] steps _).map_fst
  intro hnone
  rw [← List.mem_reverse, ← hkeys] at h
  obtain ⟨entry, hentry, rfl⟩ := List.mem_map.1 h
  simpa using hnone entry hentry

/-- The id of each of the steps can be used. -/
theorem isNodeId_mermaidId (h : step ∈ steps) :
    IsNodeId (mermaidId (assignIds [] steps) step) := by
  obtain ⟨id, hid⟩ := exists_lookup_assignIds h
  rw [mermaidId, hid]
  exact (usableIds_assignIds steps).isNodeId _ (Keyed.mem_of_lookup hid)

/-- Different steps have different ids. -/
theorem mermaidId_inj {other : String} (h : step ∈ steps) (hother : other ∈ steps) :
    mermaidId (assignIds [] steps) step = mermaidId (assignIds [] steps) other ↔ step = other := by
  obtain ⟨id, hid⟩ := exists_lookup_assignIds h
  obtain ⟨id', hid'⟩ := exists_lookup_assignIds hother
  refine ⟨fun heq => ?_, fun heq => by rw [heq]⟩
  obtain rfl : id = id' := by simpa [mermaidId, hid, hid'] using heq
  exact (usableIds_assignIds steps).eq_of_lookup hid hid'

/-! ## The lines of a flowchart -/

/-- The ids of the nodes of a graph. -/
def nodeIds (graph : FlowGraph) : List (String × String) :=
  assignIds [] graph.stepIds

/-- The lines of the nodes of a graph. -/
def nodeLines (graph : FlowGraph) : List String :=
  graph.nodes.map (mermaidNode graph.nodeIds)

/-- The line is that of an edge of a graph. -/
def IsEdgeLine (graph : FlowGraph) (edge : Edge) (line : String) : Prop :=
  ∃ source target, graph.nodes[edge.source]? = some source ∧
    graph.nodes[edge.target]? = some target ∧ mermaidEdge graph.nodeIds edge source target = line

variable {graph : FlowGraph} {text : String}

/-- Both nodes at the ends of an edge are found where both are there. -/
theorem ends_eq_ok_iff {edge : Edge} {source target : Node} :
    graph.ends edge = .ok (source, target) ↔
      graph.nodes[edge.source]? = some source ∧ graph.nodes[edge.target]? = some target := by
  rw [ends]
  split <;> simp_all

/-- What is made of an edge and the nodes at its ends is made where both nodes are there. -/
theorem ends_bind_eq_ok_iff {α : Type} {edge : Edge} {f : Node → Node → α} {x : α} :
    (graph.ends edge >>= fun (source, target) => pure (f source target)) = .ok x ↔
      ∃ source target, graph.nodes[edge.source]? = some source ∧
        graph.nodes[edge.target]? = some target ∧ f source target = x := by
  rw [bind_eq_ok_iff]
  constructor
  · rintro ⟨⟨source, target⟩, hends, hx⟩
    obtain ⟨hsource, htarget⟩ := ends_eq_ok_iff.1 hends
    exact ⟨source, target, hsource, htarget, pure_eq_ok_iff.1 hx⟩
  · rintro ⟨source, target, hsource, htarget, rfl⟩
    exact ⟨(source, target), ends_eq_ok_iff.2 ⟨hsource, htarget⟩, rfl⟩

/-- A graph is written as its header, the lines of its nodes, an empty line and the lines of its
edges. -/
theorem toMermaid_eq_ok_iff : graph.toMermaid = .ok text ↔
    ∃ edgeLines, List.Forall₂ graph.IsEdgeLine graph.edges edgeLines ∧
      text = String.intercalate "\n"
        (["flowchart LR"] ++ graph.nodeLines ++ [""] ++ edgeLines) ++ "\n" := by
  rw [toMermaid, bind_eq_ok_iff]
  simp only [mapM_eq_ok_iff, ends_bind_eq_ok_iff, pure_eq_ok_iff]
  exact exists_congr fun lines => and_congr Iff.rfl ⟨Eq.symm, Eq.symm⟩

/-! ## The ids in the lines -/

/-- The id at the start of a line, behind the indentation. -/
def startId (line : String) : String :=
  String.ofList ((line.toList.drop 2).takeWhile isIdChar)

/-- The id at the end of a line. -/
def endId (line : String) : String :=
  String.ofList (line.toList.reverse.takeWhile isIdChar).reverse

/-- An id that something else follows is the first one that is read. -/
theorem takeWhile_isIdChar (h : IsNodeId id) {c : Char} (hc : isIdChar c = false)
    (rest : List Char) : (id.toList ++ c :: rest).takeWhile isIdChar = id.toList := by
  rw [List.takeWhile_append_of_pos h.isIdChar, List.takeWhile_cons_of_neg (by simp [hc]),
    List.append_nil]

/-- A line of a node starts with its id. -/
theorem startId_mermaidNode {node : Node} (h : IsNodeId (mermaidId table node.step)) :
    startId (mermaidNode table node) = mermaidId table node.step := by
  -- whatever the shape is, it does not start with a character of an id
  obtain ⟨c, rest, hshape, hc⟩ : ∃ c rest, (mermaidNode table node).toList =
      ' ' :: ' ' :: ((mermaidId table node.step).toList ++ c :: rest) ∧ isIdChar c = false := by
    rw [mermaidNode]
    split
    · exact ⟨'(', _, by simp [String.toList_append]; rfl, by decide⟩
    · split
      · exact ⟨'(', _, by simp [String.toList_append]; rfl, by decide⟩
      · exact ⟨'[', _, by simp [String.toList_append]; rfl, by decide⟩
  rw [startId, hshape, List.drop_succ_cons, List.drop_succ_cons, List.drop_zero,
    takeWhile_isIdChar h hc, String.ofList_toList]

/-- The characters of a line of an edge. -/
theorem toList_mermaidEdge (table : List (String × String)) (edge : Edge) (source target : Node) :
    ∃ middle, (mermaidEdge table edge source target).toList =
      ' ' :: ' ' :: ((mermaidId table source.step).toList ++
        ' ' :: (middle ++ ' ' :: (mermaidId table target.step).toList)) := by
  obtain ⟨label, hline⟩ : ∃ label, mermaidEdge table edge source target =
      "  " ++ mermaidId table source.step ++ " " ++ edge.kind.arrow ++ label ++ " " ++
        mermaidId table target.step := ⟨_, rfl⟩
  refine ⟨edge.kind.arrow.toList ++ label.toList, ?_⟩
  simp only [hline, String.toList_append, List.append_assoc]
  rfl

/-- A line of an edge starts with the id of its source. -/
theorem startId_mermaidEdge {edge : Edge} {source target : Node}
    (h : IsNodeId (mermaidId table source.step)) :
    startId (mermaidEdge table edge source target) = mermaidId table source.step := by
  obtain ⟨middle, hline⟩ := toList_mermaidEdge table edge source target
  rw [startId, hline, List.drop_succ_cons, List.drop_succ_cons, List.drop_zero,
    takeWhile_isIdChar h (by decide), String.ofList_toList]

/-- A line of an edge ends with the id of its target. -/
theorem endId_mermaidEdge {edge : Edge} {source target : Node}
    (h : IsNodeId (mermaidId table target.step)) :
    endId (mermaidEdge table edge source target) = mermaidId table target.step := by
  obtain ⟨middle, hline⟩ := toList_mermaidEdge table edge source target
  have hreverse : (mermaidEdge table edge source target).toList.reverse =
      (mermaidId table target.step).toList.reverse ++ ' ' :: (' ' :: ' ' ::
        ((mermaidId table source.step).toList ++ ' ' :: middle)).reverse := by
    rw [hline]
    simp
  have hchars : ∀ c ∈ (mermaidId table target.step).toList.reverse, isIdChar c = true :=
    fun c hc => h.isIdChar c (List.mem_reverse.1 hc)
  rw [endId, hreverse, List.takeWhile_append_of_pos hchars,
    List.takeWhile_cons_of_neg (by decide), List.append_nil, List.reverse_reverse,
    String.ofList_toList]

/-! ## What the lines name -/

/-- One of the two ends of an edge. -/
inductive End where
  /-- The node that the edge leaves. -/
  | source
  /-- The node that the edge enters. -/
  | target

/-- The node at an end of an edge. -/
def End.node (edge : Edge) : End → ℕ
  | .source => edge.source
  | .target => edge.target

/-- The id at an end of the line of an edge. -/
def End.idIn (line : String) : End → String
  | .source => startId line
  | .target => endId line

/-- The lines of the edges name the nodes at the ends of the edges. -/
structure NamesEnds (graph : FlowGraph) (edgeLines : List String) : Prop where
  /-- There is one line for each edge. -/
  length_eq : edgeLines.length = graph.edges.length
  /-- At each end stands the id that is printed in the line of the node. -/
  printed : ∀ edge line, (edge, line) ∈ graph.edges.zip edgeLines → ∀ side : End,
    (graph.nodeLines[side.node edge]?).map startId = some (side.idIn line)
  /-- At two ends, of the same or of different edges, stands the same id exactly if the steps are
  the same. -/
  id_eq_iff : ∀ edge line, (edge, line) ∈ graph.edges.zip edgeLines →
    ∀ other otherLine, (other, otherLine) ∈ graph.edges.zip edgeLines → ∀ side otherSide : End,
      side.idIn line = otherSide.idIn otherLine ↔
        graph.stepId (side.node edge) = graph.stepId (otherSide.node other)

/-- At each end of the line of an edge stands the id of a node, and this is the node of the step
there. -/
theorem IsEdgeLine.exists_node {edge : Edge} {line : String} (h : graph.IsEdgeLine edge line)
    (side : End) : ∃ node, graph.nodes[side.node edge]? = some node ∧
      side.idIn line = mermaidId graph.nodeIds node.step := by
  obtain ⟨source, target, hsource, htarget, rfl⟩ := h
  have hid {i : ℕ} {node : Node} (hnode : graph.nodes[i]? = some node) :
      IsNodeId (mermaidId graph.nodeIds node.step) :=
    isNodeId_mermaidId (List.mem_map_of_mem (List.mem_of_getElem? hnode))
  cases side with
  | source => exact ⟨source, hsource, startId_mermaidEdge (hid hsource)⟩
  | target => exact ⟨target, htarget, endId_mermaidEdge (hid htarget)⟩

/-- The lines of the edges of a graph name their ends. -/
theorem namesEnds_of_forall₂ {edgeLines : List String}
    (h : List.Forall₂ graph.IsEdgeLine graph.edges edgeLines) : graph.NamesEnds edgeLines := by
  have hline {edge : Edge} {line : String} (hmem : (edge, line) ∈ graph.edges.zip edgeLines) :
      graph.IsEdgeLine edge line := (List.forall₂_iff_zip.1 h).2 hmem
  constructor
  case length_eq => exact h.length_eq.symm
  case printed =>
    intro edge line hmem side
    obtain ⟨node, hnode, hid⟩ := (hline hmem).exists_node side
    have hstep : node.step ∈ graph.stepIds :=
      List.mem_map_of_mem (List.mem_of_getElem? hnode)
    rw [nodeLines, List.getElem?_map, hnode, hid, Option.map_some, Option.map_some]
    exact congrArg some (startId_mermaidNode (isNodeId_mermaidId hstep))
  case id_eq_iff =>
    intro edge line hmem other otherLine hother side otherSide
    obtain ⟨node, hnode, hid⟩ := (hline hmem).exists_node side
    obtain ⟨node', hnode', hid'⟩ := (hline hother).exists_node otherSide
    have hmem (i : ℕ) (node : Node) (h : graph.nodes[i]? = some node) :
        node.step ∈ graph.stepIds ∧ graph.stepId i = node.step :=
      ⟨List.mem_map_of_mem (List.mem_of_getElem? h), by simp [stepId, h]⟩
    obtain ⟨hstep, hnumber⟩ := hmem _ _ hnode
    obtain ⟨hstep', hnumber'⟩ := hmem _ _ hnode'
    rw [hid, hid', hnumber, hnumber']
    exact mermaidId_inj hstep hstep'

/-- Steps with any ids, also repeated or empty ones, are given the ids of nodes in one run of
searches, each of which ends. The ids can be used, and different steps have different ids. In a
flowchart the lines of edges name the ends of the edges by the ids in the lines of their nodes, so
that two ends are named alike exactly if they are the same step. -/
theorem assignIds_usable (steps : List String) :
    (∀ table, Assigns [] steps table ↔ table = assignIds [] steps) ∧
      (∀ step ∈ steps, IsNodeId (mermaidId (assignIds [] steps) step)) ∧
      (∀ step ∈ steps, ∀ other ∈ steps,
        mermaidId (assignIds [] steps) step = mermaidId (assignIds [] steps) other →
          step = other) ∧
      ∀ graph : FlowGraph, graph.InRange →
        ∃ edgeLines, graph.NamesEnds edgeLines ∧
          graph.toMermaid = .ok (String.intercalate "\n"
            (["flowchart LR"] ++ graph.nodeLines ++ [""] ++ edgeLines) ++ "\n") := by
  refine ⟨fun table => assigns_iff, fun step => isNodeId_mermaidId,
    fun step hstep other hother => (mermaidId_inj hstep hother).1, fun graph hrange => ?_⟩
  obtain ⟨text, htext⟩ := exists_toMermaid hrange
  obtain ⟨edgeLines, hlines, rfl⟩ := toMermaid_eq_ok_iff.1 htext
  exact ⟨edgeLines, namesEnds_of_forall₂ hlines, htext⟩

/-- A graph with three steps that come to the same id, one of which has the number that another one
gets, and with a step that is a word of the grammar. -/
def crowdedGraph : FlowGraph :=
  let node (step : String) : Node := ⟨step, none, none, none, .null, false, false⟩
  { (empty "crowd" : FlowGraph) with
    nodes := ["get user", "get.user", "get_user_2", "End"].map node
    edges := [.ofText 0 1 .sequential none, .ofText 1 2 .onSuccess (some "go on"),
      .ofText 3 0 .onFailure (some "retry")] }

/-- Each of its edges names its ends. -/
theorem assignIds_usable_crowded :
    crowdedGraph.InRange ∧
      crowdedGraph.stepIds.map (mermaidId crowdedGraph.nodeIds) =
        ["get_user", "get_user_2", "get_user_2_2", "step_End"] ∧
      IsNodeId "step_End" ∧
      ∃ edgeLines, crowdedGraph.NamesEnds edgeLines ∧
        crowdedGraph.toMermaid = .ok (String.intercalate "\n"
          (["flowchart LR"] ++ crowdedGraph.nodeLines ++ [""] ++ edgeLines) ++ "\n") := by
  have hrange : crowdedGraph.InRange := by simp [InRange, crowdedGraph, size, Edge.ofText]
  obtain ⟨-, husable, -, hgraphs⟩ := assignIds_usable crowdedGraph.stepIds
  have hids : crowdedGraph.stepIds.map (mermaidId crowdedGraph.nodeIds) =
      ["get_user", "get_user_2", "get_user_2_2", "step_End"] := by decide +kernel
  have hword : mermaidId crowdedGraph.nodeIds "End" = "step_End" := by decide +kernel
  have hend : IsNodeId (mermaidId crowdedGraph.nodeIds "End") :=
    husable "End" (by decide +kernel)
  rw [hword] at hend
  exact ⟨hrange, hids, hend, hgraphs crowdedGraph hrange⟩

end FlowCheck.FlowGraph
