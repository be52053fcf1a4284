import FlowCheck.Proofs.Expression.Embedded
import FlowCheck.Proofs.Graph.Edges
import FlowCheck.Proofs.Graph.NodeId
import FlowCheck.Text.Lines

/-!
# The lines of a flowchart

A flowchart has a header, a line for each node, an empty line, and a line for each edge. What stands
in the labels comes from the document and can be any text. Quotes and bars in it are replaced, so
that each label ends where it should. Line feeds are kept, so that the flowchart has these lines and
no others exactly if no text in a label has a line feed (`lines_toMermaid_iff`).
-/

namespace FlowCheck

/-- The text does not go on in another line. -/
def Text.IsOneLine (text : String) : Prop :=
  '\n' ∉ text.toList

open Text (IsOneLine)

instance (text : String) : Decidable (IsOneLine text) :=
  inferInstanceAs (Decidable ('\n' ∉ text.toList))

/-- Two texts one after the other are on one line exactly if both are. -/
@[simp]
theorem Text.isOneLine_append {text rest : String} :
    IsOneLine (text ++ rest) ↔ IsOneLine text ∧ IsOneLine rest := by
  simp [IsOneLine]

/-- All texts that the graph of the workflow shows in its labels are on one line. -/
structure Workflow.ShowsOneLine (workflow : Workflow) (interface : Interface) : Prop where
  /-- The ids of the steps are. -/
  step : ∀ step ∈ workflow.steps, IsOneLine step.id
  /-- The ids of the operations that the steps call are. -/
  operation : ∀ step ∈ workflow.steps, ∀ id, step.operationId = .str id → IsOneLine id
  /-- The methods of these operations are. -/
  method : ∀ step ∈ workflow.steps, ∀ name, step.method? interface = some name → IsOneLine name
  /-- The names of the actions that go on at a step of the workflow are. -/
  action : ∀ edge ∈ workflow.jumpEdges, ∀ name, edge.description = some name → IsOneLine name

namespace FlowGraph

variable {table : List (String × String)} {node : Node} {text : String}

/-! ## Texts in labels -/

/-- No quote and no bar is left in a label. -/
theorem notMem_mermaidText (text : String) :
    '"' ∉ (mermaidText text).toList ∧ '|' ∉ (mermaidText text).toList := by
  have hchar (c : Char) : '"' ∉ mermaidChar c ∧ '|' ∉ mermaidChar c := by
    rw [mermaidChar]
    split
    · decide
    · split
      · decide
      · next hquote hbar => simp [Ne.symm hquote, Ne.symm hbar]
  simp only [mermaidText, String.toList_ofList, List.mem_flatMap]
  exact ⟨fun ⟨c, _, hc⟩ => (hchar c).1 hc, fun ⟨c, _, hc⟩ => (hchar c).2 hc⟩

/-- Line feeds stay as they are. -/
theorem isOneLine_mermaidText : IsOneLine (mermaidText text) ↔ IsOneLine text := by
  have hchar (c : Char) : '\n' ∈ mermaidChar c ↔ c = '\n' := by
    rw [mermaidChar]
    split
    · next h => subst h; decide
    · split
      · next h => subst h; decide
      · simp [eq_comm]
  simp [IsOneLine, mermaidText, hchar]

/-- Texts that are joined are on one line exactly if each of them is. -/
theorem isOneLine_intercalate {separator : String} (h : IsOneLine separator)
    {texts : List String} :
    IsOneLine (String.intercalate separator texts) ↔ ∀ text ∈ texts, IsOneLine text := by
  induction texts with
  | nil => simp [IsOneLine]
  | cons text rest ih =>
    cases rest with
    | nil => simp
    | cons next rest =>
      rw [List.forall_mem_cons, ← ih, String.intercalate_cons_cons]
      simp [h]

/-! ## The lines of nodes and edges -/

/-- What stands in front of the label of a node. -/
def shapeStart (node : Node) : String :=
  if node.hasCriteria then "(" else if node.hasOutputs then "([" else "["

/-- What stands behind the label of a node. -/
def shapeEnd (node : Node) : String :=
  if node.hasCriteria then ")" else if node.hasOutputs then "])" else "]"

/-- The text in the label of a node. -/
def nodeText (node : Node) : String :=
  String.intercalate "<br/>" node.labelParts

/-- The text in the label of an edge; an edge without a label has the empty one. -/
def edgeText (edge : Edge) : String :=
  edge.label.getD ""

/-- The line of a node: its id, and its label between quotes. -/
theorem mermaidNode_eq (table : List (String × String)) (node : Node) :
    mermaidNode table node = "  " ++ mermaidId table node.step ++ shapeStart node ++ "\"" ++
      mermaidText (nodeText node) ++ "\"" ++ shapeEnd node := by
  rw [mermaidNode, shapeStart, shapeEnd, nodeText, ← String.toList_inj]
  split
  · simp
  · split <;> simp

/-- The line of an edge with a label: the label stands between bars. -/
theorem mermaidEdge_of_ne (table : List (String × String)) {edge : Edge} (source target : Node)
    (h : edgeText edge ≠ "") :
    mermaidEdge table edge source target = "  " ++ mermaidId table source.step ++ " " ++
      edge.kind.arrow ++ "|" ++ mermaidText (edgeText edge) ++ "|" ++
        (" " ++ mermaidId table target.step) := by
  rw [mermaidEdge]
  rw [edgeText] at h ⊢
  split
  · next hempty => exact absurd hempty h
  · simp [← String.toList_inj]

/-- The line of an edge without a label. -/
theorem mermaidEdge_of_eq (table : List (String × String)) {edge : Edge} (source target : Node)
    (h : edgeText edge = "") :
    mermaidEdge table edge source target = "  " ++ mermaidId table source.step ++ " " ++
      edge.kind.arrow ++ (" " ++ mermaidId table target.step) := by
  rw [edgeText] at h
  simp [mermaidEdge, h, ← String.toList_inj]

/-- What stands between the first two marks in a line, and what stands behind them. -/
def cutLabel (mark : Char) (line : String) : String × String :=
  let rest := (line.toList.dropWhile (· ≠ mark)).drop 1
  (String.ofList (rest.takeWhile (· ≠ mark)), String.ofList ((rest.dropWhile (· ≠ mark)).drop 1))

/-- A label without the mark is cut out whole. -/
theorem cutLabel_eq {mark : Char} {start label rest line : String} (hstart : mark ∉ start.toList)
    (hlabel : mark ∉ label.toList)
    (hline : line.toList = start.toList ++ mark :: (label.toList ++ mark :: rest.toList)) :
    cutLabel mark line = (label, rest) := by
  have hkeep {chars : List Char} (h : mark ∉ chars) : ∀ c ∈ chars, decide (c ≠ mark) = true :=
    fun c hc => decide_eq_true (ne_of_mem_of_not_mem hc h)
  have hrest : (line.toList.dropWhile (· ≠ mark)).drop 1 =
      label.toList ++ mark :: rest.toList := by
    rw [hline, List.dropWhile_append_of_pos (hkeep hstart)]
    simp
  -- behind the first mark the label is what stands in front of the next one
  rw [cutLabel, hrest, List.takeWhile_append_of_pos (hkeep hlabel),
    List.dropWhile_append_of_pos (hkeep hlabel)]
  simp

/-- The label of a node ends at its own end, and the shape is closed behind it. -/
theorem cutLabel_mermaidNode (h : IsNodeId (mermaidId table node.step)) :
    cutLabel '"' (mermaidNode table node) = (mermaidText (nodeText node), shapeEnd node) := by
  have hstart : '"' ∉ ("  " ++ mermaidId table node.step ++ shapeStart node).toList := by
    have hid : '"' ∉ (mermaidId table node.step).toList :=
      fun hmem => absurd (h.isIdChar _ hmem) (by decide)
    have hshape : '"' ∉ (shapeStart node).toList := by
      rw [shapeStart]
      split
      · decide
      · split <;> decide
    simp [hid, hshape]
  refine cutLabel_eq hstart (notMem_mermaidText _).1 ?_
  rw [mermaidNode_eq]
  simp

/-- The label of an edge ends at its own end, and the target follows behind it. -/
theorem cutLabel_mermaidEdge {edge : Edge} {source target : Node}
    (h : IsNodeId (mermaidId table source.step)) (hlabel : edgeText edge ≠ "") :
    cutLabel '|' (mermaidEdge table edge source target) =
      (mermaidText (edgeText edge), " " ++ mermaidId table target.step) := by
  have hstart : '|' ∉ ("  " ++ mermaidId table source.step ++ " " ++ edge.kind.arrow).toList := by
    have hid : '|' ∉ (mermaidId table source.step).toList :=
      fun hmem => absurd (h.isIdChar _ hmem) (by decide)
    have harrow : '|' ∉ edge.kind.arrow.toList := by cases edge.kind <;> decide
    simp [hid, harrow]
  refine cutLabel_eq hstart (notMem_mermaidText _).2 ?_
  rw [mermaidEdge_of_ne table source target hlabel]
  simp

/-! ## Which lines are whole -/

/-- An id is on one line. -/
theorem IsNodeId.isOneLine {id : String} (h : IsNodeId id) : IsOneLine id :=
  fun hmem => absurd (h.isIdChar _ hmem) (by decide)

/-- The line of a node is one line exactly if the parts of its label are. -/
theorem isOneLine_mermaidNode (h : IsNodeId (mermaidId table node.step)) :
    IsOneLine (mermaidNode table node) ↔ ∀ part ∈ node.labelParts, IsOneLine part := by
  have hshape : IsOneLine (shapeStart node) ∧ IsOneLine (shapeEnd node) := by
    rw [shapeStart, shapeEnd]
    split
    · decide
    · split <;> decide
  have hframe : IsOneLine "  " ∧ IsOneLine "\"" ∧ IsOneLine "<br/>" := by decide
  rw [mermaidNode_eq, nodeText]
  simp [h.isOneLine, hshape, hframe, isOneLine_mermaidText, isOneLine_intercalate]

/-- The line of an edge is one line exactly if its label is. -/
theorem isOneLine_mermaidEdge {edge : Edge} {source target : Node}
    (hsource : IsNodeId (mermaidId table source.step))
    (htarget : IsNodeId (mermaidId table target.step)) :
    IsOneLine (mermaidEdge table edge source target) ↔ IsOneLine (edgeText edge) := by
  have harrow : IsOneLine edge.kind.arrow := by cases edge.kind <;> decide
  have hframe : IsOneLine "  " ∧ IsOneLine " " ∧ IsOneLine "|" ∧ IsOneLine "" := by decide
  by_cases hlabel : edgeText edge = ""
  · rw [mermaidEdge_of_eq table source target hlabel, hlabel]
    simp [hsource.isOneLine, htarget.isOneLine, harrow, hframe]
  · rw [mermaidEdge_of_ne table source target hlabel]
    simp [hsource.isOneLine, htarget.isOneLine, harrow, hframe, isOneLine_mermaidText]

/-- All texts in the labels of a graph are on one line. -/
structure ShowsOneLine (graph : FlowGraph) : Prop where
  /-- Those of the nodes are. -/
  node : ∀ node ∈ graph.nodes, ∀ part ∈ node.labelParts, IsOneLine part
  /-- Those of the edges are. -/
  edge : ∀ edge ∈ graph.edges, IsOneLine (edgeText edge)

variable {graph : FlowGraph} {edgeLines : List String}

/-- Lines that are made one for each edge are one line each exactly if the labels are. -/
theorem forall_isOneLine_edges {edges : List Edge}
    (h : List.Forall₂ graph.IsEdgeLine edges edgeLines) :
    (∀ line ∈ edgeLines, IsOneLine line) ↔ ∀ edge ∈ edges, IsOneLine (edgeText edge) := by
  have hid {i : ℕ} {node : Node} (hnode : graph.nodes[i]? = some node) :
      IsNodeId (mermaidId graph.nodeIds node.step) :=
    isNodeId_mermaidId (List.mem_map_of_mem (List.mem_of_getElem? hnode))
  induction h with
  | nil => simp
  | cons hline _ ih =>
    obtain ⟨source, target, hsource, htarget, rfl⟩ := hline
    rw [List.forall_mem_cons, List.forall_mem_cons,
      isOneLine_mermaidEdge (hid hsource) (hid htarget)]
    exact and_congr_right fun _ => ih

/-- The parts of a flowchart are one line each exactly if all texts in the labels are. -/
theorem forall_isOneLine_iff (h : List.Forall₂ graph.IsEdgeLine graph.edges edgeLines) :
    (∀ line ∈ ["flowchart LR"] ++ graph.nodeLines ++ [""] ++ edgeLines, IsOneLine line) ↔
      graph.ShowsOneLine := by
  have hnodes : (∀ line ∈ graph.nodeLines, IsOneLine line) ↔
      ∀ node ∈ graph.nodes, ∀ part ∈ node.labelParts, IsOneLine part := by
    rw [nodeLines, List.forall_mem_map]
    exact forall₂_congr fun node hnode =>
      isOneLine_mermaidNode (isNodeId_mermaidId (List.mem_map_of_mem hnode))
  have hframe : IsOneLine "flowchart LR" ∧ IsOneLine "" := by decide
  simp only [List.forall_mem_append, hnodes, forall_isOneLine_edges h, List.forall_mem_singleton,
    hframe, true_and, and_true]
  exact ⟨fun h => ⟨h.1, h.2⟩, fun hshows => ⟨hshows.node, hshows.edge⟩⟩

/-! ## The graph of a workflow -/

variable {workflow : Workflow} {interface : Interface} {options : Options}

/-- The parts of the label of a step are its id, the id of its operation and its method. -/
theorem forall_labelParts_iff {step : Step} :
    (∀ part ∈ (Node.ofStep interface step).labelParts, IsOneLine part) ↔
      IsOneLine step.id ∧ (∀ id, step.operationId = .str id → IsOneLine id) ∧
        ∀ name, step.method? interface = some name → IsOneLine name := by
  -- an empty text is left out of the label, and is on one line
  have hfilter {text? : Option String} :
      (∀ text ∈ (text?.filter (· != "")).toList, IsOneLine text) ↔
        ∀ text, text? = some text → IsOneLine text := by
    have hempty : IsOneLine "" := by decide
    simp only [Option.mem_toList, Option.filter_eq_some_iff, bne_iff_ne, ne_eq, and_imp]
    refine forall₂_congr fun text _ => ⟨fun h => ?_, fun h _ => h⟩
    by_cases htext : text = ""
    · exact htext ▸ hempty
    · exact h htext
  have hoperation (id : String) : step.operationId.str? = some id ↔ step.operationId = .str id := by
    cases step.operationId <;> simp [Value.str?]
  have hbracket : IsOneLine "[" ∧ IsOneLine "]" := by decide
  simp only [Node.labelParts, Node.ofStep, List.forall_mem_cons, List.forall_mem_append, hfilter,
    List.forall_mem_map, Text.isOneLine_append, hbracket, true_and, and_true, hoperation, and_assoc]

/-- The text of a reference to an output of a step is on one line. -/
theorem isOneLine_of_mem_references {step : Step} {id text : String}
    (h : (id, text) ∈ step.references) : IsOneLine text := by
  obtain ⟨e, he, hid⟩ := List.mem_filterMap.1 h
  obtain ⟨_, -, hpair⟩ := Option.map_eq_some_iff.1 hid
  obtain ⟨-, rfl⟩ := Prod.mk.inj hpair
  obtain ⟨value, -, hmem⟩ := Expression.mem_collectItems.1 he
  obtain ⟨whole, hwhole⟩ := Expression.exists_mem_embedded value hmem
  obtain ⟨token, htoken, rfl⟩ := List.mem_map.1 hwhole
  -- the text is a token, and no token has a line feed
  obtain ⟨rest, rfl, hrest⟩ := Expression.isTokenChar_of_mem_tokens htoken
  intro hfeed
  rw [String.toList_ofList] at hfeed
  rcases List.mem_cons.1 hfeed with hdollar | hmem
  · cases hdollar
  · exact absurd (hrest _ hmem) (by decide)

/-- An edge that does not go on by an action has a label on one line. -/
theorem isOneLine_edgeText (hnodup : (workflow.steps.map (·.id)).Nodup) {edge : Edge}
    (h : edge ∈ workflow.neighbourEdges ∨ edge ∈ workflow.dataEdges ∨
      edge ∈ workflow.conditionEdges) : IsOneLine (edgeText edge) := by
  rcases h with hneighbour | hdata | hcondition
  · obtain ⟨entry, -, rfl⟩ := List.mem_map.1 hneighbour
    show IsOneLine ""
    decide
  · obtain ⟨source, target, text, -, -, htext, hedge⟩ :=
      (Workflow.mem_dataEdges_iff hnodup).1 hdata
    rw [hedge]
    exact isOneLine_of_mem_references htext
  · obtain ⟨⟨step, i⟩, -, rfl⟩ := List.mem_map.1 hcondition
    have hframe : IsOneLine "Success criteria: " ∧ IsOneLine " conditions" := by decide
    -- the label counts the conditions, and does not show them
    have hnumber (n : ℕ) : IsOneLine (toString n) := by
      intro hfeed
      rw [show toString n = n.repr from rfl, Nat.toList_repr] at hfeed
      exact absurd (Nat.isDigit_of_mem_toDigits (by decide) (by decide) hfeed) (by decide)
    exact Text.isOneLine_append.2
      ⟨Text.isOneLine_append.2 ⟨hframe.1, hnumber (step.criteria.getD []).length⟩, hframe.2⟩

/-- An edge for an action shows the name of the action. -/
theorem label_of_mem_jumpEdges {edge : Edge} (h : edge ∈ workflow.jumpEdges) :
    edge.label = edge.description := by
  obtain ⟨⟨step, i⟩, -, hedge⟩ := List.mem_flatMap.1 h
  rcases List.mem_append.1 hedge with hsuccess | hfailure
  · obtain ⟨action, -, hmade⟩ := List.mem_filterMap.1 hsuccess
    obtain ⟨j, -, rfl⟩ := Option.map_eq_some_iff.1 hmade
    rfl
  · obtain ⟨action, -, hmade⟩ := List.mem_filterMap.1 hfailure
    obtain ⟨j, -, rfl⟩ := Option.map_eq_some_iff.1 hmade
    rfl

/-- What a graph shows of a workflow is on one line exactly if the texts from the workflow are. -/
theorem showsOneLine_ofWorkflow_iff (hnodup : (workflow.steps.map (·.id)).Nodup)
    (interface : Interface) (options : Options) :
    (ofWorkflow workflow interface options).ShowsOneLine ↔ workflow.ShowsOneLine interface := by
  have hnodes : (∀ node ∈ (ofWorkflow workflow interface options).nodes,
      ∀ part ∈ node.labelParts, IsOneLine part) ↔ ∀ step ∈ workflow.steps, IsOneLine step.id ∧
        (∀ id, step.operationId = .str id → IsOneLine id) ∧
          ∀ name, step.method? interface = some name → IsOneLine name := by
    rw [nodes_ofWorkflow, List.forall_mem_map]
    exact forall₂_congr fun step _ => forall_labelParts_iff
  have hjumps : (∀ edge ∈ workflow.jumpEdges, IsOneLine (edgeText edge)) ↔
      ∀ edge ∈ workflow.jumpEdges, ∀ name, edge.description = some name → IsOneLine name := by
    refine forall₂_congr fun edge hedge => ?_
    rw [edgeText, label_of_mem_jumpEdges hedge]
    cases edge.description with
    | none => exact iff_of_true (by decide) (by simp)
    | some name => simp
  have hedges : (∀ edge ∈ (ofWorkflow workflow interface options).edges,
      IsOneLine (edgeText edge)) ↔ ∀ edge ∈ workflow.jumpEdges, IsOneLine (edgeText edge) := by
    rw [edges_eq_groups hnodup]
    refine ⟨fun h edge hedge => h edge (List.mem_append_right _ hedge), fun h edge hedge => ?_⟩
    -- whether the data edges and the loops are there or not, their labels are on one line
    rcases List.mem_append.1 hedge with hgroups | hjump
    · refine isOneLine_edgeText hnodup ?_
      simp only [List.mem_append, List.mem_ite_nil_right] at hgroups
      tauto
    · exact h edge hjump
  constructor
  · rintro ⟨hnode, hedge⟩
    have hsteps := hnodes.1 hnode
    exact ⟨fun step hstep => (hsteps step hstep).1, fun step hstep => (hsteps step hstep).2.1,
      fun step hstep => (hsteps step hstep).2.2, hjumps.1 (hedges.1 hedge)⟩
  · rintro ⟨hstep, hoperation, hmethod, haction⟩
    exact ⟨hnodes.2 fun step h => ⟨hstep step h, hoperation step h, hmethod step h⟩,
      hedges.2 (hjumps.2 haction)⟩

/-! ## The whole flowchart -/

/-- In the lines of a flowchart the labels end where they should. -/
structure KeepsLabels (graph : FlowGraph) (edgeLines : List String) : Prop where
  /-- The lines of the edges are those of the edges in their order. -/
  line : List.Forall₂ graph.IsEdgeLine graph.edges edgeLines
  /-- Between the quotes in the line of a node stands its whole label, and behind them only the end
  of the shape. -/
  node : ∀ node line, (node, line) ∈ graph.nodes.zip graph.nodeLines →
    cutLabel '"' line = (mermaidText (nodeText node), shapeEnd node)
  /-- Between the bars in the line of an edge stands its whole label, and behind them only the id of
  its target. -/
  edge : ∀ edge line, (edge, line) ∈ graph.edges.zip edgeLines → edgeText edge ≠ "" →
    cutLabel '|' line =
      (mermaidText (edgeText edge), " " ++ mermaidId graph.nodeIds (graph.stepId edge.target))

/-- The lines of the nodes and edges of a graph keep the labels. -/
theorem keepsLabels_of_forall₂ (h : List.Forall₂ graph.IsEdgeLine graph.edges edgeLines) :
    graph.KeepsLabels edgeLines := by
  have hid {node : Node} (hnode : node ∈ graph.nodes) :
      IsNodeId (mermaidId graph.nodeIds node.step) :=
    isNodeId_mermaidId (List.mem_map_of_mem hnode)
  constructor
  case line => exact h
  case node =>
    intro node line hmem
    have hcut : List.Forall₂ (fun node line =>
        cutLabel '"' line = (mermaidText (nodeText node), shapeEnd node))
          graph.nodes graph.nodeLines :=
      List.forall₂_map_right_iff.2 (List.forall₂_same.2 fun node hnode =>
        cutLabel_mermaidNode (hid hnode))
    exact (List.forall₂_iff_zip.1 hcut).2 hmem
  case edge =>
    intro edge line hmem hlabel
    obtain ⟨source, target, hsource, htarget, rfl⟩ := (List.forall₂_iff_zip.1 h).2 hmem
    have hstep : graph.stepId edge.target = target.step := by simp [stepId, htarget]
    rw [hstep]
    exact cutLabel_mermaidEdge (hid (List.mem_of_getElem? hsource)) hlabel

/-- The flowchart of an accepted workflow is written, and each label in it ends where it should.
Split at the line feeds it is a header, one line for each step, an empty line and one line for each
edge, with a line feed at the end, exactly if no text that is shown has a line feed: no id of a step
or of an operation, no method, and no name of an action that goes on at a step. Otherwise there are
more lines. -/
theorem lines_toMermaid_iff {value : Value} {document : Document}
    (hread : Document.read value = .ok document) (hworkflow : workflow ∈ document.workflows)
    (interface : Interface) (options : Options) :
    ∃ text edgeLines, (ofWorkflow workflow interface options).toMermaid = .ok text ∧
      (ofWorkflow workflow interface options).KeepsLabels edgeLines ∧
      (Text.lines text = ["flowchart LR"] ++ (ofWorkflow workflow interface options).nodeLines ++
        [""] ++ edgeLines ++ [""] ↔ workflow.ShowsOneLine interface) ∧
      ((Text.lines text).length = workflow.steps.length +
        (ofWorkflow workflow interface options).edges.length + 3 ↔
          workflow.ShowsOneLine interface) := by
  have hnodup := ((Document.read_eq_ok_iff.1 hread).2.workflows workflow hworkflow).nodup
  have hrange : (ofWorkflow workflow interface options).InRange := inRange_ofWorkflow
  obtain ⟨text, htext⟩ := exists_toMermaid hrange
  obtain ⟨edgeLines, hlines, rfl⟩ := toMermaid_eq_ok_iff.1 htext
  have hshows := (forall_isOneLine_iff hlines).trans
    (showsOneLine_ofWorkflow_iff hnodup interface options)
  refine ⟨_, edgeLines, htext, keepsLabels_of_forall₂ hlines, ?_, ?_⟩
  · -- the parts are their own lines exactly if they have no line feeds
    rw [Text.lines_intercalate_lineFeed (by simp), List.append_left_inj,
      Text.flatMap_lines_eq_iff]
    exact hshows
  · -- and the number of lines is that of the parts only then, since no part has less than one
    have hlength : (["flowchart LR"] ++ (ofWorkflow workflow interface options).nodeLines ++ [""] ++
        edgeLines).length = workflow.steps.length +
          (ofWorkflow workflow interface options).edges.length + 2 := by
      have hnodes := congrArg List.length (nodes_ofWorkflow workflow interface options)
      rw [List.length_map] at hnodes
      simp only [List.length_append, nodeLines, List.length_map, List.length_singleton,
        ← hlines.length_eq, hnodes]
      omega
    have hcount := Text.length_flatMap_lines_eq_iff.trans hshows
    rw [hlength] at hcount
    rw [Text.lines_intercalate_lineFeed (by simp), List.length_append, List.length_singleton,
      ← hcount]
    omega

/-- The flowchart of the tour has three lines for steps and eight for edges. -/
theorem lines_toMermaid_tour :
    ∃ document workflow, Document.read tourDocument = .ok document ∧
      workflow ∈ document.workflows ∧ workflow.ShowsOneLine .absent ∧
      ∃ text, (ofWorkflow workflow .absent ⟨true, true⟩).toMermaid = .ok text ∧
        (Text.lines text).length = 3 + 8 + 3 := by
  have hread : Document.read tourDocument = .ok _ := rfl
  have hnodup := ((Document.read_eq_ok_iff.1 hread).2.workflows _ (List.mem_singleton.2 rfl)).nodup
  have hshows := (showsOneLine_ofWorkflow_iff hnodup .absent ⟨true, true⟩).1
    ⟨by decide +kernel, by decide +kernel⟩
  obtain ⟨text, edgeLines, htext, -, -, hlength⟩ :=
    lines_toMermaid_iff hread (List.mem_singleton.2 rfl) .absent ⟨true, true⟩
  exact ⟨_, _, hread, List.mem_singleton.2 rfl, hshows, text, htext,
    (hlength.2 hshows).trans (by decide +kernel)⟩

/-- The value of a document with a step whose id has a line feed. -/
def splitDocument : Value :=
  .map [(.str "arazzo", .str "1.0.0"),
    (.str "info", .map [(.str "title", .str "T"), (.str "version", .str "1")]),
    (.str "workflows", .list [.map [(.str "workflowId", .str "w"), (.str "steps", .list
      [.map [(.str "stepId", .str "a\nb"), (.str "operationId", .str "x")]])]])]

/-- The document is accepted, and the one step of its workflow has two lines in the flowchart. -/
theorem lines_toMermaid_split :
    ∃ document workflow text, Document.read splitDocument = .ok document ∧
      workflow ∈ document.workflows ∧ workflow.steps.length = 1 ∧
      (ofWorkflow workflow .absent ⟨true, false⟩).toMermaid = .ok text ∧
      Text.lines text = ["flowchart LR", "  a_b[\"a", "b<br/>x\"]", "", ""] := by
  have hread : Document.read splitDocument = .ok _ := rfl
  exact ⟨_, _, _, hread, List.mem_singleton.2 rfl, rfl, rfl, by decide +kernel⟩

end FlowGraph

end FlowCheck
