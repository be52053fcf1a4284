import FlowCheck.Proofs.Graph.Export
import FlowCheck.Proofs.Graph.NodeId

/-!
# Reading DOT back

A reader for the DOT texts of graphs. It cuts a text into tokens, where a quoted text ends at the
first quote that does not stand behind an odd number of backslashes, divides the tokens into
statements, and reads the statements about the graph, its nodes and its edges. Whatever stands in
the ids and labels of a graph, the reader finds what was drawn: graphs with the same text are drawn
alike (`read_toDot`).

## Main definitions

* `Dot.tokens`, `Dot.Statement`, `Dot.read`: the reader;
* `FlowGraph.dotStatements`: the statements that stand for a graph;
* `FlowGraph.DrawnAlike`: two graphs are the same in all that is drawn.
-/

namespace FlowCheck

/-- The kind of edges with a line style and a colour. -/
def EdgeKind.ofDotStyle? (style : String × String) : Option EdgeKind :=
  all.find? fun kind => kind.dotStyle == style

/-- Each kind of edges has a style of its own. -/
theorem EdgeKind.ofDotStyle?_dotStyle (kind : EdgeKind) :
    ofDotStyle? kind.dotStyle = some kind := by
  cases kind <;> decide

namespace Dot

/-! ## The reader -/

/-- A part of a DOT text. -/
inductive Token where
  /-- A text between quotes, as it is written there. -/
  | quoted (raw : List Char)
  /-- A character outside of quotes. -/
  | sign (c : Char)
deriving DecidableEq

/-- Where the reader stands. -/
inductive Place where
  /-- Outside of quotes. -/
  | outside
  /-- Inside of quotes, behind a text. -/
  | inside (raw : List Char)

/-- The number of backslashes at the end of a text. -/
def backslashes (raw : List Char) : ℕ :=
  (raw.reverse.takeWhile (· = '\\')).length

/-- The tokens of a text. A quote ends a quoted text unless it stands behind an odd number of
backslashes. Blanks outside of quotes are left out. -/
def tokens : Place → List Char → List Token
  | _, [] => []
  | .outside, c :: rest =>
    if c = '"' then tokens (.inside []) rest
    else if c = ' ' ∨ c = '\n' then tokens .outside rest
    else .sign c :: tokens .outside rest
  | .inside raw, c :: rest =>
    if c = '"' ∧ backslashes raw % 2 = 0 then .quoted raw :: tokens .outside rest
    else tokens (.inside (raw ++ [c])) rest

/-- The pieces of a quoted text behind the start of the first one. A backslash before `n` ends a
piece; before any other character it is left out. -/
def pieces (piece : List Char) : List Char → List (List Char)
  | [] => [piece]
  | '\\' :: c :: rest =>
    if c = 'n' then piece :: pieces [] rest else pieces (piece ++ [c]) rest
  | c :: rest => pieces (piece ++ [c]) rest

/-- The pieces of a quoted text. -/
def piecesOf (raw : List Char) : List String :=
  (pieces [] raw).map String.ofList

/-- What a quoted text says, with line feeds between its pieces. -/
def contentOf (raw : List Char) : String :=
  String.intercalate "\n" (piecesOf raw)

/-- The attributes in a list of tokens: the quoted texts, each with the name in front of it. -/
def attributes (name : List Char) : List Token → List (List Char × List Char)
  | [] => []
  | .quoted raw :: rest => (name, raw) :: attributes [] rest
  | .sign c :: rest => attributes (if c = '=' ∨ c = ',' then name else name ++ [c]) rest

/-- The attribute with a name. -/
def attributeOf (name : String) (tokens : List Token) : List Char :=
  ((attributes [] tokens).lookup name.toList).getD []

/-- What a statement says. -/
inductive Statement where
  /-- The name of the graph. -/
  | graph (name : String)
  /-- A node with the pieces of its label and its colour. -/
  | node (step : String) (label : List String) (color : String)
  /-- An edge with its kind and its label. -/
  | edge (source target : String) (kind : EdgeKind) (label : String)
deriving DecidableEq

namespace Statement

/-- Reads a statement; those that say nothing of a graph, a node or an edge are left out. -/
def ofTokens? : List Token → Option Statement
  | .quoted step :: .sign '[' :: rest =>
    some (.node (contentOf step) (piecesOf (attributeOf "label" rest))
      (String.ofList (attributeOf "color" rest)))
  | .quoted source :: .sign '-' :: .sign '>' :: .quoted target :: .sign '[' :: rest =>
    (EdgeKind.ofDotStyle? (String.ofList (attributeOf "style" rest),
        String.ofList (attributeOf "color" rest))).map fun kind =>
      .edge (contentOf source) (contentOf target) kind (contentOf (attributeOf "label" rest))
  | tokens =>
    match ("digraph".toList.map Token.sign).isPrefixOf? tokens with
    | some (.quoted name :: _) => some (.graph (contentOf name))
    | _ => none

/-- The step, the label and the colour in a statement about a node. -/
def node? : Statement → Option (String × List String × String)
  | .node step label color => some (step, label, color)
  | _ => none

/-- The steps, the kind and the label in a statement about an edge. -/
def edge? : Statement → Option (String × String × EdgeKind × String)
  | .edge source target kind label => some (source, target, kind, label)
  | _ => none

end Statement

/-- The statements of a text. -/
def read (text : String) : List Statement :=
  ((tokens .outside text.toList).splitOn (.sign ';')).filterMap Statement.ofTokens?

/-! ## Quoted texts -/

/-- A backslash more or another character. -/
theorem backslashes_concat (raw : List Char) (c : Char) :
    backslashes (raw ++ [c]) = if c = '\\' then backslashes raw + 1 else 0 := by
  rw [backslashes, List.reverse_concat, List.takeWhile_cons]
  split <;> simp_all [backslashes]

/-- A text that can stand between quotes: behind any text after which a quote would end, the reader
goes on to its end, and there again a quote would end. -/
def IsQuotable (text : List Char) : Prop :=
  ∀ raw, backslashes raw % 2 = 0 → backslashes (raw ++ text) % 2 = 0 ∧
    ∀ rest, tokens (.inside raw) (text ++ rest) = tokens (.inside (raw ++ text)) rest

/-- The empty text can stand between quotes. -/
theorem isQuotable_nil : IsQuotable [] :=
  fun raw hraw => ⟨by rwa [List.append_nil], fun rest => by rw [List.append_nil, List.nil_append]⟩

/-- Two texts that can stand between quotes can do so one after the other. -/
theorem IsQuotable.append {text other : List Char} (h : IsQuotable text)
    (hother : IsQuotable other) : IsQuotable (text ++ other) := by
  intro raw hraw
  obtain ⟨heven, htext⟩ := h raw hraw
  obtain ⟨hevenOther, htextOther⟩ := hother (raw ++ text) heven
  rw [← List.append_assoc]
  exact ⟨hevenOther, fun rest => by rw [List.append_assoc, htext, htextOther]⟩

/-- A character that is no quote and no backslash can stand between quotes. -/
theorem isQuotable_singleton {c : Char} (hquote : c ≠ '"') (hbackslash : c ≠ '\\') :
    IsQuotable [c] := by
  intro raw _
  rw [backslashes_concat, if_neg hbackslash]
  refine ⟨rfl, fun rest => ?_⟩
  rw [List.singleton_append, tokens, if_neg fun h => hquote h.1]

/-- Any character behind a backslash can stand between quotes. -/
theorem isQuotable_backslash {c : Char} : IsQuotable ['\\', c] := by
  intro raw hraw
  have hsplit : raw ++ ['\\', c] = raw ++ ['\\'] ++ [c] := by simp
  have hodd : backslashes (raw ++ ['\\']) = backslashes raw + 1 := by
    rw [backslashes_concat, if_pos rfl]
  rw [hsplit]
  constructor
  · rw [backslashes_concat, hodd]
    split <;> omega
  · intro rest
    -- the number of backslashes is odd behind the first one, so that no quote ends there
    rw [List.cons_append, List.singleton_append, tokens,
      if_neg fun h => absurd h.1 (by decide), tokens, if_neg (by omega)]

/-- Texts that are joined can stand between quotes if they and the separator can. -/
theorem isQuotable_intercalate {separator : String} (hseparator : IsQuotable separator.toList)
    {texts : List String} (h : ∀ text ∈ texts, IsQuotable text.toList) :
    IsQuotable (String.intercalate separator texts).toList := by
  induction texts with
  | nil => exact isQuotable_nil
  | cons text rest ih =>
    rw [List.forall_mem_cons] at h
    cases rest with
    | nil => simpa using h.1
    | cons next rest =>
      rw [String.intercalate_cons_cons, String.toList_append, String.toList_append]
      exact (h.1.append hseparator).append (ih h.2)

/-- A text without quotes and backslashes can stand between quotes. -/
theorem isQuotable_of_notMem {text : List Char} (hquote : '"' ∉ text) (hbackslash : '\\' ∉ text) :
    IsQuotable text := by
  induction text with
  | nil => exact isQuotable_nil
  | cons c rest ih =>
    rw [List.mem_cons, not_or] at hquote hbackslash
    exact (isQuotable_singleton (Ne.symm hquote.1) (Ne.symm hbackslash.1)).append
      (ih hquote.2 hbackslash.2)

/-- An escaped text can stand between quotes. -/
theorem isQuotable_dotEscape (text : String) : IsQuotable (FlowGraph.dotEscape text).toList := by
  rw [FlowGraph.dotEscape, String.toList_ofList]
  induction text.toList with
  | nil => exact isQuotable_nil
  | cons c rest ih =>
    rw [List.flatMap_cons, FlowGraph.dotChar]
    refine IsQuotable.append ?_ ih
    split
    · -- a quote or a backslash, behind the backslash that was put there
      exact isQuotable_backslash
    · next h =>
      simp only [Bool.or_eq_true, decide_eq_true_eq, not_or] at h
      exact isQuotable_singleton h.2 h.1

/-! ## Pieces -/

/-- An escaped character is read as itself. -/
theorem pieces_dotChar (piece : List Char) (c : Char) (rest : List Char) :
    pieces piece (FlowGraph.dotChar c ++ rest) = pieces (piece ++ [c]) rest := by
  rw [FlowGraph.dotChar]
  split
  · next h =>
    have hn : c ≠ 'n' := by rintro rfl; simp at h
    rw [List.cons_append, List.singleton_append, pieces, if_neg hn]
  · next h =>
    simp only [Bool.or_eq_true, decide_eq_true_eq, not_or] at h
    rw [List.singleton_append, pieces]
    exact fun d _ heq => absurd heq h.1

/-- An escaped text is read as itself. -/
theorem pieces_dotEscape (piece : List Char) (text : String) (rest : List Char) :
    pieces piece ((FlowGraph.dotEscape text).toList ++ rest) =
      pieces (piece ++ text.toList) rest := by
  rw [FlowGraph.dotEscape, String.toList_ofList]
  induction text.toList generalizing piece with
  | nil => simp
  | cons c chars ih =>
    rw [List.flatMap_cons, List.append_assoc, pieces_dotChar, ih, List.append_assoc,
      List.singleton_append]

/-- An escaped text is a single piece. -/
theorem contentOf_dotEscape (text : String) :
    contentOf (FlowGraph.dotEscape text).toList = text := by
  have hpieces := pieces_dotEscape [] text []
  rw [List.append_nil, List.nil_append] at hpieces
  rw [contentOf, piecesOf, hpieces, pieces, List.map_singleton, String.ofList_toList,
    String.intercalate_singleton]

/-- The pieces of escaped texts that are joined are the texts. -/
theorem piecesOf_intercalate {texts : List String} (h : texts ≠ []) :
    piecesOf (String.intercalate "\\n" (texts.map FlowGraph.dotEscape)).toList = texts := by
  have hpieces : pieces [] (String.intercalate "\\n" (texts.map FlowGraph.dotEscape)).toList =
      texts.map String.toList := by
    induction texts with
    | nil => exact absurd rfl h
    | cons text rest ih =>
      cases rest with
      | nil =>
        have htext := pieces_dotEscape [] text []
        rw [List.append_nil, List.nil_append] at htext
        rw [List.map_singleton, String.intercalate_singleton, htext, pieces, List.map_singleton]
      | cons next rest =>
        rw [List.map_cons, List.map_cons, String.intercalate_cons_cons, String.toList_append,
          String.toList_append, List.append_assoc, pieces_dotEscape, List.nil_append]
        -- all backslashes of the text are used up, so that the one of the separator ends the piece
        have hseparator (chars : List Char) : pieces text.toList ("\\n".toList ++ chars) =
            text.toList :: pieces [] chars := rfl
        rw [hseparator, List.map_cons]
        exact congrArg _ (ih (List.cons_ne_nil _ _))
  rw [piecesOf, hpieces, List.map_map]
  exact List.map_id'' (fun text => String.ofList_toList) texts

/-! ## Tokens of lines -/

/-- The tokens of a text without quotes. -/
def signs (text : String) : List Token :=
  (text.toList.filter fun c => ¬(c = ' ' ∨ c = '\n')).map .sign

/-- A text between quotes. -/
def quote (text : String) : String :=
  "\"" ++ text ++ "\""

/-- Wherever the text stands outside of quotes, its tokens are these. -/
def HasTokens (text : String) (found : List Token) : Prop :=
  ∀ rest, tokens .outside (text.toList ++ rest) = found ++ tokens .outside rest

/-- Outside of quotes the reader takes up the signs and leaves out the blanks. -/
theorem hasTokens_signs {text : String} (h : '"' ∉ text.toList) : HasTokens text (signs text) := by
  intro rest
  rw [signs]
  generalize text.toList = chars at h ⊢
  induction chars with
  | nil => rfl
  | cons c chars ih =>
    rw [List.mem_cons, not_or] at h
    rw [List.cons_append, tokens, if_neg (Ne.symm h.1), ih h.2, List.filter_cons]
    by_cases hblank : c = ' ' ∨ c = '\n'
    · rw [if_pos hblank, if_neg (mt of_decide_eq_true (not_not_intro hblank))]
    · rw [if_neg hblank, if_pos (decide_eq_true hblank)]
      rfl

/-- A quoted text is one token. -/
theorem hasTokens_quote {text : String} (h : IsQuotable text.toList) :
    HasTokens (quote text) [.quoted text.toList] := by
  intro rest
  obtain ⟨heven, htext⟩ := h [] rfl
  have hchars : (quote text).toList ++ rest = '"' :: (text.toList ++ '"' :: rest) := by
    simp [quote, String.toList_append]
  rw [hchars, tokens, if_pos rfl, htext, List.nil_append, tokens]
  exact if_pos ⟨rfl, heven⟩

/-- The tokens of two texts stand one after the other. -/
theorem HasTokens.append {text other : String} {found more : List Token}
    (h : HasTokens text found) (hother : HasTokens other more) :
    HasTokens (text ++ other) (found ++ more) := by
  intro rest
  rw [String.toList_append, List.append_assoc, h, hother, List.append_assoc]

/-- A line with quoted texts, each behind a text that stands in front of it. -/
def lineOf (fields : List (String × String)) (last : String) : String :=
  fields.foldr (fun (start, text) rest => start ++ quote text ++ rest) last

/-- The tokens of a line with quoted texts. -/
def lineTokens (fields : List (String × String)) (last : String) : List Token :=
  fields.foldr (fun (start, text) rest => signs start ++ [.quoted text.toList] ++ rest)
    (signs last)

/-- In a line of texts that can stand between quotes each of them is one token. -/
theorem hasTokens_lineOf {fields : List (String × String)} {last : String}
    (hlast : '"' ∉ last.toList) (hstart : ∀ field ∈ fields, '"' ∉ field.1.toList)
    (htext : ∀ field ∈ fields, IsQuotable field.2.toList) :
    HasTokens (lineOf fields last) (lineTokens fields last) := by
  induction fields with
  | nil => exact hasTokens_signs hlast
  | cons field rest ih =>
    rw [List.forall_mem_cons] at hstart htext
    exact ((hasTokens_signs hstart.1).append (hasTokens_quote htext.1)).append
      (ih hstart.2 htext.2)

/-- The tokens of lines stand one after the other. -/
theorem hasTokens_intercalate {lines : List String} {found : List (List Token)}
    (h : List.Forall₂ HasTokens lines found) :
    HasTokens (String.intercalate "\n" lines) found.flatten := by
  induction h with
  | nil => exact fun rest => rfl
  | cons hline htail ih =>
    cases htail with
    | nil => simpa using hline
    | cons hnext htail =>
      rw [String.intercalate_cons_cons, List.flatten_cons]
      have hfeed : HasTokens "\n" [] := hasTokens_signs (by decide)
      simpa using (hline.append hfeed).append ih

/-- Statements that each end in a semicolon are divided at the semicolons. -/
theorem splitOn_statements {bodies : List (List Token)} (h : ∀ body ∈ bodies, Token.sign ';' ∉ body)
    (last : List Token) :
    (bodies.flatMap (· ++ [Token.sign ';']) ++ last).splitOn (.sign ';') =
      bodies ++ last.splitOn (.sign ';') := by
  induction bodies with
  | nil => rfl
  | cons body rest ih =>
    rw [List.forall_mem_cons] at h
    rw [List.flatMap_cons, List.append_assoc, List.append_assoc, List.singleton_append,
      List.splitOn_append_cons_self, List.splitOn_eq_singleton h.1, ih h.2]
    rfl

end Dot

namespace FlowGraph

open Dot

/-! ## The statements of a graph -/

/-- The quoted texts in the line of a node. -/
def nodeFields (node : Node) : List (String × String) :=
  [("  ", dotEscape node.step),
    (" [label=", String.intercalate "\\n" (node.labelParts.map dotEscape)),
    (", color=", node.color), (", fillcolor=", node.fill), (", style=", "rounded,filled")]

/-- The quoted texts in the line of an edge. -/
def edgeFields (edge : Edge) (source target : Node) : List (String × String) :=
  [("  ", dotEscape source.step), (" -> ", dotEscape target.step),
    (" [style=", edge.kind.dotStyle.1), (", color=", edge.kind.dotStyle.2),
    (", label=", dotEscape (edge.label.getD ""))]

/-- The line of a node, by its quoted texts. -/
theorem dotNode_eq (node : Node) : dotNode node = lineOf (nodeFields node) "];" := by
  rw [← String.toList_inj]
  -- the equation lemma of a definition with so many joined texts is slow to make
  delta dotNode
  simp [lineOf, nodeFields, quote]

/-- The line of an edge, by its quoted texts. -/
theorem dotEdge_eq (edge : Edge) (source target : Node) :
    dotEdge edge source target = lineOf (edgeFields edge source target) "];" := by
  rw [← String.toList_inj]
  delta dotEdge
  simp [lineOf, edgeFields, quote]

/-- The line of a node is a statement. -/
theorem hasTokens_dotNode (node : Node) :
    HasTokens (dotNode node) (lineTokens (nodeFields node) "]" ++ [.sign ';']) := by
  have hcolor : IsQuotable node.color.toList ∧ IsQuotable node.fill.toList := by
    rw [Node.color, Node.fill]
    split
    · exact ⟨isQuotable_of_notMem (by decide) (by decide),
        isQuotable_of_notMem (by decide) (by decide)⟩
    · split <;> exact ⟨isQuotable_of_notMem (by decide) (by decide),
        isQuotable_of_notMem (by decide) (by decide)⟩
  have hseparator : IsQuotable "\\n".toList := isQuotable_backslash
  have hlabel : IsQuotable
      (String.intercalate "\\n" (node.labelParts.map dotEscape)).toList :=
    isQuotable_intercalate hseparator
      (List.forall_mem_map.2 fun part _ => isQuotable_dotEscape part)
  have hstyle : IsQuotable "rounded,filled".toList :=
    isQuotable_of_notMem (by decide) (by decide)
  rw [dotNode_eq]
  refine hasTokens_lineOf (by decide) ?_ ?_
  · simp [nodeFields]
  · rw [nodeFields]
    simp only [List.forall_mem_cons]
    exact ⟨isQuotable_dotEscape _, hlabel, hcolor.1, hcolor.2, hstyle, by simp⟩

/-- The line of an edge is a statement. -/
theorem hasTokens_dotEdge (edge : Edge) (source target : Node) :
    HasTokens (dotEdge edge source target)
      (lineTokens (edgeFields edge source target) "]" ++ [.sign ';']) := by
  have hstyle : IsQuotable edge.kind.dotStyle.1.toList ∧
      IsQuotable edge.kind.dotStyle.2.toList := by
    cases edge.kind <;> exact ⟨isQuotable_of_notMem (by decide) (by decide),
      isQuotable_of_notMem (by decide) (by decide)⟩
  rw [dotEdge_eq]
  refine hasTokens_lineOf (by decide) ?_ ?_
  · simp [edgeFields]
  · rw [edgeFields]
    simp only [List.forall_mem_cons]
    exact ⟨isQuotable_dotEscape _, isQuotable_dotEscape _, hstyle.1, hstyle.2,
      isQuotable_dotEscape _, by simp⟩

/-- The statement of a node is read as what is drawn of it. -/
theorem ofTokens?_nodeFields (node : Node) :
    Statement.ofTokens? (lineTokens (nodeFields node) "]") =
      some (.node node.step node.labelParts node.color) := by
  have hread : Statement.ofTokens? (lineTokens (nodeFields node) "]") =
      some (.node (contentOf (dotEscape node.step).toList)
        (piecesOf (String.intercalate "\\n" (node.labelParts.map dotEscape)).toList)
        (String.ofList node.color.toList)) := rfl
  have hparts : node.labelParts ≠ [] := List.cons_ne_nil _ _
  rw [hread, contentOf_dotEscape, piecesOf_intercalate hparts, String.ofList_toList]

/-- The statement of an edge is read as what is drawn of it. -/
theorem ofTokens?_edgeFields (edge : Edge) (source target : Node) :
    Statement.ofTokens? (lineTokens (edgeFields edge source target) "]") =
      some (.edge source.step target.step edge.kind (edge.label.getD "")) := by
  have hread : Statement.ofTokens? (lineTokens (edgeFields edge source target) "]") =
      (EdgeKind.ofDotStyle? (String.ofList edge.kind.dotStyle.1.toList,
        String.ofList edge.kind.dotStyle.2.toList)).map fun kind =>
          .edge (contentOf (dotEscape source.step).toList)
            (contentOf (dotEscape target.step).toList) kind
            (contentOf (dotEscape (edge.label.getD "")).toList) := rfl
  rw [hread, contentOf_dotEscape, contentOf_dotEscape, contentOf_dotEscape, String.ofList_toList,
    String.ofList_toList, EdgeKind.ofDotStyle?_dotStyle, Option.map_some]

/-- The lines in front of those of the nodes. -/
def dotHeader (graph : FlowGraph) : List String :=
  ["digraph \"" ++ dotEscape graph.workflow ++ "\" \x7b", "  rankdir=LR;",
    "  node [shape=box, style=rounded];", ""]

/-- The tokens of the two statements in front of those of the nodes. -/
def headerTokens (graph : FlowGraph) : List (List Token) :=
  [lineTokens [("digraph ", dotEscape graph.workflow)] " \x7b" ++ signs "rankdir=LR",
    signs "node[shape=box,style=rounded]"]

/-- What is drawn of the nodes of a graph: the step, the lines of the label and the colour. -/
def drawnNodes (graph : FlowGraph) : List (String × List String × String) :=
  graph.nodes.map fun node => (node.step, node.labelParts, node.color)

/-- What is drawn of the edges of a graph: the steps at both ends, the kind and the label. -/
def drawnEdges (graph : FlowGraph) : List (String × String × EdgeKind × String) :=
  graph.edges.map fun edge =>
    (graph.stepId edge.source, graph.stepId edge.target, edge.kind, edge.label.getD "")

/-- The statements that stand for a graph: its name, its nodes and its edges. -/
def dotStatements (graph : FlowGraph) : List Statement :=
  .graph graph.workflow ::
    ((graph.drawnNodes.map fun (step, label, color) => .node step label color) ++
      graph.drawnEdges.map fun (source, target, kind, label) => .edge source target kind label)

variable {graph other : FlowGraph} {text : String}

/-- The line is that of an edge of a graph. -/
def IsDotLine (graph : FlowGraph) (edge : Edge) (line : String) : Prop :=
  ∃ source target, graph.nodes[edge.source]? = some source ∧
    graph.nodes[edge.target]? = some target ∧ dotEdge edge source target = line

/-- A graph is written as its header, the lines of its nodes, an empty line, the lines of its edges
and a closing brace. -/
theorem toDot_eq_ok_iff : graph.toDot = .ok text ↔
    ∃ edgeLines, List.Forall₂ graph.IsDotLine graph.edges edgeLines ∧
      text = String.intercalate "\n"
        (graph.dotHeader ++ graph.nodes.map dotNode ++ [""] ++ edgeLines ++ ["\x7d"]) ++ "\n" := by
  rw [toDot, Result.bind_eq_ok_iff]
  simp only [Result.mapM_eq_ok_iff, ends_bind_eq_ok_iff, Result.pure_eq_ok_iff]
  exact exists_congr fun lines => and_congr Iff.rfl ⟨Eq.symm, Eq.symm⟩

/-- The lines of edges are statements, which are read as what is drawn of the edges. -/
theorem exists_edgeTokens {edges : List Edge} {edgeLines : List String}
    (h : List.Forall₂ graph.IsDotLine edges edgeLines) :
    ∃ bodies : List (List Token),
      List.Forall₂ HasTokens edgeLines (bodies.map (· ++ [.sign ';'])) ∧
      (∀ body ∈ bodies, Token.sign ';' ∉ body) ∧
      bodies.filterMap Statement.ofTokens? = edges.map fun edge =>
        .edge (graph.stepId edge.source) (graph.stepId edge.target) edge.kind
          (edge.label.getD "") := by
  induction h with
  | nil => exact ⟨[], .nil, by simp, rfl⟩
  | cons hline _ ih =>
    obtain ⟨source, target, hsource, htarget, rfl⟩ := hline
    obtain ⟨bodies, htokens, hsigns, hread⟩ := ih
    refine ⟨lineTokens (edgeFields _ source target) "]" :: bodies,
      .cons (hasTokens_dotEdge _ source target) htokens, ?_, ?_⟩
    · -- whatever has a semicolon is inside of a quoted text, which is one token
      refine List.forall_mem_cons.2 ⟨?_, hsigns⟩
      simp [lineTokens, edgeFields, signs]
    · rw [List.filterMap_cons_some (ofTokens?_edgeFields _ source target), hread, List.map_cons]
      simp [stepId, hsource, htarget]

/-- The lines in front of those of the nodes are two statements. -/
theorem hasTokens_dotHeader (graph : FlowGraph) :
    ∃ found, List.Forall₂ HasTokens graph.dotHeader found ∧
      found.flatten = graph.headerTokens.flatMap (· ++ [.sign ';']) := by
  have hname : "digraph \"" ++ dotEscape graph.workflow ++ "\" \x7b" =
      lineOf [("digraph ", dotEscape graph.workflow)] " \x7b" := by
    rw [← String.toList_inj]
    simp [lineOf, quote]
  have hfirst : HasTokens (lineOf [("digraph ", dotEscape graph.workflow)] " \x7b")
      (lineTokens [("digraph ", dotEscape graph.workflow)] " \x7b") :=
    hasTokens_lineOf (by decide) (by simp) (by simpa using isQuotable_dotEscape graph.workflow)
  rw [dotHeader, hname]
  refine ⟨[_, signs "  rankdir=LR;", signs "  node [shape=box, style=rounded];", signs ""],
    .cons hfirst ?_, rfl⟩
  exact .cons (hasTokens_signs (by decide)) (.cons (hasTokens_signs (by decide))
    (.cons (hasTokens_signs (by decide)) .nil))

/-- The two statements in front of those of the nodes name the graph. -/
theorem filterMap_headerTokens (graph : FlowGraph) :
    graph.headerTokens.filterMap Statement.ofTokens? = [.graph graph.workflow] := by
  have hname : Statement.ofTokens?
      (lineTokens [("digraph ", dotEscape graph.workflow)] " \x7b" ++ signs "rankdir=LR") =
        some (.graph (contentOf (dotEscape graph.workflow).toList)) := rfl
  have hshape : Statement.ofTokens? (signs "node[shape=box,style=rounded]") = none := rfl
  rw [headerTokens, List.filterMap_cons_some hname, List.filterMap_cons_none hshape,
    contentOf_dotEscape, List.filterMap_nil]

/-- The tokens of the nodes of a graph, one list for each statement. -/
def nodeTokens (graph : FlowGraph) : List (List Token) :=
  graph.nodes.map fun node => lineTokens (nodeFields node) "]"

/-- The statements of the nodes are read as what is drawn of the nodes. -/
theorem filterMap_nodeTokens (graph : FlowGraph) :
    graph.nodeTokens.filterMap Statement.ofTokens? =
      graph.drawnNodes.map fun (step, label, color) => .node step label color := by
  rw [nodeTokens, drawnNodes, List.map_map, List.filterMap_map, ← List.filterMap_eq_map]
  exact List.filterMap_congr fun node _ => ofTokens?_nodeFields node

/-- The statements in front of those of the edges end where they should. -/
theorem notMem_semicolon (graph : FlowGraph) :
    ∀ body ∈ graph.headerTokens ++ graph.nodeTokens, Token.sign ';' ∉ body := by
  rw [nodeTokens, List.forall_mem_append, List.forall_mem_map]
  constructor
  · simp [headerTokens, lineTokens, signs]
  · simp [lineTokens, nodeFields, signs]

/-- The tokens of the text are those of the statements, with a semicolon behind each, and the
brace. -/
theorem tokens_lines {edgeLines : List String} {bodies : List (List Token)}
    (hedges : List.Forall₂ HasTokens edgeLines (bodies.map (· ++ [.sign ';']))) :
    tokens .outside (String.intercalate "\n" (graph.dotHeader ++ graph.nodes.map dotNode ++ [""] ++
      edgeLines ++ ["\x7d"]) ++ "\n").toList =
        (graph.headerTokens ++ graph.nodeTokens ++ bodies).flatMap (· ++ [Token.sign ';']) ++
          [.sign '\x7d'] := by
  obtain ⟨header, hheader, hflatten⟩ := hasTokens_dotHeader graph
  have hnodes : List.Forall₂ HasTokens (graph.nodes.map dotNode)
      (graph.nodes.map fun node => lineTokens (nodeFields node) "]" ++ [.sign ';']) :=
    List.forall₂_map_left_iff.2 (List.forall₂_map_right_iff.2
      (List.forall₂_same.2 fun node _ => hasTokens_dotNode node))
  have hblank : HasTokens "" [] := hasTokens_signs (by decide)
  have hclose : HasTokens "\x7d" [.sign '\x7d'] := hasTokens_signs (by decide)
  have hfeed : HasTokens "\n" [] := hasTokens_signs (by decide)
  -- the parts of the text, in their order, and then nothing
  have hlines := List.rel_append (List.rel_append (List.rel_append (List.rel_append
    hheader hnodes) (.cons hblank .nil)) hedges) (.cons hclose .nil)
  have htokens := ((hasTokens_intercalate hlines).append hfeed) []
  rw [List.append_nil] at htokens
  rw [htokens]
  simp [tokens, nodeTokens, hflatten, List.flatMap_def, Function.comp_def]

/-- The reader finds the statements that stand for a graph. -/
theorem read_of_toDot (h : graph.toDot = .ok text) : Dot.read text = graph.dotStatements := by
  obtain ⟨edgeLines, hlines, rfl⟩ := toDot_eq_ok_iff.1 h
  obtain ⟨bodies, hedges, hsigns, hread⟩ := exists_edgeTokens hlines
  have hbodies := List.forall_mem_append.2 ⟨notMem_semicolon graph, hsigns⟩
  -- behind the last semicolon there is only the brace, which says nothing
  have hlast : ([Token.sign '\x7d'].splitOn (.sign ';')).filterMap Statement.ofTokens? = [] := rfl
  rw [Dot.read, tokens_lines hedges, splitOn_statements hbodies, List.filterMap_append,
    List.filterMap_append, List.filterMap_append, hread, hlast, filterMap_headerTokens,
    filterMap_nodeTokens, List.append_nil, dotStatements, drawnEdges, List.map_map]
  rfl

/-! ## Graphs with the same text -/

/-- Two graphs are the same in all that is drawn. -/
structure DrawnAlike (graph other : FlowGraph) : Prop where
  /-- They have the same name. -/
  workflow : graph.workflow = other.workflow
  /-- They have the same nodes, by step, label and colour. -/
  nodes : graph.drawnNodes = other.drawnNodes
  /-- They have the same edges, by the steps at both ends, kind and label. -/
  edges : graph.drawnEdges = other.drawnEdges

/-- The statements about nodes stand for the nodes. -/
theorem filterMap_node?_dotStatements (graph : FlowGraph) :
    graph.dotStatements.filterMap (·.node?) = graph.drawnNodes := by
  simp [dotStatements, List.filterMap_map, Statement.node?]

/-- The statements about edges stand for the edges. -/
theorem filterMap_edge?_dotStatements (graph : FlowGraph) :
    graph.dotStatements.filterMap (·.edge?) = graph.drawnEdges := by
  simp [dotStatements, List.filterMap_map, Statement.edge?]

/-- The same statements stand only for graphs that are drawn alike. -/
theorem drawnAlike_of_dotStatements_eq (h : graph.dotStatements = other.dotStatements) :
    graph.DrawnAlike other := by
  constructor
  case workflow => exact Statement.graph.inj (List.cons.inj h).1
  case nodes => rw [← filterMap_node?_dotStatements, h, filterMap_node?_dotStatements]
  case edges => rw [← filterMap_edge?_dotStatements, h, filterMap_edge?_dotStatements]

/-- A graph whose edges are between its nodes is written as a text that the reader reads back,
whatever stands in its ids and labels: the statements are its name, one for each node and one for
each edge, in order, each with all that is drawn. Another such graph with the same text is drawn
alike. -/
theorem read_toDot (hgraph : graph.InRange) (hother : other.InRange) :
    ∃ text, graph.toDot = .ok text ∧ Dot.read text = graph.dotStatements ∧
      ((Dot.read text).filterMap (·.node?)).length = graph.nodes.length ∧
      ((Dot.read text).filterMap (·.edge?)).length = graph.edges.length ∧
      (other.toDot = graph.toDot → graph.DrawnAlike other) := by
  obtain ⟨text, htext⟩ := exists_toDot hgraph
  obtain ⟨otherText, hotherText⟩ := exists_toDot hother
  have hread := read_of_toDot htext
  refine ⟨text, htext, hread, ?_, ?_, fun hsame => ?_⟩
  · rw [hread, filterMap_node?_dotStatements, drawnNodes, List.length_map]
  · rw [hread, filterMap_edge?_dotStatements, drawnEdges, List.length_map]
  · rw [hotherText, htext] at hsame
    obtain rfl := Except.ok.inj hsame
    exact drawnAlike_of_dotStatements_eq (hread.symm.trans (read_of_toDot hotherText))

/-- A graph with step ids that look like other statements, one of which ends in a backslash, and
with labels that have quotes and line feeds. -/
def forgedGraph : FlowGraph :=
  let node (step : String) (operation : Option String) (hasOutputs : Bool) : Node :=
    ⟨step, operation, none, some "GET", .null, hasOutputs, false⟩
  { (empty "a\" -> \"b" : FlowGraph) with
    nodes := [node "a\"];\n  \"b" (some "x\\n") true, node "end\\" none false]
    edges := [.ofText 0 1 .onSuccess (some "\"];"), .ofText 1 1 .conditional none] }

/-- It is read back as two nodes and two edges. -/
theorem read_toDot_forged :
    forgedGraph.InRange ∧ ∃ text, forgedGraph.toDot = .ok text ∧
      Dot.read text = [.graph "a\" -> \"b",
        .node "a\"];\n  \"b" ["a\"];\n  \"b", "x\\n", "[GET]"] "blue",
        .node "end\\" ["end\\", "[GET]"] "black",
        .edge "a\"];\n  \"b" "end\\" .onSuccess "\"];",
        .edge "end\\" "end\\" .conditional ""] := by
  have hrange : forgedGraph.InRange := by simp [InRange, forgedGraph, size, Edge.ofText]
  obtain ⟨text, htext, hread, -⟩ := read_toDot hrange hrange
  exact ⟨hrange, text, htext, hread.trans (by decide +kernel)⟩

end FlowGraph

end FlowCheck
