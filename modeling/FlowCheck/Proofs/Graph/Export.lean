import FlowCheck.Graph.Mermaid
import FlowCheck.Graph.Record
import FlowCheck.Loading
import FlowCheck.Proofs.Graph.Build
import FlowCheck.Proofs.Value.Json

/-!
# When the graph of a workflow can be written

DOT and Mermaid write only texts of the graph, so that they write every graph whose edges are in
range. JSON also writes the descriptions of the steps, which may be values of any kind: it writes
the graph exactly if each description has a form in JSON (`FlowGraph.exists_texts_iff`).
-/

namespace FlowCheck.FlowGraph

open Result

variable {graph : FlowGraph}

/-- Where the edges are in range, something can be made of each edge and the nodes at its ends. -/
theorem exists_mapM_ends {α : Type} (h : graph.InRange) (f : Edge → Node → Node → α) :
    ∃ parts, (graph.edges.mapM fun edge => do
      let (source, target) ← graph.ends edge
      return f edge source target) = .ok parts := by
  rw [exists_mapM_eq_ok_iff]
  intro edge hedge
  obtain ⟨hsource, htarget⟩ := h edge hedge
  have hends : graph.ends edge = .ok (graph.nodes[edge.source], graph.nodes[edge.target]) := by
    rw [ends, List.getElem?_eq_getElem hsource, List.getElem?_eq_getElem htarget]
  exact ⟨_, by rw [hends]; rfl⟩

/-- Where the edges are in range, the graph is written as DOT. -/
theorem exists_toDot (h : graph.InRange) : ∃ text, graph.toDot = .ok text :=
  exists_bind_pure_iff.2 (exists_mapM_ends h dotEdge)

/-- Where the edges are in range, the graph is written as a Mermaid flowchart. -/
theorem exists_toMermaid (h : graph.InRange) : ∃ text, graph.toMermaid = .ok text :=
  exists_bind_pure_iff.2 (exists_mapM_ends h (mermaidEdge (assignIds [] graph.stepIds)))

/-- All that a node shows but the description is a text, a truth value or nothing. -/
theorem hasJson_nodeRecord {node : Node} :
    (nodeRecord node).HasJson ↔ node.description.HasJson := by
  simp [nodeRecord, field, Value.IsJsonScalar]

/-- All that an edge shows is a text or nothing. -/
theorem hasJson_edgeRecord (edge : Edge) (source target : Node) :
    (edgeRecord edge source target).HasJson := by
  simp [edgeRecord, field, Value.IsJsonScalar]

/-- Where the edges are in range, the graph is written as JSON, with any layout, exactly if the
descriptions of its nodes have a form in JSON and the numbers of nodes and edges have one. -/
theorem exists_toJson_iff (h : graph.InRange) (indent : Value.Indent) :
    (∃ text, graph.toJson indent = .ok text) ↔
      (∀ node ∈ graph.nodes, node.description.HasJson) ∧
        (Value.int graph.nodes.length).HasJson ∧ (Value.int graph.edges.length).HasJson := by
  obtain ⟨records, hrecords⟩ := exists_mapM_ends h edgeRecord
  have hedges : ∀ record ∈ records, record.HasJson := by
    intro record hrecord
    obtain ⟨edge, -, hmade⟩ := exists_of_mem_forall₂ (mapM_eq_ok_iff.1 hrecords) hrecord
    obtain ⟨⟨source, target⟩, -, hmade⟩ := bind_eq_ok_iff.1 hmade
    rw [← pure_eq_ok_iff.1 hmade]
    exact hasJson_edgeRecord edge source target
  rw [toJson, toRecord, hrecords]
  -- the record is made of the nodes, the edges and the two numbers
  change (∃ text, Value.json _ indent = .ok text) ↔ _
  rw [Value.exists_json_iff]
  simpa [field, Value.IsJsonScalar, hasJson_nodeRecord] using fun _ _ _ => hedges

/-- The graph of a workflow is always written as DOT and as a Mermaid flowchart. It is written as
JSON, with any layout, exactly if the descriptions of the steps have a form in JSON and so do the
numbers of steps and edges. -/
theorem exists_texts_iff (workflow : Workflow) (interface : Interface) (options : Options) :
    (∃ text, (ofWorkflow workflow interface options).toDot = .ok text) ∧
      (∃ text, (ofWorkflow workflow interface options).toMermaid = .ok text) ∧
      ∀ indent, (∃ text, (ofWorkflow workflow interface options).toJson indent = .ok text) ↔
        (∀ step ∈ workflow.steps, step.description.HasJson) ∧
          (Value.int workflow.steps.length).HasJson ∧
          (Value.int (ofWorkflow workflow interface options).edges.length).HasJson := by
  have hrange : (ofWorkflow workflow interface options).InRange := inRange_ofWorkflow
  refine ⟨exists_toDot hrange, exists_toMermaid hrange, fun indent => ?_⟩
  rw [exists_toJson_iff hrange, nodes_ofWorkflow, List.forall_mem_map, List.length_map]
  rfl

/-- The text of a document with one step, which is described by a date. -/
def datedText : String :=
  "arazzo: 1.0.0\ninfo:\n  title: Ping\n  version: 1\nworkflows:\n- workflowId: w\n" ++
    "  steps:\n  - stepId: a\n    operationId: b\n    description: 2024-01-31\n"

/-- The document is loaded, and the graph of its workflow cannot be written as JSON. -/
theorem toJson_dated :
    ∃ document, Document.load ⟨"/flows", [("/flows/flow.yaml", datedText)]⟩ "flow.yaml" =
        .ok document ∧
      ∃ workflow ∈ document.workflows,
        (ofWorkflow workflow .absent ⟨true, false⟩).toJson (some 2) = .error .notJson := by
  have hjson : (Document.load ⟨"/flows", [("/flows/flow.yaml", datedText)]⟩
      "flow.yaml").toOption.any (fun document => document.workflows.any fun workflow =>
        ((ofWorkflow workflow .absent ⟨true, false⟩).toJson (some 2)).map (fun _ => ()) =
          .error .notJson) = true := by decide +kernel
  cases hload : Document.load ⟨"/flows", [("/flows/flow.yaml", datedText)]⟩ "flow.yaml" with
  | error e => simp [hload, Except.toOption] at hjson
  | ok document =>
    simp only [hload, Except.toOption, Option.any_some, List.any_eq_true, decide_eq_true_eq,
      map_eq_error_iff] at hjson
    exact ⟨document, rfl, hjson⟩

end FlowCheck.FlowGraph
