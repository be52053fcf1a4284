import FlowCheck.Proofs.Consistency.Target
import FlowCheck.Proofs.Graph.Build

/-!
# The method of a node

The graph of a workflow looks up the methods of operations by itself, among all methods but TRACE.
Both lookups go through the same operations in the same order (`Catalog.declared`): the lookup by id
takes the first of them, and a node shows the method of the first that is not under TRACE
(`FlowGraph.method_node`). They differ only where an id is declared under TRACE first, and then
again under another method.
-/

namespace FlowCheck

namespace Api

variable {api : Api} {methods : List Method}

/-- With fewer methods, the endpoints under the other methods are left out. -/
theorem endpoints_filter (p : Method → Bool) :
    api.endpoints (methods.filter p) =
      (api.endpoints methods).filter fun endpoint => p endpoint.method := by
  have hpath (path : String) (item : PathItem) :
      pathEndpoints (methods.filter p) path item =
        (pathEndpoints methods path item).filter fun endpoint => p endpoint.method := by
    unfold pathEndpoints
    rw [List.filterMap_filter, List.filter_filterMap]
    refine List.filterMap_congr fun method _ => ?_
    cases item.operation? method <;> cases hp : p method <;> simp [hp, Option.filter]
  unfold endpoints
  rw [List.filter_flatMap]
  exact List.flatMap_congr fun entry _ => hpath entry.1 entry.2

/-- The endpoints that a graph reports are those that are not under TRACE. -/
theorem endpoints_reported (api : Api) :
    api.endpoints Method.reported =
      (api.endpoints Method.all).filter fun endpoint => endpoint.method != .trace :=
  -- the reported methods are all methods but TRACE, in the same order
  @endpoints_filter api Method.all (· != .trace)

end Api

namespace Catalog

/-- All operations with an id, in the order of the lookup: source by source, path by path, and under
each path in the order of the methods. An id that names its source is looked up in that source
only. -/
def declared (catalog : Catalog) (id : String) : List Hit :=
  (catalog.searched (splitId id).1).flatMap fun entry =>
    ((entry.2.endpoints Method.all).filter fun endpoint =>
      endpoint.operation.operationId.isStr (splitId id).2).map (⟨entry.1, ·⟩)

variable {catalog : Catalog} {id : String}

/-- The lookup takes the first operation with the id. -/
theorem byId?_eq_head?_declared : catalog.byId? id none = (catalog.declared id).head? := by
  unfold declared
  rw [List.head?_flatMap]
  simp only [List.head?_map, List.head?_filter]
  rfl

/-- The graph takes the first operation with the id that is not under TRACE. -/
theorem method?_eq_find?_declared :
    (Interface.catalog catalog).method? id =
      ((catalog.declared id).find? fun hit => hit.endpoint.method != .trace).map
        (·.endpoint.method) := by
  unfold declared
  rw [List.find?_flatMap, List.map_findSome?]
  simp only [Interface.method?, List.findSome?_map, Api.byId?, Api.endpoints_reported]
  congr 1
  funext entry
  -- both look for an endpoint with two properties, in one order of the properties or the other
  simp only [Function.comp_apply, List.find?_map, List.find?_filter, Option.map_map]
  simp only [Function.comp_def, and_comm]

end Catalog

/-- A step that calls an operation by its id is given the method of the first operation with the id
that is not under TRACE. -/
theorem Step.Valid.method?_catalog {step : Step} {id : String} (h : step.Valid)
    (hid : step.operationId = .str id) (catalog : Catalog) :
    step.method? (.catalog catalog) =
      ((catalog.declared id).find? fun hit => hit.endpoint.method != .trace).map
        (·.endpoint.method.name) := by
  -- such a step has no operation path, which would decide about the method
  have hpath : step.operationPath = .null := by
    obtain ⟨target, htarget⟩ := h.exists_target
    obtain ⟨_, -, -, hpath, -⟩ | ⟨_, -, hnull, -, -⟩ | ⟨_, -, hnull, -, -⟩ :=
      Step.fields_of_target? htarget
    · exact hpath
    all_goals simp [hid] at hnull
  simp [Step.method?, hid, hpath, Value.str?, Catalog.method?_eq_find?_declared,
    Function.comp_def]

namespace FlowGraph

variable {value : Value} {document : Document} {workflow : Workflow} {step : Step} {i : ℕ}

/-- The node of a step that calls an operation by its id shows the method of the operation to which
the lookup leads, unless that operation is under TRACE: then it shows the method of the first other
operation with the id that is not. -/
theorem method_node (hread : Document.read value = .ok document)
    (hworkflow : workflow ∈ document.workflows) (hstep : workflow.steps[i]? = some step)
    {id : String} (hid : step.operationId = .str id) (catalog : Catalog) (options : Options) :
    ∃ node, (ofWorkflow workflow (.catalog catalog) options).nodes[i]? = some node ∧
      node.step = step.id ∧
      (∀ hit, catalog.byId? id none = some hit → hit.endpoint.method ≠ .trace →
        node.method = some hit.endpoint.method.name) ∧
      (catalog.byId? id none = none → node.method = none) ∧
      ∀ hit, catalog.byId? id none = some hit → hit.endpoint.method = .trace →
        node.method = ((catalog.declared id).find? fun other =>
          other.endpoint.method != .trace).map (·.endpoint.method.name) := by
  have hvalid := (Document.read_eq_ok_iff.1 hread).2
  have hstepValid := (hvalid.workflows workflow hworkflow).steps step (List.mem_of_getElem? hstep)
  -- a lookup takes the first operation with the id, a node the first one that is reported
  have hmethod := hstepValid.method?_catalog hid catalog
  refine ⟨Node.ofStep (.catalog catalog) step, by simp [nodes_ofWorkflow, hstep], rfl, ?_, ?_, ?_⟩
  · intro hit hfirst htrace
    rw [Catalog.byId?_eq_head?_declared, List.head?_eq_some_iff] at hfirst
    obtain ⟨rest, hdeclared⟩ := hfirst
    change step.method? (.catalog catalog) = _
    rw [hmethod, hdeclared, List.find?_cons, bne_iff_ne.2 htrace]
    rfl
  · intro hnone
    rw [Catalog.byId?_eq_head?_declared, List.head?_eq_none_iff] at hnone
    change step.method? (.catalog catalog) = _
    rw [hmethod, hnone]
    rfl
  · intro hit _ _
    exact hmethod

/-- The value of a document with one step, which calls the operation `ping`. -/
def pingDocument : Value :=
  let step : Value := .map [(.str "stepId", .str "call"), (.str "operationId", .str "ping")]
  let workflow : Value := .map [(.str "workflowId", .str "pings"), (.str "steps", .list [step])]
  .map [(.str "arazzo", .str "1.0.0"),
    (.str "info", .map [(.str "title", .str "Pings"), (.str "version", .str "1")]),
    (.str "workflows", .list [workflow])]

/-- The value of an API description that declares `ping` under a path with a method, and then again
under another path with GET. -/
def pingApi (method : String) : Value :=
  let ping : Value := .map [(.str "operationId", .str "ping")]
  .map [(.str "openapi", .str "3.0.3"),
    (.str "paths", .map [(.str "/first", .map [(.str method, ping)]),
      (.str "/second", .map [(.str "get", ping)])])]

/-- The node shows the method under which `ping` is declared first. -/
theorem method_node_ping :
    ∃ document api, Document.read pingDocument = .ok document ∧
      Api.read (pingApi "put") = .ok api ∧
      ∃ workflow ∈ document.workflows, ∃ step, workflow.steps[0]? = some step ∧
        step.operationId = .str "ping" ∧
        ∃ node, (ofWorkflow workflow (.catalog (Catalog.empty.add "pings" api))
            ⟨true, false⟩).nodes[0]? = some node ∧ node.method = some "PUT" := by
  have hread : Document.read pingDocument = .ok _ := rfl
  refine ⟨_, _, hread, rfl, _, List.mem_singleton.2 rfl, _, rfl, rfl, ?_⟩
  obtain ⟨node, hnode, -, hmethod, -, -⟩ := method_node hread (List.mem_singleton.2 rfl) (i := 0)
    rfl rfl (Catalog.empty.add "pings" _) ⟨true, false⟩
  exact ⟨node, hnode, hmethod _ rfl (by decide)⟩

/-- Where `ping` is declared under TRACE first, the lookup leads there, and the node shows GET. -/
theorem method_node_ping_trace :
    ∃ document api, Document.read pingDocument = .ok document ∧
      Api.read (pingApi "trace") = .ok api ∧
      ∃ workflow ∈ document.workflows, ∃ step, workflow.steps[0]? = some step ∧
        step.operationId = .str "ping" ∧
        ∃ hit, (Catalog.empty.add "pings" api).byId? "ping" none = some hit ∧
          hit.endpoint.method = .trace ∧
          ∃ node, (ofWorkflow workflow (.catalog (Catalog.empty.add "pings" api))
              ⟨true, false⟩).nodes[0]? = some node ∧ node.method = some "GET" :=
  ⟨_, _, rfl, rfl, _, List.mem_singleton.2 rfl, _, rfl, rfl, _, rfl, rfl, _, rfl, rfl⟩

end FlowGraph

end FlowCheck
