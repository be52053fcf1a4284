import FlowCheck.Proofs.Catalog.OperationId
import FlowCheck.Proofs.Graph.Method

/-!
# The interface of a graph

The graph of a workflow looks at its interface for the methods of operations only. An empty catalog
is as good as no interface. A single description and a catalog that holds it under a name differ in
one thing: the catalog is not searched for an id that names another source. They give the same graph
unless an id of the workflow does so and the description has its bare id (`ofWorkflow_interfaces`).
-/

namespace FlowCheck

/-- Methods have different names. -/
theorem Method.name_injective : Function.Injective Method.name := fun first second h =>
  Option.some.inj ((Method.ofName?_name first).symm.trans (h ▸ Method.ofName?_name second))

namespace Interface

variable {api : Api} {name id : String}

/-- An empty catalog has no methods. -/
theorem method?_empty (id : String) :
    (catalog .empty).method? id = absent.method? id := rfl

/-- A single description is searched for the bare id. -/
theorem method?_single (api : Api) (id : String) :
    (single api).method? id = (api.byId? (splitId id).2 Method.reported).map (·.method) := by
  rw [method?]
  exact List.findSome?_singleton

/-- A catalog with one source is searched for the bare id unless the id names another source. -/
theorem method?_catalog_singleton (api : Api) (name id : String) :
    (catalog (Catalog.empty.add name api)).method? id =
      if (splitId id).1.all (name == ·) then (single api).method? id else none := by
  have hsearched : (Catalog.empty.add name api).searched (splitId id).1 =
      if (splitId id).1.all (name == ·) then [(name, api)] else [] := by
    change [(name, api)].filter (fun entry => (splitId id).1.all (entry.1 == ·)) = _
    rw [List.filter_cons, List.filter_nil]
  rw [method?_single, method?]
  dsimp only
  rw [hsearched]
  split
  · exact List.findSome?_singleton
  · rfl

/-- A description and a catalog that holds it under a name have the same method for an id, unless
the id names another source and the description has its bare id. -/
theorem method?_single_eq_iff :
    (single api).method? id = (catalog (Catalog.empty.add name api)).method? id ↔
      ∀ source bare, IsQualified id source bare →
        source = name ∨ api.byId? bare Method.reported = none := by
  rw [method?_catalog_singleton]
  obtain hplain | ⟨source, bare, hsplit, hform⟩ := splitId_cases id
  · -- a bare id is no qualified one
    have hnot (source bare : String) : ¬ IsQualified id source bare := fun h => by
      simp [h.splitId_eq] at hplain
    simp [hplain, hnot]
  · -- a qualified id is split in one way only, so that both sides are about the same parts
    have hforall : (∀ other rest, IsQualified id other rest →
        other = name ∨ api.byId? rest Method.reported = none) ↔
        (source = name ∨ api.byId? bare Method.reported = none) := by
      refine ⟨fun h => h source bare hform, fun h other rest hother => ?_⟩
      have hsame := hother.splitId_eq.symm.trans hsplit
      simp only [Prod.mk.injEq, Option.some.injEq] at hsame
      rwa [hsame.1, hsame.2]
    rw [hforall, method?_single, hsplit]
    by_cases hname : source = name
    · simp [hname]
    · simp [hname, Ne.symm hname]

end Interface

/-- A step that satisfies the rules is shown with the same method under two interfaces that have the
same method for its operation id, if it has one. -/
theorem Step.Valid.method?_eq_iff {step : Step} (h : step.Valid) {interface other : Interface} :
    step.method? interface = step.method? other ↔
      ∀ id, step.operationId = .str id → interface.method? id = other.method? id := by
  obtain ⟨target, htarget⟩ := h.exists_target
  obtain ⟨id, -, hid, hpath, -⟩ | ⟨text, -, hid, hpath, -⟩ | ⟨id, -, hid, hpath, -⟩ :=
    Step.fields_of_target? htarget
  · simp [Step.method?, hid, hpath, Value.str?, Option.map_inj_right, Method.name_injective.eq_iff]
  · simp [Step.method?, hid, hpath, Value.str?]
  · simp [Step.method?, hid, hpath, Value.str?]

/-- Every operation id of the workflow that names a source names this one. -/
def Workflow.NamesOnly (workflow : Workflow) (name : String) : Prop :=
  ∀ step ∈ workflow.steps, ∀ id source bare, step.operationId = .str id →
    IsQualified id source bare → source = name

/-- Which sources a workflow names is seen by splitting its operation ids. -/
theorem Workflow.namesOnly_iff {workflow : Workflow} {name : String} :
    (workflow.steps.all fun step => step.operationId.str?.all fun id =>
      (splitId id).1.all (· == name)) = true ↔ workflow.NamesOnly name := by
  simp only [List.all_eq_true, Option.all_eq_true, beq_iff_eq]
  refine forall₂_congr fun step _ => ?_
  constructor
  · intro h id source bare hid hform
    exact h id (by rw [hid]; rfl) source (by rw [hform.splitId_eq])
  · intro h id hid source hsource
    have hvalue : step.operationId = .str id := by
      cases htext : step.operationId <;> simp_all [Value.str?]
    exact h id source _ hvalue (splitId_eq_some_iff.1 (Prod.ext hsource rfl))

namespace FlowGraph

variable {value : Value} {document : Document} {workflow : Workflow} {options : Options}

/-- Two interfaces give the same graph exactly if they give every step the same method. -/
theorem ofWorkflow_eq_iff {interface other : Interface} :
    ofWorkflow workflow interface options = ofWorkflow workflow other options ↔
      ∀ step ∈ workflow.steps, step.method? interface = step.method? other := by
  constructor
  · intro h
    have hnodes := congrArg FlowGraph.nodes h
    rw [nodes_ofWorkflow, nodes_ofWorkflow, List.map_inj_left] at hnodes
    exact fun step hstep => congrArg Node.method (hnodes step hstep)
  · intro h
    have hnodes : nodesOf workflow interface = nodesOf workflow other := by
      rw [nodesOf, nodesOf, List.map_congr_left fun step hstep => ?_]
      rw [Node.ofStep, Node.ofStep, h step hstep]
    rw [ofWorkflow, ofWorkflow, hnodes]

/-- A graph does not depend on the form of its interface. An empty catalog gives the same graph as
no interface. A single description gives the same graph as a catalog that holds only it, under any
name that is the only one named by the operation ids of the workflow; in general they give the same
graph exactly if the description has no operation, under a method that graphs report, whose bare id
the workflow names in another source. -/
theorem ofWorkflow_interfaces (hread : Document.read value = .ok document)
    (hworkflow : workflow ∈ document.workflows) (options : Options) :
    ofWorkflow workflow (.catalog .empty) options = ofWorkflow workflow .absent options ∧
      ∀ (api : Api) (name : String),
        (workflow.NamesOnly name →
          ofWorkflow workflow (.single api) options =
            ofWorkflow workflow (.catalog (Catalog.empty.add name api)) options) ∧
        (ofWorkflow workflow (.single api) options =
            ofWorkflow workflow (.catalog (Catalog.empty.add name api)) options ↔
          ∀ step ∈ workflow.steps, ∀ id source bare, step.operationId = .str id →
            IsQualified id source bare →
              source = name ∨ api.byId? bare Method.reported = none) := by
  have hvalid := (Document.read_eq_ok_iff.1 hread).2
  have hsteps := (hvalid.workflows workflow hworkflow).steps
  have hiff (api : Api) (name : String) :
      ofWorkflow workflow (.single api) options =
          ofWorkflow workflow (.catalog (Catalog.empty.add name api)) options ↔
        ∀ step ∈ workflow.steps, ∀ id source bare, step.operationId = .str id →
          IsQualified id source bare →
            source = name ∨ api.byId? bare Method.reported = none := by
    rw [ofWorkflow_eq_iff]
    refine forall₂_congr fun step hstep => ?_
    simp only [(hsteps step hstep).method?_eq_iff, Interface.method?_single_eq_iff]
    exact ⟨fun h id source bare hid => h id hid source bare,
      fun h id hid source bare => h id source bare hid⟩
  refine ⟨ofWorkflow_eq_iff.2 fun step hstep => ?_,
    fun api name => ⟨fun hnames => ?_, hiff api name⟩⟩
  · exact (hsteps step hstep).method?_eq_iff.2 fun id _ => Interface.method?_empty id
  · exact (hiff api name).2 fun step hstep id source bare hid hform =>
      .inl (hnames step hstep id source bare hid hform)

/-- The value of a document whose steps call `ping` by its bare id, by an id that names the source
`pings`, by an id that names the source but no operation, and by a path. -/
def pingsDocument : Value :=
  let step (id field target : String) : Value :=
    .map [(.str "stepId", .str id), (.str field, .str target)]
  let workflow : Value := .map [(.str "workflowId", .str "pings"),
    (.str "steps", .list [step "bare" "operationId" "ping",
      step "named" "operationId" "$sourceDescriptions.pings.ping",
      step "open" "operationId" "$sourceDescriptions.pings.",
      step "path" "operationPath" "get /second"])]
  .map [(.str "arazzo", .str "1.0.0"),
    (.str "info", .map [(.str "title", .str "Pings"), (.str "version", .str "1")]),
    (.str "workflows", .list [workflow])]

/-- The description, and the catalog that holds it as `pings`, give the same graph, in which three
of the steps show a method. Under another name the second step loses its method. -/
theorem interfaces_pings :
    ∃ document api workflow, Document.read pingsDocument = .ok document ∧
      Api.read (pingApi "put") = .ok api ∧ workflow ∈ document.workflows ∧
      workflow.NamesOnly "pings" ∧
      ofWorkflow workflow (.single api) ⟨true, false⟩ =
        ofWorkflow workflow (.catalog (Catalog.empty.add "pings" api)) ⟨true, false⟩ ∧
      (ofWorkflow workflow (.single api) ⟨true, false⟩).nodes.map (·.method) =
        [some "PUT", some "PUT", none, some "GET"] ∧
      (ofWorkflow workflow (.catalog (Catalog.empty.add "others" api)) ⟨true, false⟩).nodes.map
        (·.method) = [some "PUT", none, none, some "GET"] := by
  have hrun : ∃ document api workflow, Document.read pingsDocument = .ok document ∧
      Api.read (pingApi "put") = .ok api ∧ workflow ∈ document.workflows ∧
      workflow.NamesOnly "pings" ∧
      (ofWorkflow workflow (.single api) ⟨true, false⟩).nodes.map (·.method) =
        [some "PUT", some "PUT", none, some "GET"] ∧
      (ofWorkflow workflow (.catalog (Catalog.empty.add "others" api)) ⟨true, false⟩).nodes.map
        (·.method) = [some "PUT", none, none, some "GET"] :=
    ⟨_, _, _, rfl, rfl, List.mem_singleton.2 rfl, Workflow.namesOnly_iff.1 rfl, rfl, rfl⟩
  obtain ⟨document, api, workflow, hread, hapi, hworkflow, hnames, hmethods, hothers⟩ := hrun
  have hforms := (ofWorkflow_interfaces hread hworkflow ⟨true, false⟩).2 api "pings"
  exact ⟨document, api, workflow, hread, hapi, hworkflow, hnames, hforms.1 hnames, hmethods,
    hothers⟩

end FlowGraph

end FlowCheck
