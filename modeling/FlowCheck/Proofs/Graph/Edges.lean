import FlowCheck.Proofs.Document.Valid
import FlowCheck.Proofs.Graph.Build

/-!
# All edges of a workflow's graph

The edges of the graph of an accepted workflow, told from its steps alone and in their order: the
edges between neighbours, the data edges, the loops for conditions, and the edges for actions. The
graph finds the nodes of steps by an index and the data edges by groups of references; here a step
is found at its place in the document, and each group of edges is a selection from the steps.

## Main definitions

* `Workflow.neighbourEdges`, `Workflow.dataEdges`, `Workflow.conditionEdges`, `Workflow.jumpEdges`:
  the four groups of edges;
* `Workflow.IsDataEdge`: the edge stands for a reference of one step to an output of another.
-/

namespace FlowCheck

namespace Workflow

/-- The number of the step with an id. -/
def stepNumber? (workflow : Workflow) (id : String) : Option ℕ :=
  (workflow.steps.map (·.id)).idxOf? id

/-- The edges between neighbours: from every step but the last, unless one of its actions goes on at
a step. -/
def neighbourEdges (workflow : Workflow) : List Edge :=
  (workflow.steps.zipIdx.dropLast.filter fun (step, _) =>
    decide (∀ action ∈ step.actions, action.type ≠ Action.goto)).map fun (_, i) =>
      ⟨i, i + 1, .sequential, none, none⟩

/-- The data edges into step `i`: for every step that it needs, one for each text by which it refers
to that step. -/
def dataEdgesInto (workflow : Workflow) (step : Step) (i : ℕ) : List Edge :=
  step.neededSteps.flatMap fun id =>
    (workflow.stepNumber? id).toList.flatMap fun j =>
      (step.textsFor id).eraseDups.map fun text => ⟨j, i, .dataDependency, some text, none⟩

/-- The data edges, step by step. -/
def dataEdges (workflow : Workflow) : List Edge :=
  workflow.steps.zipIdx.flatMap fun (step, i) => workflow.dataEdgesInto step i

/-- The loops at the steps with conditions for success. -/
def conditionEdges (workflow : Workflow) : List Edge :=
  (workflow.steps.zipIdx.filter fun (step, _) => step.criteria.getD [] ≠ []).map fun (step, i) =>
    ⟨i, i, .conditional, none,
      some s!"Success criteria: {(step.criteria.getD []).length} conditions"⟩

/-- The edges for the actions in a list that go on at a step of the workflow. -/
def jumpEdgesFrom (workflow : Workflow) (kind : EdgeKind) (i : ℕ) (actions : List Action) :
    List Edge :=
  (actions.filter (·.type = Action.goto)).filterMap fun action =>
    (action.targetStep?.bind workflow.stepNumber?).map fun j =>
      ⟨i, j, kind, none, some action.name⟩

/-- The edges for actions: step by step those after success, then those after failure. -/
def jumpEdges (workflow : Workflow) : List Edge :=
  workflow.steps.zipIdx.flatMap fun (step, i) =>
    workflow.jumpEdgesFrom .onSuccess i (step.onSuccess.getD []) ++
      workflow.jumpEdgesFrom .onFailure i (step.onFailure.getD [])

/-- The target of the edge refers to an output of its source by the text of the edge. -/
def IsDataEdge (workflow : Workflow) (edge : Edge) : Prop :=
  ∃ source target text, workflow.steps[edge.source]? = some source ∧
    workflow.steps[edge.target]? = some target ∧ (source.id, text) ∈ target.references ∧
    edge = ⟨edge.source, edge.target, .dataDependency, some text, none⟩

end Workflow

/-- The edges have the same ends and the same text of a reference. -/
def Edge.SameReference (edge other : Edge) : Prop :=
  edge.source = other.source ∧ edge.target = other.target ∧ edge.dataRef = other.dataRef

namespace Workflow

variable {workflow : Workflow} {step : Step} {edge : Edge} {id text : String} {i j : ℕ}

/-- A step is found at the number of its id. -/
theorem getElem?_of_stepNumber? (h : workflow.stepNumber? id = some j) :
    ∃ source, workflow.steps[j]? = some source ∧ source.id = id := by
  obtain ⟨hlt, hid, -⟩ := List.idxOf?_eq_some_iff.1 h
  rw [List.length_map] at hlt
  exact ⟨workflow.steps[j], List.getElem?_eq_getElem hlt, by simpa using hid⟩

/-- Different ids have different numbers. -/
theorem eq_of_stepNumber? {other : String} (h : workflow.stepNumber? id = some j)
    (hother : workflow.stepNumber? other = some j) : id = other := by
  obtain ⟨source, hsource, rfl⟩ := getElem?_of_stepNumber? h
  obtain ⟨_, hsame, rfl⟩ := getElem?_of_stepNumber? hother
  rw [Option.some.inj (hsource.symm.trans hsame)]

/-- Where no two steps have one id, the graph and the checks find a step at its number. -/
theorem position?_eq_stepNumber? (hnodup : (workflow.steps.map (·.id)).Nodup) :
    workflow.position? id = workflow.stepNumber? id := by
  refine Option.ext fun j => ?_
  rw [position?_eq_some_iff hnodup]
  constructor
  · rintro ⟨source, hsource, rfl⟩
    have hget : (workflow.steps.map (·.id))[j]? = some source.id := by simp [hsource]
    obtain ⟨hlt, hid⟩ := List.getElem?_eq_some_iff.1 hget
    -- a step before with the same id would be a second one
    refine List.idxOf?_eq_some_iff.2 ⟨hlt, hid, fun k hk hsame => ?_⟩
    have hkj : k = j := (hnodup.getElem_inj_iff).1 (hsame.trans hid.symm)
    omega
  · exact getElem?_of_stepNumber?

/-! ## Data edges -/

/-- The data edges into a step, by the references of its request. -/
theorem mem_dataEdgesInto :
    edge ∈ workflow.dataEdgesInto step i ↔ ∃ id text j, (id, text) ∈ step.references ∧
      workflow.stepNumber? id = some j ∧ edge = ⟨j, i, .dataDependency, some text, none⟩ := by
  simp only [dataEdgesInto, Step.neededSteps, List.mem_flatMap, List.mem_eraseDups, List.mem_map,
    Option.mem_toList, Step.mem_textsFor]
  constructor
  · rintro ⟨id, -, j, hj, text, htext, rfl⟩
    exact ⟨id, text, j, htext, hj, rfl⟩
  · rintro ⟨id, text, j, htext, hj, rfl⟩
    exact ⟨id, ⟨_, htext, rfl⟩, j, hj, text, htext, rfl⟩

/-- The data edges are the edges that stand for references between steps. -/
theorem mem_dataEdges_iff (hnodup : (workflow.steps.map (·.id)).Nodup) :
    edge ∈ workflow.dataEdges ↔ workflow.IsDataEdge edge := by
  simp only [dataEdges, List.mem_flatMap, Prod.exists, List.mk_mem_zipIdx_iff_getElem?,
    mem_dataEdgesInto]
  constructor
  · rintro ⟨step, i, hstep, id, text, j, htext, hj, rfl⟩
    obtain ⟨source, hsource, rfl⟩ := getElem?_of_stepNumber? hj
    exact ⟨source, step, text, hsource, hstep, htext, rfl⟩
  · rintro ⟨source, target, text, hsource, htarget, htext, hedge⟩
    -- the edge names its source by a place, which has to be the number of an id
    have hnumber : workflow.stepNumber? source.id = some edge.source := by
      rw [← position?_eq_stepNumber? hnodup, position?_eq_some_iff hnodup]
      exact ⟨source, hsource, rfl⟩
    exact ⟨target, edge.target, htarget, source.id, text, edge.source, htext, hnumber, hedge⟩

/-- The data edges into a step are told apart by their sources and their texts. -/
theorem pairwise_dataEdgesInto (workflow : Workflow) (step : Step) (i : ℕ) :
    (workflow.dataEdgesInto step i).Pairwise fun edge other => ¬ edge.SameReference other := by
  rw [dataEdgesInto, List.pairwise_flatMap]
  constructor
  · -- edges from one step have different texts
    intro id _
    cases workflow.stepNumber? id with
    | none => simp
    | some j =>
      rw [Option.toList_some, List.flatMap_singleton, List.pairwise_map]
      refine (nodup_eraseDups _).imp fun hne hsame => hne ?_
      exact Option.some.inj hsame.2.2
  · -- edges for different ids come from different steps
    refine (nodup_eraseDups _).imp fun hne edge hedge other hother hsame => hne ?_
    simp only [List.mem_flatMap, Option.mem_toList, List.mem_map] at hedge hother
    obtain ⟨j, hj, _, _, rfl⟩ := hedge
    obtain ⟨k, hk, _, _, rfl⟩ := hother
    obtain rfl : j = k := hsame.1
    exact eq_of_stepNumber? hj hk

/-- No two data edges have the same ends and the same text. -/
theorem pairwise_dataEdges (workflow : Workflow) :
    workflow.dataEdges.Pairwise fun edge other => ¬ edge.SameReference other := by
  rw [dataEdges, List.pairwise_flatMap]
  refine ⟨fun entry _ => workflow.pairwise_dataEdgesInto entry.1 entry.2, ?_⟩
  -- edges into different steps have different targets
  have hnumbers : (workflow.steps.zipIdx.map Prod.snd).Nodup := by
    rw [List.zipIdx_map_snd]
    exact List.nodup_range'
  refine (List.pairwise_map.1 hnumbers).imp fun hne edge hedge other hother hsame => hne ?_
  obtain ⟨_, _, _, _, _, rfl⟩ := mem_dataEdgesInto.1 hedge
  obtain ⟨_, _, _, _, _, rfl⟩ := mem_dataEdgesInto.1 hother
  exact hsame.2.1

end Workflow

namespace FlowGraph

variable {workflow : Workflow} {interface : Interface} {options : Options} {step : Step}
  {steps : List Step} {kind : EdgeKind} {i : ℕ}

/-! ## The groups of edges -/

/-- There is an edge to the next step from every step but the last that does not branch. -/
theorem sequentialEdges_eq (workflow : Workflow) :
    sequentialEdges workflow.steps.zipIdx = workflow.neighbourEdges := by
  have hbranches (step : Step) :
      decide (∀ action ∈ step.actions, action.type ≠ Action.goto) = !step.branches := by
    rw [Bool.eq_iff_iff]
    simp [Step.branches]
  simp only [Workflow.neighbourEdges, hbranches]
  -- the steps are numbered from any number on, so that the rest is again such a list
  generalize 0 = start
  induction workflow.steps generalizing start with
  | nil => rfl
  | cons step rest ih =>
    cases rest with
    | nil => rfl
    | cons next rest =>
      rw [List.zipIdx_cons, List.zipIdx_cons, sequentialEdges, ← List.zipIdx_cons, ih,
        List.zipIdx_cons, List.dropLast_cons_cons, List.filter_cons]
      cases step.branches <;> rfl

/-- There is a loop at every step with conditions. -/
theorem loopEdges_eq (workflow : Workflow) :
    (workflow.steps.zipIdx.flatMap fun (step, i) => loopEdges step i) =
      workflow.conditionEdges := by
  rw [Workflow.conditionEdges]
  induction workflow.steps.zipIdx with
  | nil => rfl
  | cons entry rest ih =>
    obtain ⟨step, i⟩ := entry
    rw [List.flatMap_cons, ih, List.filter_cons]
    cases hcriteria : step.criteria.getD [] with
    | nil => simp [loopEdges, hcriteria]
    | cons first others => simp [loopEdges, Edge.ofText, hcriteria]

section Nodup

variable (hnodup : (workflow.steps.map (·.id)).Nodup)
include hnodup

/-- The index of the graph leads to the number of a step. -/
theorem nodeIndex?_eq_stepNumber? :
    (nodesOf workflow interface).nodeIndex? = workflow.stepNumber? := by
  funext id
  rw [nodeIndex?_nodesOf, Workflow.position?_eq_stepNumber? hnodup]

/-- The data edges into a step follow its groups of references. -/
theorem dataEdges_eq (step : Step) (i : ℕ) :
    (nodesOf workflow interface).dataEdges step i = workflow.dataEdgesInto step i := by
  rw [dataEdges, Step.dependencies_eq, List.flatMap_map, Workflow.dataEdgesInto]
  refine List.flatMap_congr fun id _ => ?_
  simp only [nodeIndex?_eq_stepNumber? hnodup]
  cases workflow.stepNumber? id with
  | none => rfl
  | some j =>
    rw [Option.toList_some, List.flatMap_singleton]
    rfl

/-- The edges for the actions of a step are those for its two lists. -/
theorem actionEdges_eq (step : Step) (i : ℕ) :
    (nodesOf workflow interface).actionEdges step i =
      workflow.jumpEdgesFrom .onSuccess i (step.onSuccess.getD []) ++
        workflow.jumpEdgesFrom .onFailure i (step.onFailure.getD []) := by
  simp only [actionEdges, gotoEdges, Workflow.jumpEdgesFrom, List.filterMap_filter,
    nodeIndex?_eq_stepNumber? hnodup, decide_eq_true_eq]
  rfl

end Nodup

/-- The dependencies of a workflow have one entry for each step, in order. -/
theorem dependenciesOf_eq (hnodup : (steps.map (·.id)).Nodup) :
    dependenciesOf steps = steps.map fun step => (step.id, step.neededSteps) := by
  -- the table is filled from the first step on, so that the last step is entered last
  induction steps using List.reverseRecOn with
  | nil => rfl
  | append_singleton steps step ih =>
    rw [List.map_append, List.map_singleton, List.nodup_append] at hnodup
    have hnew : step.id ∉ (steps.map fun step => (step.id, step.neededSteps)).map Prod.fst := by
      rw [List.map_map]
      exact fun hmem => hnodup.2.2 _ hmem _ (List.mem_singleton_self _) rfl
    have hlast : dependenciesOf (steps ++ [step]) =
        Keyed.put step.id (step.dependencies.map Prod.fst) (dependenciesOf steps) :=
      List.foldl_append
    rw [hlast, ih hnodup.1, Step.map_fst_dependencies, Keyed.put_of_notMem _ hnew,
      List.map_append, List.map_singleton]

/-! ## All edges -/

/-- The edges of the graph are those of the four groups, one group after the other. -/
theorem edges_eq_groups (hnodup : (workflow.steps.map (·.id)).Nodup) :
    (ofWorkflow workflow interface options).edges =
      workflow.neighbourEdges ++ (if options.dataEdges then workflow.dataEdges else []) ++
        (if options.loops then workflow.conditionEdges else []) ++ workflow.jumpEdges := by
  simp only [ofWorkflow, edgesOf, sequentialEdges_eq, loopEdges_eq, dataEdges_eq hnodup,
    actionEdges_eq hnodup]
  rfl

/-- The edges of the kind of data edges are those of the second group. -/
theorem edgesOfKind_dataDependency (hnodup : (workflow.steps.map (·.id)).Nodup) :
    (ofWorkflow workflow interface options).edgesOfKind .dataDependency =
      if options.dataEdges then workflow.dataEdges else [] := by
  -- each group has edges of its own kinds only
  have hsequential : (sequentialEdges workflow.steps.zipIdx).filter (·.kind == .dataDependency) =
      [] :=
    List.filter_eq_nil_iff.2 fun edge hedge => by simp [(mem_sequentialEdges hedge).1]
  have hdata : (workflow.steps.zipIdx.flatMap fun (step, i) =>
      (nodesOf workflow interface).dataEdges step i).filter (·.kind == .dataDependency) =
        workflow.dataEdges := by
    have hinto (step : Step) (i : ℕ) :
        (nodesOf workflow interface).dataEdges step i = workflow.dataEdgesInto step i :=
      dataEdges_eq hnodup step i
    simp only [Workflow.dataEdges, ← hinto]
    refine List.filter_eq_self.2 fun edge hedge => ?_
    obtain ⟨_, -, hedge⟩ := List.mem_flatMap.1 hedge
    simp [(mem_dataEdges hedge).1]
  have hloops : (workflow.steps.zipIdx.flatMap fun (step, i) => loopEdges step i).filter
      (·.kind == .dataDependency) = [] := by
    refine List.filter_eq_nil_iff.2 fun edge hedge => ?_
    obtain ⟨_, -, hedge⟩ := List.mem_flatMap.1 hedge
    simp [(mem_loopEdges hedge).1]
  have hactions : (workflow.steps.zipIdx.flatMap fun (step, i) =>
      (nodesOf workflow interface).actionEdges step i).filter (·.kind == .dataDependency) = [] := by
    refine List.filter_eq_nil_iff.2 fun edge hedge => ?_
    obtain ⟨_, -, hedge⟩ := List.mem_flatMap.1 hedge
    obtain ⟨hkind | hkind, -⟩ := mem_actionEdges hedge <;> simp [hkind]
  simp only [edgesOfKind, ofWorkflow, edgesOf, List.filter_append, hsequential, hloops, hactions,
    apply_ite (List.filter _), hdata, List.filter_nil, ite_self, List.nil_append, List.append_nil]

variable {value : Value} {document : Document}

/-- The edges of the graph of an accepted workflow, whatever its interface. First there is an edge
from every step to the next one, unless an action of the step goes on at a step. Then, if the graph
has data edges, there are for each step those for the references of its request to outputs of steps
of the workflow, each text once. Then, if the graph has loops, there is one at each step with
conditions for success. Last, there is for each step an edge for every action that goes on at a step
of the workflow.

No two data edges have the same ends and the same text, and they are the edges that stand for a
reference of one step to an output of another. Under the id of each step the graph lists the steps
to which the request refers, each once and in the order of the first references, whether they are
there or not. -/
theorem edges_ofWorkflow (hread : Document.read value = .ok document)
    (hworkflow : workflow ∈ document.workflows) (interface : Interface) (options : Options) :
    (ofWorkflow workflow interface options).edges =
        workflow.neighbourEdges ++ (if options.dataEdges then workflow.dataEdges else []) ++
          (if options.loops then workflow.conditionEdges else []) ++ workflow.jumpEdges ∧
      ((ofWorkflow workflow interface options).edgesOfKind .dataDependency).Pairwise
        (fun edge other => ¬ edge.SameReference other) ∧
      (∀ edge, edge ∈ (ofWorkflow workflow interface options).edgesOfKind .dataDependency ↔
        options.dataEdges = true ∧ workflow.IsDataEdge edge) ∧
      (ofWorkflow workflow interface options).dependencies =
        workflow.steps.map fun step => (step.id, step.neededSteps) := by
  have hvalid := (Document.read_eq_ok_iff.1 hread).2
  have hnodup := (hvalid.workflows workflow hworkflow).nodup
  refine ⟨edges_eq_groups hnodup, ?_, fun edge => ?_, dependenciesOf_eq hnodup⟩
  · rw [edgesOfKind_dataDependency hnodup]
    split
    · exact workflow.pairwise_dataEdges
    · exact List.Pairwise.nil
  · rw [edgesOfKind_dataDependency hnodup, ← Workflow.mem_dataEdges_iff hnodup]
    split <;> simp [*]

/-- The value of a document with three steps. The first one goes on at the third. The second one
refers to the first twice, to itself and to a step that is not there, and has conditions. The third
one refers to the second, and after failure goes on there by two actions and nowhere by a third. -/
def tourDocument : Value :=
  let parameter (value : String) : Value := .map [(.str "name", .str "q"),
    (.str "in", .str "query"), (.str "value", .str value)]
  let condition : Value := .map [(.str "condition", .str "$statusCode == 200")]
  let goOn (name step : String) : Value := .map [(.str "name", .str name),
    (.str "type", .str "goto"), (.str "stepId", .str step)]
  let finish : Value := .map [(.str "name", .str "stop"), (.str "type", .str "end")]
  let login : Value := .map [(.str "stepId", .str "login"), (.str "operationId", .str "login"),
    (.str "onSuccess", .list [finish, goOn "skip" "check"])]
  let list : Value := .map [(.str "stepId", .str "list"), (.str "operationId", .str "list"),
    (.str "parameters", .list [parameter "$steps.login.outputs.token $steps.list.outputs.page"]),
    (.str "requestBody", .map [(.str "payload", .list [.str "$steps.login.outputs.token",
      .str "$steps.gone.outputs.id"])]),
    (.str "successCriteria", .list [condition, condition])]
  let check : Value := .map [(.str "stepId", .str "check"), (.str "operationId", .str "check"),
    (.str "parameters", .list [parameter "$steps.list.outputs.page"]),
    (.str "onFailure", .list [goOn "again" "list", goOn "again" "list", goOn "away" "gone"])]
  let workflow : Value := .map [(.str "workflowId", .str "tour"),
    (.str "steps", .list [login, list, check])]
  .map [(.str "arazzo", .str "1.0.0"),
    (.str "info", .map [(.str "title", .str "Tour"), (.str "version", .str "1")]),
    (.str "workflows", .list [workflow])]

/-- All edges of the tour. -/
theorem edges_tour :
    ∃ document workflow, Document.read tourDocument = .ok document ∧
      workflow ∈ document.workflows ∧
      (ofWorkflow workflow .absent ⟨true, true⟩).edges =
        [⟨1, 2, .sequential, none, none⟩,
          ⟨0, 1, .dataDependency, some "$steps.login.outputs.token", none⟩,
          ⟨1, 1, .dataDependency, some "$steps.list.outputs.page", none⟩,
          ⟨1, 2, .dataDependency, some "$steps.list.outputs.page", none⟩,
          ⟨1, 1, .conditional, none, some "Success criteria: 2 conditions"⟩,
          ⟨0, 2, .onSuccess, none, some "skip"⟩,
          ⟨2, 1, .onFailure, none, some "again"⟩,
          ⟨2, 1, .onFailure, none, some "again"⟩] ∧
      (ofWorkflow workflow .absent ⟨true, true⟩).dependencies =
        [("login", []), ("list", ["login", "list", "gone"]), ("check", ["list"])] := by
  have hread : Document.read tourDocument = .ok _ := rfl
  obtain ⟨hedges, -, -, hdependencies⟩ :=
    edges_ofWorkflow hread (List.mem_singleton.2 rfl) .absent ⟨true, true⟩
  exact ⟨_, _, hread, List.mem_singleton.2 rfl, hedges.trans (by decide +kernel),
    hdependencies.trans (by decide +kernel)⟩

end FlowGraph

end FlowCheck
