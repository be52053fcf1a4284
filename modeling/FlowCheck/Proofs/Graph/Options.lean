import FlowCheck.Proofs.Graph.Agreement
import FlowCheck.Proofs.Graph.Build

/-!
# What the options of a graph change

Each option adds one group of edges to the graph of a workflow and changes nothing else: without the
option the graph is the same graph with the edges of one kind left out. The group for conditions
consists of loops, and no check looks at loops, so that all checks answer the same. The group for
data dependencies can add links. More links can only make a graph cyclic, and can only take nodes
away from those that nothing leads to and from those that nothing follows.
-/

namespace FlowCheck.FlowGraph

open Relation

/-- The graph without the edges of a kind. -/
def withoutKind (graph : FlowGraph) (kind : EdgeKind) : FlowGraph :=
  { graph with edges := graph.edges.filter (·.kind != kind) }

/-! ## Checks and links -/

variable {graph other : FlowGraph} {kind : EdgeKind}

/-- The checks look at nothing but the nodes and the links. -/
theorem checks_congr (hnodes : graph.nodes = other.nodes) (hlinks : graph.links = other.links) :
    graph.checks = other.checks := by
  have hsize : graph.size = other.size := congrArg List.length hnodes
  have hid : graph.stepId = other.stepId := by
    funext i
    rw [stepId, stepId, hnodes]
  have hcycle : graph.cycle? = other.cycle? := by rw [cycle?, cycle?, hlinks, hsize]
  have horder : graph.order = other.order := by
    rw [order, order, sorted, sorted, hlinks, hsize]
  have hunreachable : graph.unreachable = other.unreachable := by
    rw [unreachable, unreachable, hlinks, hsize]
  have hdeadEnds : graph.deadEnds = other.deadEnds := by
    rw [deadEnds, deadEnds, hlinks, hsize]
  have hinRange : graph.linksInRange = other.linksInRange := by
    rw [linksInRange, linksInRange, hlinks, hsize]
  have hverdict : graph.verdict = other.verdict := by
    rw [verdict, verdict, hid, hcycle, horder, hunreachable, hdeadEnds]
  rw [checks, checks, hinRange, hverdict, hcycle, horder, hunreachable, hdeadEnds, hid]

/-- Loops can be left out without a change of the checks. -/
theorem checks_withoutKind (h : ∀ edge ∈ graph.edges, edge.kind = kind → edge.isLoop = true) :
    (graph.withoutKind kind).checks = graph.checks := by
  refine checks_congr rfl ?_
  rw [links, links, withoutKind, List.filter_filter]
  -- an edge that is no loop is not of the kind, so that it stays
  have hfilter : graph.edges.filter (fun edge => !edge.isLoop && edge.kind != kind) =
      graph.edges.filter fun edge => !edge.isLoop := by
    refine List.filter_congr fun edge hedge => ?_
    by_cases hkind : edge.kind = kind
    · simp [h edge hedge hkind]
    · simp [hkind]
  rw [hfilter]

/-- Leaving edges out adds no link. -/
theorem leads_of_leads_withoutKind {i j : ℕ} (h : (graph.withoutKind kind).Leads i j) :
    graph.Leads i j := by
  obtain ⟨hne, edge, hedge, hends⟩ := h
  exact ⟨hne, edge, List.mem_of_mem_filter hedge, hends⟩

/-- The links that are left are links. -/
theorem links_withoutKind_subset : (graph.withoutKind kind).links ⊆ graph.links := by
  rintro ⟨i, j⟩ hlink
  exact linked_links.2 (leads_of_leads_withoutKind (linked_links.1 hlink))

/-- A graph that is acyclic stays so when edges are left out. -/
theorem Acyclic.withoutKind (h : graph.Acyclic) : (graph.withoutKind kind).Acyclic := by
  intro i hcycle
  exact h i (TransGen.mono (fun _ _ => leads_of_leads_withoutKind) _ _ hcycle)

/-- Where the edges are in range, the verdict is valid when the graph is acyclic. -/
theorem isValid_verdict_iff (h : graph.InRange) :
    graph.verdict.isValid = true ↔ graph.Acyclic := by
  have hlinks := below_links h
  have hcycle := cycle?_eq_none_iff hlinks
  have horder := exists_order_iff hlinks
  rw [Verdict.isValid_iff, errors_verdict, List.append_eq_nil_iff]
  constructor
  · rintro ⟨hnone, -⟩
    refine hcycle.1 (Option.not_isSome_iff_eq_none.1 fun hsome => ?_)
    simp [hsome] at hnone
  · intro hacyclic
    obtain ⟨places, hplaces⟩ := horder.2 hacyclic
    simp [hcycle.2 hacyclic, hplaces]

/-- Nothing leads to a node any more only if more edges are left out. -/
theorem unreachable_sublist_withoutKind :
    graph.unreachable.Sublist (graph.withoutKind kind).unreachable := by
  refine List.monotone_filter_right _ fun i hi => ?_
  simp only [Bool.and_eq_true, Bool.not_eq_true', List.any_eq_false] at hi ⊢
  exact ⟨hi.1, fun link hlink => hi.2 link (links_withoutKind_subset hlink)⟩

/-- Nothing follows a node any more only if more edges are left out. -/
theorem deadEnds_sublist_withoutKind :
    graph.deadEnds.Sublist (graph.withoutKind kind).deadEnds := by
  refine List.monotone_filter_right _ fun i hi => ?_
  simp only [Bool.not_eq_true', List.any_eq_false] at hi ⊢
  exact fun link hlink => hi link (links_withoutKind_subset hlink)

/-- More edges make no invalid graph valid, and add no node to those that nothing leads to or to
those that nothing follows. -/
theorem exists_checks_withoutKind (h : graph.InRange) :
    ∃ fewer more, (graph.withoutKind kind).checks = .ok fewer ∧ graph.checks = .ok more ∧
      (more.verdict.isValid = true → fewer.verdict.isValid = true) ∧
      more.unreachable.Sublist fewer.unreachable ∧ more.deadEnds.Sublist fewer.deadEnds := by
  have hfewer : (graph.withoutKind kind).InRange :=
    fun edge hedge => h edge (List.mem_of_mem_filter hedge)
  refine ⟨_, _, checks_of_inRange hfewer, checks_of_inRange h,
    fun hvalid => ?_, unreachable_sublist_withoutKind.map _, deadEnds_sublist_withoutKind.map _⟩
  exact (isValid_verdict_iff hfewer).2 ((isValid_verdict_iff h).1 hvalid).withoutKind

/-! ## The groups of edges -/

/-- The options without the one for a kind of edges. The other kinds are there in any case. -/
def Options.without (options : Options) : EdgeKind → Options
  | .conditional => { options with loops := false }
  | .dataDependency => { options with dataEdges := false }
  | _ => options

variable {steps : List Step} {workflow : Workflow} {interface : Interface}

/-- Of edges of one kind either all are left out or none. -/
theorem filter_kind_of_forall_eq {edges : List Edge} {common : EdgeKind} (kind : EdgeKind)
    (h : ∀ edge ∈ edges, edge.kind = common) :
    edges.filter (·.kind != kind) = if kind = common then [] else edges := by
  split
  · next heq =>
    exact List.filter_eq_nil_iff.2 fun edge hedge => by simp [h edge hedge, heq]
  · next hne =>
    exact List.filter_eq_self.2 fun edge hedge => by simp [h edge hedge, Ne.symm hne]

/-- Of a group of edges of one kind, made step by step, either all are left out or none. -/
theorem filter_kind_flatMap {edgesOf : Step → ℕ → List Edge} {common : EdgeKind}
    (steps : List Step) (kind : EdgeKind)
    (h : ∀ step i, ∀ edge ∈ edgesOf step i, edge.kind = common) :
    (steps.zipIdx.flatMap fun (step, i) => edgesOf step i).filter (·.kind != kind) =
      if kind = common then [] else steps.zipIdx.flatMap fun (step, i) => edgesOf step i := by
  refine filter_kind_of_forall_eq kind fun edge hedge => ?_
  obtain ⟨⟨step, i⟩, -, hedge⟩ := List.mem_flatMap.1 hedge
  exact h step i edge hedge

/-- The edges that are left without one of the two optional kinds are those without its option. -/
theorem filter_edgesOf (options : Options)
    (hkind : kind = .conditional ∨ kind = .dataDependency) :
    (graph.edgesOf steps.zipIdx options).filter (·.kind != kind) =
      graph.edgesOf steps.zipIdx (options.without kind) := by
  have hsequential := filter_kind_of_forall_eq kind
    fun edge (hedge : edge ∈ sequentialEdges steps.zipIdx) => (mem_sequentialEdges hedge).1
  have hdata := filter_kind_flatMap steps kind
    fun step i edge (hedge : edge ∈ graph.dataEdges step i) => (mem_dataEdges hedge).1
  have hloops := filter_kind_flatMap steps kind
    fun step i edge (hedge : edge ∈ loopEdges step i) => (mem_loopEdges hedge).1
  -- actions are of two kinds, and neither of them is optional
  have hactions : (steps.zipIdx.flatMap fun (step, i) => graph.actionEdges step i).filter
      (·.kind != kind) = steps.zipIdx.flatMap fun (step, i) => graph.actionEdges step i := by
    refine List.filter_eq_self.2 fun edge hedge => ?_
    obtain ⟨_, -, hedge⟩ := List.mem_flatMap.1 hedge
    obtain ⟨haction, -⟩ := mem_actionEdges hedge
    rcases hkind with rfl | rfl <;> rcases haction with haction | haction <;> simp [haction]
  obtain ⟨loops, dataEdges⟩ := options
  simp only [edgesOf, List.filter_append, hsequential, hactions]
  rcases hkind with rfl | rfl
  · cases dataEdges <;> cases loops <;> simp [Options.without, hdata, hloops]
  · cases dataEdges <;> cases loops <;> simp [Options.without, hdata, hloops]

/-- Without an option the graph of a workflow is the graph without the edges of one kind. -/
theorem ofWorkflow_withoutKind (options : Options)
    (hkind : kind = .conditional ∨ kind = .dataDependency) :
    (ofWorkflow workflow interface options).withoutKind kind =
      ofWorkflow workflow interface (options.without kind) := by
  simp only [withoutKind, ofWorkflow, filter_edgesOf options hkind]

/-- The edges for conditions are loops. -/
theorem isLoop_of_conditional {options : Options} :
    ∀ edge ∈ (ofWorkflow workflow interface options).edges, edge.kind = .conditional →
      edge.isLoop = true := by
  intro edge hedge hkind
  cases origin_of_mem_edges hedge with
  | sequential hother => simp [hkind] at hother
  | data hother => simp [hkind] at hother
  | loop _ hends => exact beq_iff_eq.2 hends
  | action hother => simp [hkind] at hother

/-- Each option has its effect and no other. Without the loops for conditions the graph of a
workflow has the same edges of other kinds in the same order, and all checks answer the same.
Without the data edges it has the same edges of other kinds in the same order, too; with them an
invalid graph does not become valid, and no step is added to those that nothing leads to or to those
that nothing follows. -/
theorem ofWorkflow_options (workflow : Workflow) (interface : Interface) :
    (∀ dataEdges,
      ofWorkflow workflow interface ⟨false, dataEdges⟩ =
          (ofWorkflow workflow interface ⟨true, dataEdges⟩).withoutKind .conditional ∧
        ∃ checks, (ofWorkflow workflow interface ⟨false, dataEdges⟩).checks = .ok checks ∧
          (ofWorkflow workflow interface ⟨true, dataEdges⟩).checks = .ok checks) ∧
      ∀ loops,
        ofWorkflow workflow interface ⟨loops, false⟩ =
            (ofWorkflow workflow interface ⟨loops, true⟩).withoutKind .dataDependency ∧
          ∃ fewer more, (ofWorkflow workflow interface ⟨loops, false⟩).checks = .ok fewer ∧
            (ofWorkflow workflow interface ⟨loops, true⟩).checks = .ok more ∧
            (more.verdict.isValid = true → fewer.verdict.isValid = true) ∧
            more.unreachable.Sublist fewer.unreachable ∧
            more.deadEnds.Sublist fewer.deadEnds := by
  -- an option adds the edges of one kind, so that leaving these out undoes it
  constructor
  · intro dataEdges
    have hbare : ofWorkflow workflow interface ⟨false, dataEdges⟩ =
        (ofWorkflow workflow interface ⟨true, dataEdges⟩).withoutKind .conditional :=
      (ofWorkflow_withoutKind ⟨true, dataEdges⟩ (.inl rfl)).symm
    refine ⟨hbare, ?_⟩
    rw [hbare, checks_withoutKind isLoop_of_conditional]
    exact ⟨_, if_pos (linksInRange_of_inRange inRange_ofWorkflow),
      if_pos (linksInRange_of_inRange inRange_ofWorkflow)⟩
  · intro loops
    have hplain : ofWorkflow workflow interface ⟨loops, false⟩ =
        (ofWorkflow workflow interface ⟨loops, true⟩).withoutKind .dataDependency :=
      (ofWorkflow_withoutKind ⟨loops, true⟩ (.inr rfl)).symm
    refine ⟨hplain, ?_⟩
    rw [hplain]
    exact exists_checks_withoutKind inRange_ofWorkflow

/-- A workflow whose second step has a condition for success and goes on elsewhere, and whose third
step needs an output of the first. -/
def relay : Workflow :=
  let calling (id : String) : Step := { (default : Step) with id, operationId := .str id }
  { (default : Workflow) with
    id := "relay"
    steps := [
      calling "create",
      { calling "wait" with
        criteria := some [⟨.null, "$statusCode == 200", .null, .null⟩]
        onSuccess := some [⟨"leave", Action.goto, [(.str "workflowId", .str "other")]⟩] },
      { calling "use" with
        parameters := [⟨"id", .str "path", .str "$steps.create.outputs.id", none, false⟩] }] }

/-- Both options add an edge to the graph of that workflow. The loop changes no check. The data edge
makes the last step follow the first, so that nothing is left that no step leads to. -/
theorem options_relay :
    (ofWorkflow relay .absent ⟨true, true⟩).edges =
        [Edge.ofText 0 1 .sequential none,
          Edge.ofText 0 2 .dataDependency (some "$steps.create.outputs.id"),
          Edge.ofText 1 1 .conditional (some "Success criteria: 1 conditions")] ∧
      (∃ checks, (ofWorkflow relay .absent ⟨false, true⟩).checks = .ok checks ∧
        (ofWorkflow relay .absent ⟨true, true⟩).checks = .ok checks ∧
        checks.order = .ok ["create", "wait", "use"]) ∧
      ∃ fewer more, (ofWorkflow relay .absent ⟨true, false⟩).checks = .ok fewer ∧
        (ofWorkflow relay .absent ⟨true, true⟩).checks = .ok more ∧
        (more.verdict.isValid = true → fewer.verdict.isValid = true) ∧
        fewer.unreachable = ["use"] ∧ more.unreachable = [] ∧
        more.unreachable.Sublist fewer.unreachable := by
  obtain ⟨hloops, hdata⟩ := ofWorkflow_options relay .absent
  obtain ⟨-, checks, hwithout, hwith⟩ := hloops true
  obtain ⟨-, fewer, more, hfewer, hmore, hvalid, hunreachable, -⟩ := hdata true
  have horder : checks.order = .ok ["create", "wait", "use"] := by
    cases hwithout
    rfl
  have hlast : fewer.unreachable = ["use"] := by
    cases hfewer
    rfl
  have hnone : more.unreachable = [] := by
    cases hmore
    rfl
  exact ⟨by decide, ⟨checks, hwithout, hwith, horder⟩, fewer, more, hfewer, hmore, hvalid, hlast,
    hnone, hunreachable⟩

end FlowCheck.FlowGraph
