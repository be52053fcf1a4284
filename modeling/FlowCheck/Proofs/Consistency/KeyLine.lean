import FlowCheck.Consistency.Positions
import FlowCheck.Proofs.Document.Valid
import FlowCheck.Proofs.Yaml.Spots
import FlowCheck.Proofs.Yaml.Written

/-!
# The lines of ids

The positions of a document are found by paths such as `workflows[0].steps[1].stepId`, and such a
path can also be that of another key: `workflows[0].workflowId` can stand in a document as one key.
Then the later of the two places counts. Where the ids of workflows and steps are written in their
own mappings, each id is found on the line of its key exactly if no later place on another line has
the path of the key (`ofText_pointsAt_iff`). Keys that are distinct, not empty and without points
and opening brackets rule that out.

## Main definitions

* `Yaml.Node.idLines?`: the lines of the keys of all ids, where these are written;
* `Positions.PointsAt`: the positions are these lines;
* `Yaml.Node.KeepsIdLines`: the last places with the paths of the keys are on these lines.
-/

namespace FlowCheck

/-- The lines of the keys of ids in a workflow, counted from 1. -/
structure IdLines where
  /-- The line of the id of the workflow. -/
  workflow : ℕ
  /-- The lines of the ids of its steps. -/
  steps : List ℕ
deriving DecidableEq

namespace Yaml.Node

/-- The items of a list. -/
def items? : Node → Option (List Node)
  | .sequence _ items _ => some items
  | _ => none

/-- The items of the list that is written under a key. -/
def itemsAt? (key : String) (node : Node) : Option (List Node) :=
  (node.writtenAt? key).bind fun found => found.2.items?

/-- The lines of the keys of ids in a workflow, where all of them are written. -/
def workflowLines? (workflow : Node) : Option IdLines := do
  let (line, _) ← workflow.writtenAt? "workflowId"
  let steps ← workflow.itemsAt? "steps"
  let lines ← steps.mapM fun step => (step.writtenAt? "stepId").map Prod.fst
  return ⟨line, lines⟩

/-- The lines of the keys of ids in a document, where all of them are written. -/
def idLines? (root : Node) : Option (List IdLines) := do
  let workflows ← root.itemsAt? "workflows"
  workflows.mapM workflowLines?

/-- The last place with the path of the key of an id is on the line of that key, for each id. -/
structure KeepsIdLines (root : Node) (lines : List IdLines) : Prop where
  /-- It is so for the ids of workflows. -/
  workflow : ∀ (i : ℕ) (found : IdLines), lines[i]? = some found →
    lastLine? root.spots s!"workflows[{i}].workflowId" = some found.workflow
  /-- It is so for the ids of steps. -/
  step : ∀ (i : ℕ) (found : IdLines), lines[i]? = some found →
    ∀ (j line : ℕ), found.steps[j]? = some line →
      lastLine? root.spots s!"workflows[{i}].steps[{j}].stepId" = some line

end Yaml.Node

/-- The positions are the lines of the keys, for each workflow and each step of a document. -/
structure Positions.PointsAt (positions : Positions) (document : Document)
    (lines : List IdLines) : Prop where
  /-- The workflows are on the lines of their ids. -/
  workflow : List.Forall₂ (fun workflow (found : IdLines) =>
    positions.workflows.lookup workflow.id = some found.workflow) document.workflows lines
  /-- The steps are on the lines of their ids. -/
  step : List.Forall₂ (fun workflow (found : IdLines) => List.Forall₂ (fun step line =>
    positions.steps.lookup (workflow.id, step.id) = some line) workflow.steps found.steps)
      document.workflows lines

namespace Positions

open Yaml Result

/-! ## Notes under ids -/

section Notes

variable {α β : Type} [BEq α]

/-- Puts the lines that are there under their keys, one after the other. -/
def noteAll (entries : List (α × Option β)) (table : List (α × β)) : List (α × β) :=
  entries.foldl (fun table entry =>
    match entry.2 with
    | some value => Keyed.put entry.1 value table
    | none => table) table

/-- Lines are put one list after the other. -/
theorem noteAll_append (entries others : List (α × Option β)) (table : List (α × β)) :
    noteAll (entries ++ others) table = noteAll others (noteAll entries table) :=
  List.foldl_append

variable [LawfulBEq α]

/-- Under another key nothing changes. -/
theorem lookup_noteAll_of_notMem {entries : List (α × Option β)} {table : List (α × β)} {key : α}
    (h : key ∉ entries.map Prod.fst) : (noteAll entries table).lookup key = table.lookup key := by
  induction entries generalizing table with
  | nil => rfl
  | cons entry rest ih =>
    rw [List.map_cons, List.mem_cons, not_or] at h
    obtain ⟨k, value?⟩ := entry
    rw [noteAll, List.foldl_cons, ← noteAll, ih h.2]
    cases value? with
    | none => rfl
    | some value => exact Keyed.lookup_put_of_ne value table h.1

/-- Under each of some distinct keys stands what was put there. -/
theorem lookup_noteAll {entries : List (α × Option β)} {table : List (α × β)} {key : α}
    {value? : Option β} (hnodup : (entries.map Prod.fst).Nodup) (hmem : (key, value?) ∈ entries)
    (hnew : table.lookup key = none) : (noteAll entries table).lookup key = value? := by
  induction entries generalizing table with
  | nil => cases hmem
  | cons entry rest ih =>
    rw [List.map_cons, List.nodup_cons] at hnodup
    rw [noteAll, List.foldl_cons, ← noteAll]
    rcases List.mem_cons.1 hmem with rfl | hrest
    · rw [lookup_noteAll_of_notMem hnodup.1]
      cases value? with
      | none => exact hnew
      | some value => exact Keyed.lookup_put_self key value table
    · -- what was put before is under another key, so that the key is still new
      refine ih hnodup.2 hrest ?_
      have hne : key ≠ entry.1 := fun heq => hnodup.1 (heq ▸ List.mem_map_of_mem hrest)
      cases entry.2 with
      | none => exact hnew
      | some value => exact (Keyed.lookup_put_of_ne value table hne).trans hnew

end Notes

/-! ## Positions of a document -/

variable {lines : LineMap} {workflow : Workflow} {steps : List Step} {workflows : List Workflow}

/-- A mapping that has a text under a key has the key. -/
theorem entriesWith_of_hasText {entries : Entries} {key text : String}
    (h : Entries.HasText entries key text) : entriesWith key (.map entries) = some entries := by
  have hhas : Entries.has entries key = true := by
    have hgiven := h.given
    rw [Entries.Given, Entries.get] at hgiven
    rw [Entries.has]
    cases hfind : Entries.find? entries key with
    | none => simp [hfind, Value.isNull] at hgiven
    | some value => rfl
  rw [entriesWith, if_pos hhas]

/-- The line of a step under the id of its workflow and its own. -/
def stepNote (lines : LineMap) (workflow path : String) (entry : Step × ℕ) :
    (String × String) × Option ℕ :=
  ((workflow, entry.1.id), lines.line? [s!"{path}.steps[{entry.2}].stepId"])

/-- A step is added by its id, with its line if there is one. -/
theorem addStep_eq {entries : Entries} {step : Step}
    (h : Entries.HasText entries "stepId" step.id) (lines : LineMap) (id path : String)
    (positions : Positions) (j : ℕ) :
    addStep lines id path positions (.map entries, j) = .ok
      { positions with
        steps := noteAll [stepNote lines id path (step, j)] positions.steps } := by
  rw [addStep, stepNote]
  simp only [entriesWith_of_hasText h]
  cases lines.line? [s!"{path}.steps[{j}].stepId"] with
  | none => rfl
  | some line =>
    simp only [h.text_eq, ok_bind]
    rfl

/-- Steps are added one after the other. -/
theorem foldlM_addStep {values : List Value}
    (h : List.Forall₂ (MappingHeld fun step entries =>
      Entries.HasText entries "stepId" step.id) steps values)
    (lines : LineMap) (id path : String) (start : ℕ) (positions : Positions) :
    (values.zipIdx start).foldlM (addStep lines id path) positions = .ok
      { positions with
        steps := noteAll ((steps.zipIdx start).map (stepNote lines id path)) positions.steps } := by
  induction h generalizing start positions with
  | nil => rfl
  | cons hfirst _ ih =>
    obtain ⟨entries, rfl, hid⟩ := hfirst
    rw [List.zipIdx_cons, List.foldlM_cons, addStep_eq hid, ok_bind, ih]
    rfl

/-- The line of a workflow under its id. -/
def workflowNote (lines : LineMap) (entry : Workflow × ℕ) : String × Option ℕ :=
  (entry.1.id, lines.line? [s!"workflows[{entry.2}]" ++ ".workflowId"])

/-- The lines of the steps of a workflow under its id and theirs. -/
def stepNotes (lines : LineMap) (entry : Workflow × ℕ) : List ((String × String) × Option ℕ) :=
  entry.1.steps.zipIdx.map (stepNote lines entry.1.id s!"workflows[{entry.2}]")

/-- The entries are those of a workflow, as far as its ids are concerned. -/
structure HasIds (workflow : Workflow) (entries : Entries) : Prop where
  /-- The workflow has its id there. -/
  id : Entries.HasText entries "workflowId" workflow.id
  /-- The steps have their ids there. -/
  steps : ∃ values, Entries.get entries "steps" = .list values ∧
    List.Forall₂ (MappingHeld fun step entries =>
      Entries.HasText entries "stepId" step.id) workflow.steps values

/-- A workflow is added by its id, with its line if there is one, and then its steps are. -/
theorem addWorkflow_eq {entries : Entries} (h : HasIds workflow entries) (lines : LineMap)
    (positions : Positions) (i : ℕ) :
    addWorkflow lines positions (.map entries, i) = .ok
      ⟨noteAll [workflowNote lines (workflow, i)] positions.workflows,
        noteAll (stepNotes lines (workflow, i)) positions.steps⟩ := by
  obtain ⟨values, hvalues, hsteps⟩ := h.steps
  rw [addWorkflow, workflowNote]
  simp only [entriesWith_of_hasText h.id, h.id.text_eq, ok_bind, hvalues, itemsOf,
    Option.getD_some, foldlM_addStep hsteps]
  cases lines.line? [s!"workflows[{i}]" ++ ".workflowId"] <;> rfl

/-- Workflows are added one after the other. -/
theorem foldlM_addWorkflow {values : List Value}
    (h : List.Forall₂ (MappingHeld HasIds) workflows values) (lines : LineMap) (start : ℕ)
    (positions : Positions) :
    (values.zipIdx start).foldlM (addWorkflow lines) positions = .ok
      ⟨noteAll ((workflows.zipIdx start).map (workflowNote lines)) positions.workflows,
        noteAll ((workflows.zipIdx start).flatMap (stepNotes lines)) positions.steps⟩ := by
  induction h generalizing start positions with
  | nil => rfl
  | cons hfirst _ ih =>
    obtain ⟨entries, rfl, hids⟩ := hfirst
    rw [List.zipIdx_cons, List.foldlM_cons, addWorkflow_eq hids, ok_bind, ih,
      List.zipIdx_cons, List.flatMap_cons, noteAll_append]
    rfl

/-- The ids of a workflow that fits are those in its entries. -/
theorem hasIds_of_fits {ParameterFits : Parameter → Entries → Prop} {entries : Entries}
    (h : Workflow.Fits ParameterFits workflow entries) : HasIds workflow entries := by
  obtain ⟨values, hlist, hsteps⟩ := h.steps.exists_list h.given_steps
  exact ⟨h.id, values, hlist, hsteps.imp fun step value ⟨entries, hvalue, hfits⟩ =>
    ⟨entries, hvalue, hfits.id⟩⟩

/-- The positions of a document whose places of keys and items have these lines. -/
def ofLines (lines : LineMap) (document : Document) : Positions :=
  ⟨noteAll (document.workflows.zipIdx.map (workflowNote lines)) [],
    noteAll (document.workflows.zipIdx.flatMap (stepNotes lines)) []⟩

/-- The positions in the text of a document are those by the last places with a path. -/
theorem exists_ofText_eq {text : String} {value : Value} {document : Document} {root : Yaml.Node}
    (hroot : Yaml.Node.ofText? text.toList = .ok (some root)) (hvalue : Yaml.load text = .ok value)
    (hheld : document.HeldBy value) (hends : root.ends = true) :
    ∃ lines : LineMap, (∀ path, lines.line? [path] = lastLine? root.spots path) ∧
      Positions.ofText text = .ok (ofLines lines document) := by
  obtain ⟨entries, rfl, hfits⟩ := hheld
  obtain ⟨values, hlist, hworkflows⟩ := hfits.workflows.exists_list hfits.given_workflows
  have hids : List.Forall₂ (MappingHeld HasIds) document.workflows values :=
    hworkflows.imp fun workflow value ⟨entries, hvalue, hfits⟩ =>
      ⟨entries, hvalue, hasIds_of_fits hfits⟩
  refine ⟨_, LineMap.line?_foldl_put root.spots, ?_⟩
  have hlines : LineMap.ofText text = .ok ((root.spots.map fun spot => (spot.path, spot.line)).foldl
      (fun all entry => Keyed.put entry.1 entry.2 all) []) := by
    simp only [LineMap.ofText, hroot, Yaml.Node.lines_eq "" root hends, ok_bind]
    rfl
  simp only [ofText, hvalue, hlist, itemsOf, hlines, ok_bind, foldlM_addWorkflow hids]
  rfl

/-- Numbered items have the keys of the items. -/
theorem map_zipIdx {γ δ : Type} (key : γ → δ) (items : List γ) :
    (items.zipIdx.map fun entry => key entry.1) = items.map key := by
  conv_rhs => rw [← List.zipIdx_map_fst 0 items]
  rw [List.map_map]
  rfl

/-- Each workflow of a document is found on the line by its path. -/
theorem lookup_workflows {document : Document} (hvalid : document.Valid) (lines : LineMap)
    {i : ℕ} (h : document.workflows[i]? = some workflow) :
    (ofLines lines document).workflows.lookup workflow.id =
      lines.line? [s!"workflows[{i}].workflowId"] := by
  have hkeys : (document.workflows.zipIdx.map (workflowNote lines)).map Prod.fst =
      document.workflows.map (·.id) :=
    (List.map_map ..).trans (map_zipIdx (fun workflow : Workflow => workflow.id) _)
  have hpath : s!"workflows[{i}]" ++ ".workflowId" = s!"workflows[{i}].workflowId" := by
    simp [← String.toList_inj, toString]
  rw [← hpath]
  refine lookup_noteAll (hkeys ▸ hvalid.nodup) ?_ rfl
  exact List.mem_map.2 ⟨(workflow, i), List.mk_mem_zipIdx_iff_getElem?.2 h, rfl⟩

/-- No two steps of a document have the same ids of workflow and step. -/
theorem nodup_stepNotes {document : Document} (hvalid : document.Valid) (lines : LineMap) :
    ((document.workflows.zipIdx.flatMap (stepNotes lines)).map Prod.fst).Nodup := by
  have hkeys (entry : Workflow × ℕ) : (stepNotes lines entry).map Prod.fst =
      (entry.1.steps.map (·.id)).map (entry.1.id, ·) := by
    rw [stepNotes, List.map_map, List.map_map]
    exact map_zipIdx (fun step : Step => (entry.1.id, step.id)) _
  simp only [List.map_flatMap, hkeys]
  -- the steps of one workflow differ by their ids, and those of two by the ids of the workflows
  refine List.nodup_flatMap.2 ⟨fun entry hentry => ?_, ?_⟩
  · have hmem : entry.1 ∈ document.workflows :=
      List.mem_of_getElem? (List.mem_zipIdx_iff_getElem?.1 hentry)
    exact (hvalid.workflows _ hmem).nodup.map fun _ _ heq => (Prod.mk.inj heq).2
  · have hids : (document.workflows.zipIdx.map fun entry => entry.1.id).Nodup := by
      rw [map_zipIdx fun workflow : Workflow => workflow.id]
      exact hvalid.nodup
    refine (List.pairwise_map.1 hids).imp fun hne key hkey hother => hne ?_
    obtain ⟨_, -, rfl⟩ := List.mem_map.1 hkey
    obtain ⟨_, -, heq⟩ := List.mem_map.1 hother
    exact (Prod.mk.inj heq).1.symm

/-- Each step of a document is found on the line by its path. -/
theorem lookup_steps {document : Document} (hvalid : document.Valid) (lines : LineMap) {i j : ℕ}
    {step : Step} (h : document.workflows[i]? = some workflow)
    (hstep : workflow.steps[j]? = some step) :
    (ofLines lines document).steps.lookup (workflow.id, step.id) =
      lines.line? [s!"workflows[{i}].steps[{j}].stepId"] := by
  let path := s!"workflows[{i}]"
  have hpath : s!"{path}.steps[{j}].stepId" = s!"workflows[{i}].steps[{j}].stepId" := by
    simp [path, ← String.toList_inj, toString]
  rw [← hpath]
  refine lookup_noteAll (nodup_stepNotes hvalid lines) ?_ rfl
  exact List.mem_flatMap.2 ⟨(workflow, i), List.mk_mem_zipIdx_iff_getElem?.2 h,
    List.mem_map.2 ⟨(step, j), List.mk_mem_zipIdx_iff_getElem?.2 hstep, rfl⟩⟩

end Positions

namespace Yaml.Node

open Result

variable {root node child : Node} {key : String} {line : ℕ} {items : List Node}

/-! ## Where ids are written -/

/-- The list that is written under a key is that of a node there. -/
theorem itemsAt?_eq_some (h : node.itemsAt? key = some items) :
    ∃ line tag start, node.writtenAt? key = some (line, .sequence tag items start) := by
  obtain ⟨⟨line, list⟩, hwritten, hitems⟩ := Option.bind_eq_some_iff.1 h
  cases list with
  | sequence tag found start =>
    obtain rfl := Option.some.inj hitems
    exact ⟨line, tag, start, hwritten⟩
  | _ => cases hitems

/-- The items of the list that is written under a key hold what the list is read as. -/
theorem forall₂_of_itemsAt? {α : Type} {Fits : α → Entries → Prop} {xs : List α}
    {entries : Entries} (hsound : node.IsSound) (hvalue : node.merged.value = .map entries)
    (h : node.itemsAt? key = some items) (hgiven : Entries.Given entries key)
    (hheld : ListHeld (MappingHeld Fits) xs (Entries.get entries key)) :
    List.Forall₂ (fun x item => item.IsSound ∧ MappingHeld Fits x item.merged.value) xs items := by
  obtain ⟨line, tag, start, hwritten⟩ := itemsAt?_eq_some h
  obtain ⟨hlist, hfind⟩ := find?_of_writtenAt? hsound hvalue hwritten
  have hget : Entries.get entries key = (Node.sequence tag items start).merged.value := by
    rw [Entries.get, hfind, Option.getD_some]
  obtain ⟨values, hvalues, hfits⟩ := hheld.exists_list hgiven
  -- as mappings the items are not the pairs of a list with another tag
  have hmaps : ∀ value ∈ values, ∃ entries, value = .map entries :=
    forall_mem_of_forall₂ hfits fun _ _ => Exists.imp fun _ => And.left
  have hitems := forall₂_of_value_eq_list hlist (hget.symm.trans hvalues) hmaps
  refine (forall₂_trans hfits (List.Forall₂.flip hitems)).imp ?_
  rintro x item ⟨value, hheld, hitem, rfl⟩
  exact ⟨hitem, hheld⟩

/-- The lines of a workflow are those of its id and of the ids of its steps. -/
theorem workflowLines?_eq_some {found : IdLines} :
    node.workflowLines? = some found ↔
      (∃ child, node.writtenAt? "workflowId" = some (found.workflow, child)) ∧
        ∃ steps, node.itemsAt? "steps" = some steps ∧
          List.Forall₂ (fun step line => ∃ child, step.writtenAt? "stepId" = some (line, child))
            steps found.steps := by
  have hstep (step : Node) (line : ℕ) : (step.writtenAt? "stepId").map Prod.fst = some line ↔
      ∃ child, step.writtenAt? "stepId" = some (line, child) := by
    simp [Option.map_eq_some_iff]
  simp only [workflowLines?, Option.bind_eq_bind, Option.bind_eq_some_iff, mapM_eq_some_iff, hstep,
    Option.pure_def, Option.some.injEq]
  constructor
  · rintro ⟨⟨line, child⟩, hworkflow, steps, hsteps, lines, hlines, rfl⟩
    exact ⟨⟨child, hworkflow⟩, steps, hsteps, hlines⟩
  · rintro ⟨⟨child, hworkflow⟩, steps, hsteps, hlines⟩
    exact ⟨_, hworkflow, steps, hsteps, _, hlines, rfl⟩

/-- The lines of a document are those of its workflows. -/
theorem idLines?_eq_some {found : List IdLines} :
    root.idLines? = some found ↔ ∃ workflows, root.itemsAt? "workflows" = some workflows ∧
      List.Forall₂ (fun workflow found => workflow.workflowLines? = some found)
        workflows found := by
  simp only [idLines?, Option.bind_eq_bind, Option.bind_eq_some_iff, mapM_eq_some_iff]

/-- There are lines for each workflow and each step of a document. -/
theorem length_steps_of_idLines? {document : Document} {found : List IdLines} {value : Value}
    (hvalue : root.toValue = .ok value) (hheld : document.HeldBy value)
    (h : root.idLines? = some found) :
    List.Forall₂ (fun workflow (lines : IdLines) => workflow.steps.length = lines.steps.length)
      document.workflows found := by
  obtain ⟨hsound, hmerged⟩ := isSound_of_toValue_eq_ok hvalue
  obtain ⟨entries, rfl, hfits⟩ := hheld
  obtain ⟨workflows, hworkflows, hlines⟩ := idLines?_eq_some.1 h
  have hitems := forall₂_of_itemsAt? hsound hmerged hworkflows hfits.given_workflows hfits.workflows
  refine (forall₂_trans hitems hlines).imp ?_
  rintro workflow lines ⟨item, ⟨hitem, entries, hentries, hworkflow⟩, hfound⟩
  obtain ⟨-, steps, hsteps, hstepLines⟩ := workflowLines?_eq_some.1 hfound
  have hstepItems :=
    forall₂_of_itemsAt? hitem hentries hsteps hworkflow.given_steps hworkflow.steps
  exact hstepItems.length_eq.trans hstepLines.length_eq

/-- A key that is written is one of the places, and so is everything inside its value. -/
theorem spots_of_writtenAt? (h : node.writtenAt? key = some (line, child)) :
    ⟨[.key key], line⟩ ∈ node.spots ∧ ∀ spot ∈ child.spots, spot.under (.key key) ∈ node.spots := by
  obtain ⟨tag, kind, before, after, start, place, rfl, rfl, -, -⟩ := writtenAt?_eq_some h
  have hmem : (Node.scalar kind key place, child) ∈
      before ++ (.scalar kind key place, child) :: after := by simp
  exact ⟨mem_entrySpots hmem, fun spot hspot => under_mem_entrySpots hmem hspot⟩

/-- The places inside the items of a list that is written are those of the node. -/
theorem spots_of_itemsAt? (h : node.itemsAt? key = some items) {i : ℕ} {item : Node}
    (hitem : items[i]? = some item) {spot : Spot} (hspot : spot ∈ item.spots) :
    (spot.under (.item i)).under (.key key) ∈ node.spots := by
  obtain ⟨line, tag, start, hwritten⟩ := itemsAt?_eq_some h
  have hinside : spot.under (.item (0 + i)) ∈ itemSpots 0 items := under_mem_itemSpots hitem hspot
  rw [Nat.zero_add] at hinside
  exact (spots_of_writtenAt? hwritten).2 _ hinside

/-- The path of the id of a workflow. -/
theorem path_workflow (i line : ℕ) :
    Spot.path ⟨[.key "workflows", .item i, .key "workflowId"], line⟩ =
      s!"workflows[{i}].workflowId" := by
  rw [← String.toList_inj, ← List.cons_inj_right '.', Spot.toList_path rfl (by decide)]
  simp [Turn.chars, toString]

/-- The path of the id of a step. -/
theorem path_step (i j line : ℕ) :
    Spot.path ⟨[.key "workflows", .item i, .key "steps", .item j, .key "stepId"], line⟩ =
      s!"workflows[{i}].steps[{j}].stepId" := by
  rw [← String.toList_inj, ← List.cons_inj_right '.', Spot.toList_path rfl (by decide)]
  simp [Turn.chars, toString]

/-- Where the keys in each mapping are distinct and all ways are plain, the last places with the
paths of the keys are the keys. -/
theorem keepsIdLines_of_isPlain {found : List IdLines} (h : root.idLines? = some found)
    (hdistinct : root.hasDistinctKeys = true)
    (hplain : ∀ spot ∈ root.spots, ∀ turn ∈ spot.way, turn.IsPlain) :
    root.KeepsIdLines found := by
  obtain ⟨workflows, hworkflows, hlines⟩ := idLines?_eq_some.1 h
  have hnodup : (root.spots.map (·.path)).Nodup := by
    -- the document is a mapping, since the key of the workflows is written in it
    obtain ⟨line, tag, start, hwritten⟩ := itemsAt?_eq_some hworkflows
    obtain ⟨_, _, _, _, _, _, rfl, -⟩ := writtenAt?_eq_some hwritten
    exact nodup_paths hdistinct hplain
  constructor
  case workflow =>
    intro i lines hi
    obtain ⟨workflow, hworkflow, hfound⟩ := exists_getElem?_of_forall₂ hlines hi
    obtain ⟨⟨child, hwritten⟩, -⟩ := workflowLines?_eq_some.1 hfound
    have hspot := spots_of_itemsAt? hworkflows hworkflow (spots_of_writtenAt? hwritten).1
    exact path_workflow i lines.workflow ▸ lastLine?_of_mem hnodup hspot
  case step =>
    intro i lines hi j line hj
    obtain ⟨workflow, hworkflow, hfound⟩ := exists_getElem?_of_forall₂ hlines hi
    obtain ⟨-, steps, hsteps, hstepLines⟩ := workflowLines?_eq_some.1 hfound
    obtain ⟨step, hstep, child, hwritten⟩ := exists_getElem?_of_forall₂ hstepLines hj
    have hspot := spots_of_itemsAt? hworkflows hworkflow
      (spots_of_itemsAt? hsteps hstep (spots_of_writtenAt? hwritten).1)
    exact path_step i j line ▸ lastLine?_of_mem hnodup hspot

end Yaml.Node

namespace Positions

open Yaml Result

/-- The positions of a document point at the keys of its ids exactly if the last places with the
paths of the keys do. -/
theorem pointsAt_ofLines_iff {document : Document} {found : List IdLines} {lines : LineMap}
    {root : Yaml.Node} (hvalid : document.Valid)
    (hlines : ∀ path, lines.line? [path] = lastLine? root.spots path)
    (hlength : List.Forall₂ (fun workflow (ids : IdLines) =>
      workflow.steps.length = ids.steps.length) document.workflows found) :
    (ofLines lines document).PointsAt document found ↔ root.KeepsIdLines found := by
  constructor
  · -- each id is looked up by the path that its numbers give, which has the line of its key
    rintro ⟨hworkflow, hstep⟩
    constructor
    case workflow =>
      intro i ids hi
      obtain ⟨workflow, hi', -⟩ := exists_getElem?_of_forall₂ hlength hi
      have hlookup := (forall₂_iff_getElem?.1 hworkflow).2 i workflow ids hi' hi
      rwa [lookup_workflows hvalid lines hi', hlines] at hlookup
    case step =>
      intro i ids hi j line hj
      obtain ⟨workflow, hi', -⟩ := exists_getElem?_of_forall₂ hlength hi
      have hsteps := (forall₂_iff_getElem?.1 hstep).2 i workflow ids hi' hi
      obtain ⟨step, hj', hlookup⟩ := exists_getElem?_of_forall₂ hsteps hj
      rwa [lookup_steps hvalid lines hi' hj', hlines] at hlookup
  · rintro ⟨hworkflow, hstep⟩
    constructor
    case workflow =>
      refine forall₂_iff_getElem?.2 ⟨hlength.length_eq, fun i workflow ids hi' hi => ?_⟩
      rw [lookup_workflows hvalid lines hi', hlines]
      exact hworkflow i ids hi
    case step =>
      refine forall₂_iff_getElem?.2 ⟨hlength.length_eq, fun i workflow ids hi' hi => ?_⟩
      have hcount := (forall₂_iff_getElem?.1 hlength).2 i workflow ids hi' hi
      refine forall₂_iff_getElem?.2 ⟨hcount, fun j step line hj' hj => ?_⟩
      rw [lookup_steps hvalid lines hi' hj', hlines]
      exact hstep i ids hi j line hj

/-- A text is loaded as the value of its node. -/
theorem load_eq_toValue {text : String} {root : Yaml.Node}
    (hroot : Yaml.Node.ofText? text.toList = .ok (some root)) : Yaml.load text = root.toValue := by
  rw [Yaml.load, hroot]
  rfl

/-- There are positions in the text of a document, and they point at the keys of its ids exactly if
the last places with the paths of the keys do. -/
theorem exists_ofText_iff {text : String} {value : Value} {document : Document} {root : Yaml.Node}
    {found : List IdLines} (hload : Yaml.load text = .ok value)
    (hread : Document.read value = .ok document)
    (hroot : Yaml.Node.ofText? text.toList = .ok (some root)) (hends : root.ends = true)
    (hids : root.idLines? = some found) :
    ∃ positions, Positions.ofText text = .ok positions ∧
      (positions.PointsAt document found ↔ root.KeepsIdLines found) := by
  obtain ⟨hheld, hvalid⟩ := Document.read_eq_ok_iff.1 hread
  have hvalue : root.toValue = .ok value := (load_eq_toValue hroot).symm.trans hload
  obtain ⟨lines, hlines, hpositions⟩ := exists_ofText_eq hroot hload hheld hends
  exact ⟨_, hpositions, pointsAt_ofLines_iff hvalid hlines
    (root.length_steps_of_idLines? hvalue hheld hids)⟩

/-- The positions in the text of an accepted document in which no collection holds an alias of
itself, and in which the ids of workflows and steps are written in their own mappings, also beside
merge keys and other keys of any kind. There are positions. They point at the key of each id exactly
if for each of these keys the last place with the same path is on the line of the key. They do so if
in each mapping the keys are distinct, and no key on the way to a place is empty or has a point or
an opening bracket. -/
theorem ofText_pointsAt_iff {text : String} {value : Value} {document : Document} {root : Yaml.Node}
    {found : List IdLines} (hload : Yaml.load text = .ok value)
    (hread : Document.read value = .ok document)
    (hroot : Yaml.Node.ofText? text.toList = .ok (some root)) (hends : root.ends = true)
    (hids : root.idLines? = some found) :
    ∃ positions, Positions.ofText text = .ok positions ∧
      (positions.PointsAt document found ↔ root.KeepsIdLines found) ∧
      (root.hasDistinctKeys = true → (∀ spot ∈ root.spots, ∀ turn ∈ spot.way, turn.IsPlain) →
        positions.PointsAt document found) := by
  obtain ⟨positions, hpositions, hiff⟩ := exists_ofText_iff hload hread hroot hends hids
  exact ⟨positions, hpositions, hiff, fun hdistinct hplain =>
    hiff.2 (Yaml.Node.keepsIdLines_of_isPlain hids hdistinct hplain)⟩

/-- A text whose nodes are found to be those of a document and to pass a check. -/
theorem exists_of_ofText?_any (text : String) (check : Yaml.Node → Bool)
    (h : (Yaml.Node.ofText? text.toList).toOption.join.any (fun root => check root &&
      root.toValue.toOption.any fun value => (Document.read value).toOption.isSome) = true) :
    ∃ root value document, Yaml.Node.ofText? text.toList = .ok (some root) ∧
      Yaml.load text = .ok value ∧ Document.read value = .ok document ∧ check root = true := by
  cases hroot : Yaml.Node.ofText? text.toList with
  | error e => simp [hroot, Except.toOption] at h
  | ok root? =>
    cases root? with
    | none => simp [hroot, Except.toOption] at h
    | some root =>
      cases hvalue : root.toValue with
      | error e => simp [hroot, hvalue, Except.toOption] at h
      | ok value =>
        cases hread : Document.read value with
        | error e => simp [hroot, hvalue, hread, Except.toOption] at h
        | ok document =>
          refine ⟨root, value, document, rfl, (load_eq_toValue hroot).trans hvalue, hread, ?_⟩
          simpa [hroot, hvalue, hread, Except.toOption] using h

/-- The text of a document whose workflow has a key of its own, in front of its id. -/
def ownedText : String :=
  "arazzo: 1.0.0\ninfo:\n  title: Ping\n  version: 1\nworkflows:\n- x-owner: ops\n" ++
    "  workflowId: w\n  steps:\n  - stepId: a\n    operationId: b\n"

/-- All hypotheses hold for the text, and the positions point at its two keys. -/
theorem ofText_pointsAt_owned :
    ∃ value document root, Yaml.load ownedText = .ok value ∧
      Document.read value = .ok document ∧
      Yaml.Node.ofText? ownedText.toList = .ok (some root) ∧
      root.ends = true ∧ root.idLines? = some [⟨7, [9]⟩] ∧
      ∃ positions, Positions.ofText ownedText = .ok positions ∧
        positions.PointsAt document [⟨7, [9]⟩] := by
  obtain ⟨root, value, document, hroot, hload, hread, hcheck⟩ :=
    exists_of_ofText?_any ownedText (fun root => root.ends && root.hasDistinctKeys &&
      root.idLines? == some [⟨7, [9]⟩] &&
        decide (∀ spot ∈ root.spots, ∀ turn ∈ spot.way, turn.IsPlain)) (by decide +kernel)
  simp only [Bool.and_eq_true, beq_iff_eq, decide_eq_true_eq] at hcheck
  obtain ⟨⟨⟨hends, hdistinct⟩, hids⟩, hplain⟩ := hcheck
  obtain ⟨positions, hpositions, -, hpoints⟩ := ofText_pointsAt_iff hload hread hroot hends hids
  exact ⟨value, document, root, hload, hread, hroot, hends, hids, positions, hpositions,
    hpoints hdistinct hplain⟩

/-- The text with one key more in the document, which is the path of the id of the workflow. -/
def collidingText : String :=
  ownedText ++ "workflows[0].workflowId: 3\n"

/-- The ids are written in their own mappings, and in each mapping the keys are distinct. The
positions do not point at the id of the workflow, since the last line of the text has its path. -/
theorem ofText_pointsAt_colliding :
    ∃ value document root, Yaml.load collidingText = .ok value ∧
      Document.read value = .ok document ∧
      Yaml.Node.ofText? collidingText.toList = .ok (some root) ∧
      root.ends = true ∧ root.hasDistinctKeys = true ∧ root.idLines? = some [⟨7, [9]⟩] ∧
      ∃ positions, Positions.ofText collidingText = .ok positions ∧
        ¬ positions.PointsAt document [⟨7, [9]⟩] := by
  obtain ⟨root, value, document, hroot, hload, hread, hcheck⟩ :=
    exists_of_ofText?_any collidingText (fun root => root.ends && root.hasDistinctKeys &&
      root.idLines? == some [⟨7, [9]⟩] &&
        lastLine? root.spots "workflows[0].workflowId" == some 11) (by decide +kernel)
  simp only [Bool.and_eq_true, beq_iff_eq] at hcheck
  obtain ⟨⟨⟨hends, hdistinct⟩, hids⟩, hlast⟩ := hcheck
  obtain ⟨positions, hpositions, hiff⟩ := exists_ofText_iff hload hread hroot hends hids
  refine ⟨value, document, root, hload, hread, hroot, hends, hdistinct, hids, positions,
    hpositions, fun hpoints => ?_⟩
  -- the positions would have both lines for the one path
  have hkeeps := (hiff.1 hpoints).workflow 0 _ rfl
  exact absurd (hkeeps.symm.trans hlast) (by decide)

end Positions

end FlowCheck
