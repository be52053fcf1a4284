import FlowCheck.Document.Rules
import FlowCheck.Proofs.Result
import FlowCheck.Text.Fold

/-!
# What a value holds

When a value holds a document, said without places and without an order of reading. `Fits` says
this for each kind of object and the entries of a mapping. The readers succeed exactly with what a
value holds (`Document.ofValue_eq_ok_iff`), so that a proof about accepted documents need not open
them.
-/

namespace FlowCheck

open Result

/-! ## Fields, mappings and lists -/

/-- A field is there, and is not null. -/
def Entries.Given (entries : Entries) (field : String) : Prop :=
  (Entries.get entries field).isNull = false

/-- A field is there, is not null, and reads as a text. -/
structure Entries.HasText (entries : Entries) (field text : String) : Prop where
  /-- It is there, and is not null. -/
  given : Entries.Given entries field
  /-- It reads as the text. -/
  text_eq : (Entries.get entries field).text = .ok text

/-- The value is a list of the items; null is a list without any. -/
def Value.HasItems (value : Value) (items : List Value) : Prop :=
  value = .list items ∨ value = .null ∧ items = []

variable {α : Type}

/-- The value is a mapping whose entries fit. -/
def MappingHeld (Fits : α → Entries → Prop) (x : α) (value : Value) : Prop :=
  ∃ entries, value = .map entries ∧ Fits x entries

/-- The value is a list, or null, of which every item holds its element. -/
def ListHeld (Held : α → Value → Prop) (xs : List α) (value : Value) : Prop :=
  ∃ items, value.HasItems items ∧ List.Forall₂ Held xs items

/-- The value is null and holds nothing, or it is not null and holds something. -/
def OptionHeld (Held : α → Value → Prop) : Option α → Value → Prop
  | none, value => value.isNull = true
  | some x, value => value.isNull = false ∧ Held x value

/-- A value that is not null and holds a list is one. -/
theorem ListHeld.exists_list {Held : α → Value → Prop} {xs : List α} {value : Value}
    (h : ListHeld Held xs value) (hgiven : value.isNull = false) :
    ∃ items, value = .list items ∧ List.Forall₂ Held xs items := by
  obtain ⟨items, hlist | ⟨rfl, -⟩, hheld⟩ := h
  · exact ⟨items, hlist, hheld⟩
  · exact absurd hgiven nofun

/-- A required field is read as its value when it is given. -/
theorem required_eq_ok_iff {entries : Entries} {field place : String} {value : Value} :
    required entries field place = .ok value ↔
      Entries.Given entries field ∧ Entries.get entries field = value := by
  simp only [required, Entries.Given]
  split <;> simp_all [refuse_ne_ok]

/-- A required field is read as a text when it has that text. -/
theorem requiredText_eq_ok_iff {entries : Entries} {field place text : String} :
    requiredText entries field place = .ok text ↔ Entries.HasText entries field text := by
  simp only [requiredText, bind_eq_ok_iff, required_eq_ok_iff, textOf, Fault.stop,
    mapError_eq_ok_iff]
  exact ⟨fun ⟨_, ⟨given, eq⟩, text⟩ => ⟨given, eq ▸ text⟩, fun ⟨given, text⟩ =>
    ⟨_, ⟨given, rfl⟩, text⟩⟩

/-- Only a mapping is read as entries. -/
theorem mappingAt_eq_ok_iff {value : Value} {place : String} {entries : Entries} :
    mappingAt value place = .ok entries ↔ value = .map entries := by
  cases value <;> simp [mappingAt, refuse_ne_ok]

/-- Only a list, or null, is read as items. -/
theorem listAt_eq_ok_iff {value : Value} {place : String} {items : List Value} :
    listAt value place = .ok items ↔ value.HasItems items := by
  cases value with
  | null => simp [listAt, Value.HasItems, eq_comm]
  | list => simp [listAt, Value.HasItems]
  | _ => simp [listAt, Value.HasItems, refuse_ne_ok]

/-- What is read from the entries of a mapping is what the mapping holds. -/
theorem mappingAt_bind_eq_ok_iff {Fits : α → Entries → Prop} {value : Value} {place : String}
    {read : Entries → Except LoadError α} {x : α}
    (h : ∀ entries, read entries = .ok x ↔ Fits x entries) :
    mappingAt value place >>= read = .ok x ↔ MappingHeld Fits x value := by
  simp only [bind_eq_ok_iff, mappingAt_eq_ok_iff, h, MappingHeld]

/-- A reader succeeds, at any place, with what the value holds. -/
abbrev Reads (read : Value → String → Except LoadError α) (Held : α → Value → Prop) : Prop :=
  ∀ value place x, read value place = .ok x ↔ Held x value

/-- A mapping holds its entries. -/
theorem reads_mapping : Reads mappingAt (MappingHeld Eq) := by
  intro value place entries
  simp [mappingAt_eq_ok_iff, MappingHeld]

variable {Held : α → Value → Prop} {read : Value → String → Except LoadError α}

/-- What is read from a list is what its items hold. -/
theorem Reads.list (h : Reads read Held) : Reads (readList read) (ListHeld Held) := by
  intro value place xs
  -- the places differ from item to item, but what an item holds does not depend on its place
  have hitems (items : List Value) (index : Nat) (xs : List α) :
      readItems read place index items = .ok xs ↔ List.Forall₂ Held xs items := by
    induction items generalizing index xs with
    | nil => simp [readItems, eq_comm]
    | cons item rest ih =>
      simp only [readItems, bind_eq_ok_iff, h, ih, pure_eq_ok_iff, List.forall₂_cons_right_iff]
      grind
  simp only [readList, bind_eq_ok_iff, listAt_eq_ok_iff, hitems, ListHeld]

/-- What is read from a value that may be null is what it holds. -/
theorem Reads.optional (h : Reads read Held) : Reads (readOptional read) (OptionHeld Held) := by
  intro value place x
  unfold readOptional
  cases hnull : value.isNull <;> cases x <;> simp [map_eq_ok_iff, h, OptionHeld, hnull]

/-! ## The parts of a document -/

/-- The entries are those of a description of a document. -/
structure Info.Fits (info : Info) (entries : Entries) : Prop where
  title : Entries.HasText entries "title" info.title
  version : Entries.HasText entries "version" info.version
  summary : Entries.get entries "summary" = info.summary
  description : Entries.get entries "description" = info.description
  extensions : Entries.without entries Info.fields = info.extensions

/-- `Info.ofValue` reads what a mapping holds. -/
theorem Info.ofValue_eq_ok_iff {value : Value} {info : Info} :
    Info.ofValue value = .ok info ↔ MappingHeld Info.Fits info value := by
  refine mappingAt_bind_eq_ok_iff fun entries => ?_
  simp only [bind_eq_ok_iff, requiredText_eq_ok_iff, pure_eq_ok_iff]
  constructor
  · rintro ⟨title, htitle, version, hversion, rfl⟩
    exact ⟨htitle, hversion, rfl, rfl, rfl⟩
  · intro h
    refine ⟨_, h.title, _, h.version, ?_⟩
    rw [h.summary, h.description, h.extensions]

/-- The entries are those of a source. -/
structure Source.Fits (source : Source) (entries : Entries) : Prop where
  name : Entries.HasText entries "name" source.name
  url : Entries.HasText entries "url" source.url
  type : Entries.get entries "type" = source.type
  extensions : Entries.without entries Source.fields = source.extensions

/-- `Source.ofValue` reads what a mapping holds. -/
theorem Source.reads :
    Reads (fun value _ => Source.ofValue value) (MappingHeld Source.Fits) := by
  intro value place source
  refine mappingAt_bind_eq_ok_iff fun entries => ?_
  simp only [bind_eq_ok_iff, requiredText_eq_ok_iff, pure_eq_ok_iff]
  constructor
  · rintro ⟨name, hname, url, hurl, rfl⟩
    exact ⟨hname, hurl, rfl, rfl⟩
  · intro h
    refine ⟨_, h.name, _, h.url, ?_⟩
    rw [h.type, h.extensions]

/-- The entries are those of a request body. -/
structure RequestBody.Fits (body : RequestBody) (entries : Entries) : Prop where
  payload : Entries.get entries "payload" = body.payload
  contentType : Entries.get entries "contentType" = body.contentType
  replacements : Entries.get entries "replacements" = body.replacements

/-- `RequestBody.ofValue` reads what a mapping holds. -/
theorem RequestBody.reads : Reads RequestBody.ofValue (MappingHeld RequestBody.Fits) := by
  intro value place body
  refine mappingAt_bind_eq_ok_iff fun entries => ?_
  rw [pure_eq_ok_iff]
  constructor
  · rintro rfl
    exact ⟨rfl, rfl, rfl⟩
  · intro h
    rw [h.payload, h.contentType, h.replacements]

/-- The entries are those of a condition for success. -/
structure Criterion.Fits (criterion : Criterion) (entries : Entries) : Prop where
  condition : Entries.HasText entries "condition" criterion.condition
  context : Entries.get entries "context" = criterion.context
  value : Entries.get entries "value" = criterion.value
  type : Entries.get entries "type" = criterion.type

/-- `Criterion.ofValue` reads what a mapping holds. -/
theorem Criterion.reads : Reads Criterion.ofValue (MappingHeld Criterion.Fits) := by
  intro value place criterion
  refine mappingAt_bind_eq_ok_iff fun entries => ?_
  simp only [bind_eq_ok_iff, requiredText_eq_ok_iff, pure_eq_ok_iff]
  constructor
  · rintro ⟨condition, hcondition, rfl⟩
    exact ⟨hcondition, rfl, rfl, rfl⟩
  · intro h
    refine ⟨_, h.condition, ?_⟩
    rw [h.context, h.value, h.type]

/-- A mapping refers to a reusable action: it has a reference and no type. -/
def Action.Refers (entries : Entries) : Prop :=
  Entries.has entries "reference" = true ∧ Entries.has entries "type" = false

/-- The entries are those of an action: one that refers to a reusable action keeps all entries and
is named by its reference, any other shows its name and its type. -/
inductive Action.Fits (action : Action) (entries : Entries) : Prop where
  | reference (refers : Action.Refers entries) (type : Action.referenceType = action.type)
      (name : ∃ reference, (Entries.get entries "reference").text = .ok reference ∧
        lastPart reference = action.name)
      (config : entries = action.config)
  | typed (refers : ¬ Action.Refers entries)
      (name : Entries.HasText entries "name" action.name)
      (type : Entries.HasText entries "type" action.type)
      (config : Entries.without entries Action.fields = action.config)

/-- `Action.ofValue` reads what a mapping holds. -/
theorem Action.reads : Reads Action.ofValue (MappingHeld Action.Fits) := by
  intro value place action
  refine mappingAt_bind_eq_ok_iff fun entries => ?_
  -- the entries decide between the two kinds of actions, in the reader as in `Action.Fits`
  split
  · next reference href htype =>
    have hrefers : Action.Refers entries := ⟨by simp [Entries.has, href], htype⟩
    have hget : Entries.get entries "reference" = reference := by simp [Entries.get, href]
    simp only [bind_eq_ok_iff, textOf, Fault.stop, mapError_eq_ok_iff, pure_eq_ok_iff, ← hget]
    constructor
    · rintro ⟨text, htext, rfl⟩
      exact .reference hrefers rfl ⟨text, htext, rfl⟩ rfl
    · intro h
      cases h with
      | reference _ type name config =>
        obtain ⟨text, htext, hlast⟩ := name
        exact ⟨text, htext, by rw [type, hlast, config]⟩
      | typed hnot => exact absurd hrefers hnot
  · next hother =>
    have hrefers : ¬ Action.Refers entries := by
      rintro ⟨href, htype⟩
      obtain ⟨reference, href⟩ := Option.isSome_iff_exists.1 href
      exact hother reference href htype
    simp only [bind_eq_ok_iff, requiredText_eq_ok_iff, pure_eq_ok_iff]
    constructor
    · rintro ⟨name, hname, type, htype, rfl⟩
      exact .typed hrefers hname htype rfl
    · intro h
      cases h with
      | reference hnot => exact absurd hnot hrefers
      | typed _ name type config => exact ⟨_, name, _, type, by rw [config]⟩

/-! ## Parameters -/

/-- The entries are those of a parameter, before it is looked up among the reusable ones. -/
inductive Parameter.Written : Parameter → Entries → Prop where
  | own {entries : Entries} {name : String}
      (href : (Entries.get entries "reference").isNull = true)
      (hname : Entries.HasText entries "name" name) :
      Parameter.Written
        ⟨name, Entries.get entries "in", Entries.get entries "value", none, false⟩ entries
  | reusable {entries : Entries} {reference : String}
      (href : Entries.HasText entries "reference" reference) :
      Parameter.Written
        ⟨lastPart reference, .null, Entries.get entries "value", some reference, false⟩ entries

/-- A text refers to a reusable parameter with a name. -/
structure Parameter.Reusable (components : Value) (reference name : String)
    (target : Entries) : Prop where
  /-- The text names a reusable parameter. -/
  exists_key : ∃ key, reference = Parameter.reusableStart ++ key ∧
    reusable? components key = some target
  /-- The reusable parameter has the name. -/
  name : Entries.HasText target "name" name

/-- The entries are those of a parameter. One that refers to a reusable parameter takes its name
and its location from there, and its value unless it has one. -/
inductive Parameter.Fits (components : Value) : Parameter → Entries → Prop where
  | own {entries : Entries} {name : String}
      (href : (Entries.get entries "reference").isNull = true)
      (hname : Entries.HasText entries "name" name) :
      Parameter.Fits components
        ⟨name, Entries.get entries "in", Entries.get entries "value", none, false⟩ entries
  | reusable {entries target : Entries} {reference name : String} {inherits : Bool}
      (href : Entries.HasText entries "reference" reference)
      (htarget : Parameter.Reusable components reference name target)
      (hinherits : inherits =
        ((Entries.get entries "value").isNull && !(Entries.get target "value").isNull)) :
      Parameter.Fits components
        { name
          location := Entries.get target "in"
          value :=
            if inherits then Entries.get target "value" else Entries.get entries "value"
          reference := some reference
          inherited := inherits } entries

/-- `Parameter.ofValue` reads what is written in a mapping. -/
theorem Parameter.reads : Reads Parameter.ofValue (MappingHeld Parameter.Written) := by
  intro value place parameter
  refine mappingAt_bind_eq_ok_iff fun entries => ?_
  dsimp only
  split
  · next href =>
    simp only [bind_eq_ok_iff, requiredText_eq_ok_iff, pure_eq_ok_iff]
    constructor
    · rintro ⟨name, hname, rfl⟩
      exact .own href hname
    · intro h
      cases h with
      | own _ hname => exact ⟨_, hname, rfl⟩
      | reusable hnot => exact absurd href (Bool.eq_false_iff.1 hnot.given)
  · next href =>
    simp only [bind_eq_ok_iff, textOf, Fault.stop, mapError_eq_ok_iff, pure_eq_ok_iff]
    constructor
    · rintro ⟨text, htext, rfl⟩
      exact .reusable ⟨by simpa [Entries.Given] using href, htext⟩
    · intro h
      cases h with
      | own hnot => exact absurd hnot href
      | reusable hhas => exact ⟨_, hhas.text_eq, rfl⟩

/-- A reference to a reusable parameter is a fixed start and the name. -/
theorem Parameter.reusableKey?_eq_some_iff {reference key : String} :
    Parameter.reusableKey? reference = some key ↔
      reference = Parameter.reusableStart ++ key := by
  rw [Parameter.reusableKey?, Option.map_eq_some_iff]
  constructor
  · rintro ⟨rest, hrest, rfl⟩
    rw [← String.toList_inj, String.toList_append, String.toList_ofList]
    exact Text.eq_append_of_isPrefixOf? hrest
  · rintro rfl
    rw [String.toList_append]
    exact ⟨_, Text.isPrefixOf?_append .., String.ofList_toList⟩

/-- A parameter that refers to a reusable one is filled in exactly if there is one. -/
theorem Parameter.resolve_eq_ok_iff {parameter filled : Parameter} {components : Value}
    {place reference : String} (href : parameter.reference = some reference) :
    parameter.resolve components place = .ok filled ↔
      ∃ name target, Parameter.Reusable components reference name target ∧
        { parameter with
          name
          location := Entries.get target "in"
          value :=
            if parameter.value.isNull && !(Entries.get target "value").isNull then
              Entries.get target "value"
            else parameter.value
          inherited := parameter.inherited ||
            parameter.value.isNull && !(Entries.get target "value").isNull } = filled := by
  simp only [Parameter.resolve, href]
  cases hkey : Parameter.reusableKey? reference with
  | none =>
    refine iff_of_false refuse_ne_ok ?_
    rintro ⟨name, target, ⟨⟨key, heq, -⟩, -⟩, -⟩
    exact absurd (Parameter.reusableKey?_eq_some_iff.2 heq) (by simp [hkey])
  | some key =>
    dsimp only
    -- the key is what follows the fixed start, so that there is no choice in it
    have hunique {other : String} (h : reference = Parameter.reusableStart ++ other) :
        key = other :=
      Option.some.inj (hkey.symm.trans (Parameter.reusableKey?_eq_some_iff.2 h))
    cases htarget : reusable? components key with
    | none =>
      refine iff_of_false refuse_ne_ok ?_
      rintro ⟨name, target, ⟨⟨other, heq, hfound⟩, -⟩, -⟩
      obtain rfl := hunique heq
      simp [htarget] at hfound
    | some target =>
      simp only [bind_eq_ok_iff, requiredText_eq_ok_iff, pure_eq_ok_iff]
      constructor
      · rintro ⟨name, hname, rfl⟩
        exact ⟨name, target,
          ⟨⟨key, Parameter.reusableKey?_eq_some_iff.1 hkey, htarget⟩, hname⟩, rfl⟩
      · rintro ⟨name, found, ⟨⟨other, heq, hfound⟩, hname⟩, rfl⟩
        obtain rfl := hunique heq
        obtain rfl := Option.some.inj (htarget.symm.trans hfound)
        exact ⟨name, hname, rfl⟩

/-- A parameter that is read and filled in is one that the entries are those of. -/
theorem Parameter.exists_written_iff {entries : Entries} {components : Value} {place : String}
    {parameter : Parameter} :
    (∃ written, Parameter.Written written entries ∧
        written.resolve components place = .ok parameter) ↔
      Parameter.Fits components parameter entries := by
  constructor
  · rintro ⟨written, hwritten, hresolve⟩
    cases hwritten with
    | own href hname =>
      obtain rfl := Except.ok.inj hresolve
      exact .own href hname
    | reusable href =>
      obtain ⟨name, target, htarget, rfl⟩ := (Parameter.resolve_eq_ok_iff rfl).1 hresolve
      rw [Bool.false_or]
      exact .reusable href htarget rfl
  · intro h
    cases h with
    | own href hname => exact ⟨_, .own href hname, rfl⟩
    | reusable href htarget hinherits =>
      refine ⟨_, .reusable href, (Parameter.resolve_eq_ok_iff rfl).2 ⟨_, _, htarget, ?_⟩⟩
      rw [hinherits, Bool.false_or]

/-! ## Steps, workflows and documents -/

/-- The entries are those of a step, given what the entries of a parameter are. -/
structure Step.Fits (ParameterFits : Parameter → Entries → Prop) (step : Step)
    (entries : Entries) : Prop where
  id : Entries.HasText entries "stepId" step.id
  outputs : OptionHeld (MappingHeld Eq) step.outputs (Entries.get entries "outputs")
  parameters :
    ListHeld (MappingHeld ParameterFits) step.parameters (Entries.get entries "parameters")
  requestBody :
    OptionHeld (MappingHeld RequestBody.Fits) step.requestBody
      (Entries.get entries "requestBody")
  criteria :
    OptionHeld (ListHeld (MappingHeld Criterion.Fits)) step.criteria
      (Entries.get entries "successCriteria")
  onSuccess :
    OptionHeld (ListHeld (MappingHeld Action.Fits)) step.onSuccess
      (Entries.get entries "onSuccess")
  onFailure :
    OptionHeld (ListHeld (MappingHeld Action.Fits)) step.onFailure
      (Entries.get entries "onFailure")
  description : Entries.get entries "description" = step.description
  operationId : Entries.get entries "operationId" = step.operationId
  operationPath : Entries.get entries "operationPath" = step.operationPath
  workflowId : Entries.get entries "workflowId" = step.workflowId
  extensions : Entries.without entries Step.fields = step.extensions

/-- The entries are those of a workflow, given what the entries of a parameter are. -/
structure Workflow.Fits (ParameterFits : Parameter → Entries → Prop) (workflow : Workflow)
    (entries : Entries) : Prop where
  id : Entries.HasText entries "workflowId" workflow.id
  outputs : OptionHeld (MappingHeld Eq) workflow.outputs (Entries.get entries "outputs")
  given_steps : Entries.Given entries "steps"
  steps :
    ListHeld (MappingHeld (Step.Fits ParameterFits)) workflow.steps
      (Entries.get entries "steps")
  criteria :
    OptionHeld (ListHeld (MappingHeld Criterion.Fits)) workflow.criteria
      (Entries.get entries "successCriteria")
  summary : Entries.get entries "summary" = workflow.summary
  description : Entries.get entries "description" = workflow.description
  inputs : Entries.get entries "inputs" = workflow.inputs
  extensions : Entries.without entries Workflow.fields = workflow.extensions

/-- The entries are those of a document. -/
structure Document.Fits (document : Document) (entries : Entries) : Prop where
  version : Entries.HasText entries "arazzo" document.version
  given_info : Entries.Given entries "info"
  info : MappingHeld Info.Fits document.info (Entries.get entries "info")
  given_workflows : Entries.Given entries "workflows"
  workflows :
    ListHeld (MappingHeld (Workflow.Fits (Parameter.Fits document.components)))
      document.workflows (Entries.get entries "workflows")
  sources :
    ListHeld (MappingHeld Source.Fits) document.sources
      (Entries.get entries "sourceDescriptions")
  components : Entries.get entries "components" = document.components
  extensions : Entries.without entries Document.fields = document.extensions

/-- The value holds the document. -/
abbrev Document.HeldBy (document : Document) (value : Value) : Prop :=
  MappingHeld Document.Fits document value

/-- A step is read, without a look at the reusable parameters. -/
theorem Step.reads : Reads Step.ofValue (MappingHeld (Step.Fits Parameter.Written)) := by
  intro value place step
  refine mappingAt_bind_eq_ok_iff fun entries => ?_
  simp only [bind_eq_ok_iff, requiredText_eq_ok_iff, pure_eq_ok_iff, reads_mapping.optional _ _,
    Parameter.reads.list _ _, RequestBody.reads.optional _ _, Criterion.reads.list.optional _ _,
    Action.reads.list.optional _ _]
  constructor
  · rintro ⟨id, hid, outputs, houtputs, parameters, hparameters, body, hbody, criteria,
      hcriteria, success, hsuccess, failure, hfailure, rfl⟩
    exact ⟨hid, houtputs, hparameters, hbody, hcriteria, hsuccess, hfailure, rfl, rfl, rfl, rfl,
      rfl⟩
  · intro h
    refine ⟨_, h.id, _, h.outputs, _, h.parameters, _, h.requestBody, _, h.criteria, _,
      h.onSuccess, _, h.onFailure, ?_⟩
    rw [h.description, h.operationId, h.operationPath, h.workflowId, h.extensions]

/-- A workflow is read, without a look at the reusable parameters. -/
theorem Workflow.reads :
    Reads Workflow.ofValue (MappingHeld (Workflow.Fits Parameter.Written)) := by
  intro value place workflow
  refine mappingAt_bind_eq_ok_iff fun entries => ?_
  simp only [bind_eq_ok_iff, requiredText_eq_ok_iff, required_eq_ok_iff, pure_eq_ok_iff,
    reads_mapping.optional _ _, Step.reads.list _ _, Criterion.reads.list.optional _ _]
  constructor
  · rintro ⟨id, hid, outputs, houtputs, _, ⟨hgiven, rfl⟩, steps, hsteps, criteria, hcriteria, rfl⟩
    exact ⟨hid, houtputs, hgiven, hsteps, hcriteria, rfl, rfl, rfl, rfl⟩
  · intro h
    refine ⟨_, h.id, _, h.outputs, _, ⟨h.given_steps, rfl⟩, _, h.steps, _, h.criteria, ?_⟩
    rw [h.summary, h.description, h.inputs, h.extensions]

/-! ## Filling in -/

variable {β : Type} {resolve : α → Except LoadError β}

/-- What a mapping is read as and then filled in to is what it holds. -/
theorem exists_mappingHeld_iff {Written : α → Entries → Prop} {Fits : β → Entries → Prop}
    (h : ∀ entries y, (∃ x, Written x entries ∧ resolve x = .ok y) ↔ Fits y entries)
    (value : Value) (y : β) :
    (∃ x, MappingHeld Written x value ∧ resolve x = .ok y) ↔ MappingHeld Fits y value := by
  simp only [MappingHeld, ← h]
  grind

/-- What a list is read as and then filled in to, item by item, is what it holds. -/
theorem exists_listHeld_iff {Written : α → Value → Prop} {Held : β → Value → Prop}
    (h : ∀ value y, (∃ x, Written x value ∧ resolve x = .ok y) ↔ Held y value) {value : Value}
    {ys : List β} :
    (∃ xs, ListHeld Written xs value ∧ xs.mapM resolve = .ok ys) ↔ ListHeld Held ys value := by
  have hitems (items : List Value) (ys : List β) :
      (∃ xs, List.Forall₂ Written xs items ∧ xs.mapM resolve = .ok ys) ↔
        List.Forall₂ Held ys items := by
    simp only [mapM_eq_ok_iff]
    induction items generalizing ys with
    | nil => simp
    | cons item rest ih =>
      simp only [List.forall₂_cons_right_iff, ← h, ← ih]
      grind [List.forall₂_cons_left_iff]
  simp only [ListHeld, ← hitems]
  grind

/-- A step that is read and filled in is one that the entries are those of. -/
theorem Step.exists_written_iff {entries : Entries} {components : Value} {workflow : String}
    {step : Step} :
    (∃ written, Step.Fits Parameter.Written written entries ∧
        written.resolve components workflow = .ok step) ↔
      Step.Fits (Parameter.Fits components) step entries := by
  -- of a step only the parameters are filled in
  have hparameters (place : String) (parameters : List Parameter) (value : Value) :
      (∃ written, ListHeld (MappingHeld Parameter.Written) written value ∧
        written.mapM (·.resolve components place) = .ok parameters) ↔
      ListHeld (MappingHeld (Parameter.Fits components)) parameters value :=
    exists_listHeld_iff <| exists_mappingHeld_iff fun _ _ => Parameter.exists_written_iff
  simp only [Step.resolve, bind_eq_ok_iff, pure_eq_ok_iff]
  constructor
  · rintro ⟨written, hwritten, parameters, hfilled, rfl⟩
    exact { hwritten with
      parameters := (hparameters _ _ _).1 ⟨_, hwritten.parameters, hfilled⟩ }
  · intro h
    -- filling in names the step by its id, which it does not change
    obtain ⟨parameters, hwritten, hfilled⟩ :=
      (hparameters s!"step '{step.id}' of workflow '{workflow}'" _ _).2 h.parameters
    exact ⟨{ step with parameters }, { h with parameters := hwritten }, _, hfilled, rfl⟩

/-- A workflow that is read and filled in is one that the entries are those of. -/
theorem Workflow.exists_written_iff {entries : Entries} {components : Value}
    {workflow : Workflow} :
    (∃ written, Workflow.Fits Parameter.Written written entries ∧
        written.resolve components = .ok workflow) ↔
      Workflow.Fits (Parameter.Fits components) workflow entries := by
  have hsteps (id : String) (steps : List Step) (value : Value) :
      (∃ written, ListHeld (MappingHeld (Step.Fits Parameter.Written)) written value ∧
        written.mapM (·.resolve components id) = .ok steps) ↔
      ListHeld (MappingHeld (Step.Fits (Parameter.Fits components))) steps value :=
    exists_listHeld_iff <| exists_mappingHeld_iff fun _ _ => Step.exists_written_iff
  simp only [Workflow.resolve, bind_eq_ok_iff, pure_eq_ok_iff]
  constructor
  · rintro ⟨written, hwritten, steps, hfilled, rfl⟩
    exact { hwritten with steps := (hsteps _ _ _).1 ⟨_, hwritten.steps, hfilled⟩ }
  · intro h
    obtain ⟨steps, hwritten, hfilled⟩ := (hsteps _ _ _).2 h.steps
    exact ⟨{ workflow with steps }, { h with steps := hwritten }, _, hfilled, rfl⟩

/-- Reading a value gives exactly the documents that it holds. -/
theorem Document.ofValue_eq_ok_iff {value : Value} {document : Document} :
    Document.ofValue value = .ok document ↔ document.HeldBy value := by
  refine mappingAt_bind_eq_ok_iff fun entries => ?_
  have hworkflows (components : Value) (workflows : List Workflow) (value : Value) :
      (∃ written, ListHeld (MappingHeld (Workflow.Fits Parameter.Written)) written value ∧
        written.mapM (·.resolve components) = .ok workflows) ↔
      ListHeld (MappingHeld (Workflow.Fits (Parameter.Fits components))) workflows value :=
    exists_listHeld_iff <| exists_mappingHeld_iff fun _ _ => Workflow.exists_written_iff
  simp only [bind_eq_ok_iff, requiredText_eq_ok_iff, required_eq_ok_iff, pure_eq_ok_iff,
    Info.ofValue_eq_ok_iff, Workflow.reads.list _ _, Source.reads.list _ _]
  constructor
  · rintro ⟨version, hversion, info, ⟨_, ⟨hgiven, rfl⟩, hinfo⟩, _, ⟨hgiven', rfl⟩, written,
      hwritten, sources, hsources, workflows, hfilled, rfl⟩
    exact ⟨hversion, hgiven, hinfo, hgiven', (hworkflows _ _ _).1 ⟨_, hwritten, hfilled⟩,
      hsources, rfl, rfl⟩
  · intro h
    obtain ⟨written, hwritten, hfilled⟩ := (hworkflows _ _ _).2 h.workflows
    refine ⟨_, h.version, _, ⟨_, ⟨h.given_info, rfl⟩, h.info⟩, _, ⟨h.given_workflows, rfl⟩, _,
      hwritten, _, h.sources, document.workflows, ?_, ?_⟩
    · rw [h.components]
      exact hfilled
    · rw [h.components, h.extensions]

end FlowCheck
