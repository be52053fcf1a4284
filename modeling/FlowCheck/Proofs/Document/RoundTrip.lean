import FlowCheck.Document.Writer
import FlowCheck.Proofs.Document.Valid
import FlowCheck.Proofs.Value.Entries

/-!
# Writing and reading again

The value that is written for an accepted document holds that document, with one exception. An
action that has a name and the type of a reference is written without both, so it is read again
only if its reference gives the name back. `Document.read_toValue_iff` says that this is all that
can be lost.
-/

namespace FlowCheck

/-! ## Objects and their fields -/

/-- A text that is written reads as itself. -/
theorem Entries.hasText_of_get {entries : Entries} {field text : String}
    (h : Entries.get entries field = .str text) : Entries.HasText entries field text :=
  ⟨by rw [Entries.Given, h]; rfl, by rw [h, Value.text_str]⟩

variable {α : Type} {Fits : α → Entries → Prop} {x : α}

/-- What the value of fields with distinct keys holds fits entries that show them. -/
theorem MappingHeld.exists_shows (keys : List String) {fields : List (String × Option Value)}
    {others : Entries} (h : MappingHeld Fits x (.ofFields fields others))
    (hkeys : fields.map Prod.fst = keys) (hnodup : keys.Nodup)
    (hothers : Entries.without others keys = others) :
    ∃ entries, Entries.Shows entries keys fields others ∧ Fits x entries := by
  obtain ⟨written, hwritten, hfits⟩ := h
  exact ⟨_, Entries.shows_ofFields hkeys hnodup hothers, Value.map.inj hwritten ▸ hfits⟩

/-- What fits all entries that show some fields is held by the value of these fields. -/
theorem mappingHeld_ofFields (keys : List String) {fields : List (String × Option Value)}
    {others : Entries} (hkeys : fields.map Prod.fst = keys) (hnodup : keys.Nodup)
    (hothers : Entries.without others keys = others)
    (h : ∀ entries, Entries.Shows entries keys fields others → Fits x entries) :
    MappingHeld Fits x (.ofFields fields others) :=
  ⟨_, rfl, h _ (Entries.shows_ofFields hkeys hnodup hothers)⟩

/-! ## Objects without lists -/

/-- The value of a description of a document holds it. -/
theorem Info.held_toValue {info : Info} {entries : Entries} (h : info.Fits entries) :
    MappingHeld Info.Fits info info.toValue := by
  refine mappingHeld_ofFields Info.fields rfl (by decide)
    (Entries.without_eq_self h.extensions) fun entries hshows => ?_
  obtain ⟨hget, -, hwithout⟩ := hshows
  simp only [List.forall_mem_cons, Value.getD_given?, Option.getD_some] at hget
  obtain ⟨htitle, hsummary, hdescription, hversion, -⟩ := hget
  exact ⟨Entries.hasText_of_get htitle, Entries.hasText_of_get hversion, hsummary, hdescription,
    hwithout⟩

/-- The value of a source holds it. -/
theorem Source.held_toValue {source : Source} {entries : Entries} (h : source.Fits entries) :
    MappingHeld Source.Fits source source.toValue := by
  refine mappingHeld_ofFields Source.fields rfl (by decide)
    (Entries.without_eq_self h.extensions) fun entries hshows => ?_
  obtain ⟨hget, -, hwithout⟩ := hshows
  simp only [List.forall_mem_cons, Value.getD_given?, Option.getD_some] at hget
  obtain ⟨hname, hurl, htype, -⟩ := hget
  exact ⟨Entries.hasText_of_get hname, Entries.hasText_of_get hurl, htype, hwithout⟩

/-- The value of a request body holds it. -/
theorem RequestBody.held_toValue (body : RequestBody) :
    MappingHeld RequestBody.Fits body body.toValue := by
  refine mappingHeld_ofFields ["contentType", "payload", "replacements"] rfl (by decide) rfl
    fun entries hshows => ?_
  obtain ⟨hget, -, -⟩ := hshows
  simp only [List.forall_mem_cons, Value.getD_given?, Option.getD_some] at hget
  obtain ⟨hcontentType, hpayload, hreplacements, -⟩ := hget
  exact ⟨hpayload, hcontentType, hreplacements⟩

/-- The value of a condition for success holds it. -/
theorem Criterion.held_toValue (criterion : Criterion) :
    MappingHeld Criterion.Fits criterion criterion.toValue := by
  refine mappingHeld_ofFields ["context", "condition", "value", "type"] rfl (by decide) rfl
    fun entries hshows => ?_
  obtain ⟨hget, -, -⟩ := hshows
  simp only [List.forall_mem_cons, Value.getD_given?, Option.getD_some] at hget
  obtain ⟨hcontext, hcondition, hvalue, htype, -⟩ := hget
  exact ⟨Entries.hasText_of_get hcondition, hcontext, hvalue, htype⟩

/-- A parameter that refers to a reusable one is written as the reference and its own value, unless
that is null. -/
theorem Parameter.toValue_of_reference {parameter : Parameter} {entries : Entries}
    {components : Value} {reference : String} (h : Parameter.Fits components parameter entries)
    (href : Entries.HasText entries "reference" reference) :
    parameter.toValue = .ofFields [("reference", some (.str reference)),
      ("value", (Entries.get entries "value").given?)] [] := by
  cases h with
  | own hnull => exact absurd hnull (Bool.eq_false_iff.1 href.given)
  | @reusable _ _ _ _ inherits hother htarget hinherits =>
    obtain rfl := Except.ok.inj (hother.text_eq.symm.trans href.text_eq)
    rw [Parameter.toValue]
    cases inherits with
    | false => rfl
    | true =>
      -- an inherited value is not written, and there was none before
      rw [Value.isNull_iff.1 (Bool.and_eq_true_iff.1 hinherits.symm).1]
      rfl

/-- The value of a parameter holds it: what it shares with a reusable parameter is taken from
there again. -/
theorem Parameter.held_toValue {parameter : Parameter} {entries : Entries} {components : Value}
    (h : Parameter.Fits components parameter entries) :
    MappingHeld (Parameter.Fits components) parameter parameter.toValue := by
  cases h with
  | own =>
    refine mappingHeld_ofFields ["name", "in", "value"] rfl (by decide) rfl
      fun written hshows => ?_
    obtain ⟨hget, hother, -⟩ := hshows
    simp only [List.forall_mem_cons, Value.getD_given?, Option.getD_some] at hget
    obtain ⟨hname, hin, hvalue, -⟩ := hget
    have href : (Entries.get written "reference").isNull = true := by
      rw [hother _ (by decide)]
      rfl
    rw [← hin, ← hvalue]
    exact .own href (Entries.hasText_of_get hname)
  | reusable href htarget hinherits =>
    rw [Parameter.toValue_of_reference (.reusable href htarget hinherits) href]
    refine mappingHeld_ofFields ["reference", "value"] rfl (by decide) rfl
      fun written hshows => ?_
    obtain ⟨hget, -, -⟩ := hshows
    simp only [List.forall_mem_cons, Value.getD_given?, Option.getD_some] at hget
    obtain ⟨href, hvalue, -⟩ := hget
    rw [← hvalue] at hinherits ⊢
    exact .reusable (Entries.hasText_of_get href) htarget hinherits

/-! ## Actions -/

/-- An action that has the type of a reference has one, and is named by it. -/
def Action.NamedByReference (action : Action) : Prop :=
  action.type = Action.referenceType →
    Entries.has action.config "reference" = true ∧
      ∃ reference, (Entries.get action.config "reference").text = .ok reference ∧
        lastPart reference = action.name

/-- A field that is not null is there. -/
theorem Entries.has_of_given {entries : Entries} {field : String}
    (h : Entries.Given entries field) : Entries.has entries field = true := by
  rw [Entries.Given, Entries.get] at h
  rw [Entries.has]
  cases hfound : Entries.find? entries field with
  | none => simp [hfound, Value.isNull] at h
  | some value => rfl

/-- Entries without a type are those of an action that refers to a reusable one, if of any. -/
theorem Action.fits_iff_of_noType {action : Action} {entries : Entries}
    (hnone : Entries.has entries "type" = false) :
    action.Fits entries ↔ Entries.has entries "reference" = true ∧
      action.type = Action.referenceType ∧
      (∃ reference, (Entries.get entries "reference").text = .ok reference ∧
        lastPart reference = action.name) ∧ action.config = entries := by
  constructor
  · intro h
    cases h with
    | reference refers type name config => exact ⟨refers.1, type.symm, name, config.symm⟩
    | typed _ _ type _ => simp [Entries.has_of_given type.given] at hnone
  · rintro ⟨href, type, name, config⟩
    exact .reference ⟨href, hnone⟩ type.symm name config.symm

/-- The configuration of an action has no type. -/
theorem Action.has_type_config {action : Action} {entries : Entries} (h : action.Fits entries) :
    Entries.has action.config "type" = false := by
  cases h with
  | reference refers _ _ config => exact config ▸ refers.2
  | typed _ _ _ config =>
    rw [← config, Entries.has, Entries.find?_without entries (by decide)]
    rfl

/-- An action with the type of a reference is written as its configuration. -/
theorem Action.mappingHeld_toValue_iff {action again : Action}
    (htype : action.type = Action.referenceType) :
    MappingHeld Action.Fits again action.toValue ↔ again.Fits action.config := by
  rw [Action.toValue, if_pos htype]
  constructor
  · rintro ⟨written, hwritten, hfits⟩
    exact Value.map.inj hwritten ▸ hfits
  · intro hfits
    exact ⟨_, rfl, hfits⟩

/-- The value of an action with another type holds it. -/
theorem Action.held_toValue {action : Action} {entries : Entries} (h : action.Fits entries)
    (htype : action.type ≠ Action.referenceType) :
    MappingHeld Action.Fits action action.toValue := by
  cases h with
  | reference _ type => exact absurd type.symm htype
  | typed _ name type config =>
    rw [Action.toValue, if_neg htype]
    refine mappingHeld_ofFields Action.fields rfl (by decide)
      (Entries.without_eq_self config) fun written hshows => ?_
    obtain ⟨hget, -, hwithout⟩ := hshows
    simp only [List.forall_mem_cons, Option.getD_some] at hget
    obtain ⟨hname, htype, -⟩ := hget
    have htype := Entries.hasText_of_get htype
    have hnot : ¬ Action.Refers written := by
      rintro ⟨-, hnone⟩
      simp [Entries.has_of_given htype.given] at hnone
    exact .typed hnot (Entries.hasText_of_get hname) htype hwithout

/-- The value of an action holds it if its name is that of its reference, if it should have one. -/
theorem Action.held_toValue_iff {action : Action} {entries : Entries}
    (h : action.Fits entries) :
    MappingHeld Action.Fits action action.toValue ↔ action.NamedByReference := by
  by_cases htype : action.type = Action.referenceType
  · rw [Action.mappingHeld_toValue_iff htype,
      Action.fits_iff_of_noType (Action.has_type_config h)]
    simp [Action.NamedByReference, htype]
  · exact iff_of_true (Action.held_toValue h htype) fun hreference => absurd hreference htype

/-! ## Lists -/

variable {Held : α → Value → Prop} {write : α → Value}

/-- The value of a list holds it when the values of its elements hold them. -/
theorem listHeld_ofList_iff {xs : List α} :
    ListHeld Held xs (.ofList write xs) ↔ ∀ x ∈ xs, Held x (write x) := by
  have hitems : List.Forall₂ Held xs (xs.map write) ↔ ∀ x ∈ xs, Held x (write x) := by
    rw [List.forall₂_map_right_iff, List.forall₂_same]
  rw [← hitems]
  constructor
  · rintro ⟨items, hlist | ⟨hnull, -⟩, h⟩
    · exact Value.list.inj hlist ▸ h
    · exact absurd hnull nofun
  · intro h
    exact ⟨_, .inl rfl, h⟩

/-- What a list holds fits the entries of one of its items. -/
theorem ListHeld.exists_fits {xs : List α} {value : Value}
    (h : ListHeld (MappingHeld Fits) xs value) (hx : x ∈ xs) : ∃ entries, Fits x entries := by
  obtain ⟨items, -, h⟩ := h
  have hboth : List.Forall₂ (fun x _ => (∃ entries, Fits x entries) ∧ True) xs items :=
    h.imp fun _ _ ⟨entries, _, hfits⟩ => ⟨⟨entries, hfits⟩, trivial⟩
  exact ((List.forall₂_and_left xs items).1 hboth).1 x hx

variable {q : α → Prop}

/-- A list that was held is held by its value when its elements have what each needs for that. -/
theorem ListHeld.ofList_iff {xs : List α} {value : Value}
    (h : ListHeld (MappingHeld Fits) xs value)
    (hwrite : ∀ x entries, Fits x entries → (MappingHeld Fits x (write x) ↔ q x)) :
    ListHeld (MappingHeld Fits) xs (.ofList write xs) ↔ ∀ x ∈ xs, q x := by
  rw [listHeld_ofList_iff]
  refine forall₂_congr fun x hx => ?_
  obtain ⟨entries, hfits⟩ := h.exists_fits hx
  exact hwrite x entries hfits

/-- The empty list is not written, and read again as what is missing. -/
theorem ListHeld.ofItems? {xs : List α} {value : Value}
    (h : ListHeld (MappingHeld Fits) xs value)
    (hwrite : ∀ x entries, Fits x entries → MappingHeld Fits x (write x)) :
    ListHeld (MappingHeld Fits) xs ((Value.ofItems? write xs).getD .null) := by
  cases xs with
  | nil => exact ⟨[], .inr ⟨rfl, rfl⟩, .nil⟩
  | cons =>
    refine listHeld_ofList_iff.2 fun x hx => ?_
    obtain ⟨entries, hfits⟩ := h.exists_fits hx
    exact hwrite x entries hfits

/-- Something that is not there is not written, and read again as what is missing. -/
theorem optionHeld_map {x : Option α}
    (h : ∀ x, (write x).isNull = false ∧ Held x (write x)) :
    OptionHeld Held x ((x.map write).getD .null) := by
  cases x with
  | none => rfl
  | some x => exact h x

/-- A list that may be missing is held by its value in the same cases. -/
theorem OptionHeld.ofList_iff {xs : Option (List α)} {value : Value}
    (h : OptionHeld (ListHeld (MappingHeld Fits)) xs value)
    (hwrite : ∀ x entries, Fits x entries → (MappingHeld Fits x (write x) ↔ q x)) :
    OptionHeld (ListHeld (MappingHeld Fits)) xs ((xs.map (.ofList write)).getD .null) ↔
      ∀ x ∈ xs.getD [], q x := by
  cases xs with
  | none => exact iff_of_true rfl fun _ hx => absurd hx List.not_mem_nil
  | some xs => exact (and_iff_right rfl).trans (h.2.ofList_iff hwrite)

/-- The conditions for success are held by their value. -/
theorem Criterion.optionHeld_toValue (criteria : Option (List Criterion)) :
    OptionHeld (ListHeld (MappingHeld Criterion.Fits)) criteria
      ((criteria.map (.ofList Criterion.toValue)).getD .null) :=
  optionHeld_map fun _ => ⟨rfl, listHeld_ofList_iff.2 fun criterion _ => criterion.held_toValue⟩

/-! ## Steps, workflows and documents -/

/-- Every action of the step is named by its reference, if it should have one. -/
def Step.NamedByReference (step : Step) : Prop :=
  ∀ action ∈ step.actions, action.NamedByReference

/-- The value of a step holds the step with other parameters and actions, if it holds these. -/
theorem Step.held_toValue_with {step : Step} {entries : Entries}
    {ParameterFits OtherFits : Parameter → Entries → Prop}
    (h : Step.Fits ParameterFits step entries)
    {parameters : List Parameter} {onSuccess onFailure : Option (List Action)}
    (hparameters : ListHeld (MappingHeld OtherFits) parameters
      ((Value.ofItems? Parameter.toValue step.parameters).getD .null))
    (hsuccess : OptionHeld (ListHeld (MappingHeld Action.Fits)) onSuccess
      ((step.onSuccess.map (.ofList Action.toValue)).getD .null))
    (hfailure : OptionHeld (ListHeld (MappingHeld Action.Fits)) onFailure
      ((step.onFailure.map (.ofList Action.toValue)).getD .null)) :
    MappingHeld (Step.Fits OtherFits) { step with parameters, onSuccess, onFailure }
      step.toValue := by
  refine mappingHeld_ofFields Step.fields rfl (by decide)
    (Entries.without_eq_self h.extensions) fun written hshows => ?_
  obtain ⟨hget, -, hwithout⟩ := hshows
  simp only [List.forall_mem_cons, Value.getD_given?, Option.getD_some] at hget
  obtain ⟨hid, hdescription, hoperationId, hoperationPath, hworkflowId, hparameterValues, hbody,
    hcriteria, hsuccessValues, hfailureValues, houtputs, -⟩ := hget
  exact {
    id := Entries.hasText_of_get hid
    outputs := houtputs ▸ optionHeld_map fun _ => ⟨rfl, _, rfl, rfl⟩
    parameters := hparameterValues ▸ hparameters
    requestBody := hbody ▸ optionHeld_map fun body => ⟨rfl, body.held_toValue⟩
    criteria := hcriteria ▸ Criterion.optionHeld_toValue _
    onSuccess := hsuccessValues ▸ hsuccess
    onFailure := hfailureValues ▸ hfailure
    description := hdescription
    operationId := hoperationId
    operationPath := hoperationPath
    workflowId := hworkflowId
    extensions := hwithout }

/-- What the value of a step holds has actions that the values of its actions hold. -/
theorem Step.held_actions {step again : Step} {entries : Entries}
    {ParameterFits OtherFits : Parameter → Entries → Prop}
    (h : Step.Fits ParameterFits step entries)
    (hagain : MappingHeld (Step.Fits OtherFits) again step.toValue) :
    OptionHeld (ListHeld (MappingHeld Action.Fits)) again.onSuccess
        ((step.onSuccess.map (.ofList Action.toValue)).getD .null) ∧
      OptionHeld (ListHeld (MappingHeld Action.Fits)) again.onFailure
        ((step.onFailure.map (.ofList Action.toValue)).getD .null) := by
  obtain ⟨written, hshows, hfits⟩ := hagain.exists_shows Step.fields rfl (by decide)
    (Entries.without_eq_self h.extensions)
  have hget := hshows.get_field
  simp only [List.forall_mem_cons] at hget
  obtain ⟨-, -, -, -, -, -, -, -, hsuccess, hfailure, -⟩ := hget
  exact ⟨hsuccess ▸ hfits.onSuccess, hfailure ▸ hfits.onFailure⟩

/-- The value of a step holds it when its actions are named by their references. -/
theorem Step.held_toValue_iff {step : Step} {entries : Entries} {components : Value}
    (h : Step.Fits (Parameter.Fits components) step entries) :
    MappingHeld (Step.Fits (Parameter.Fits components)) step step.toValue ↔
      step.NamedByReference := by
  -- only the actions can be lost, everything else is read as it was written
  rw [Step.NamedByReference, Step.actions, List.forall_mem_append,
    ← h.onSuccess.ofList_iff fun _ _ => Action.held_toValue_iff,
    ← h.onFailure.ofList_iff fun _ _ => Action.held_toValue_iff]
  constructor
  · exact Step.held_actions h
  · rintro ⟨hsuccess, hfailure⟩
    exact Step.held_toValue_with h (h.parameters.ofItems? fun _ _ => Parameter.held_toValue)
      hsuccess hfailure

/-- The value of a workflow holds the workflow with other steps, if it holds these. -/
theorem Workflow.held_toValue_with {workflow : Workflow} {entries : Entries}
    {ParameterFits OtherFits : Parameter → Entries → Prop}
    (h : Workflow.Fits ParameterFits workflow entries) {steps : List Step}
    (hsteps : ListHeld (MappingHeld (Step.Fits OtherFits)) steps
      (.ofList Step.toValue workflow.steps)) :
    MappingHeld (Workflow.Fits OtherFits) { workflow with steps } workflow.toValue := by
  refine mappingHeld_ofFields Workflow.fields rfl (by decide)
    (Entries.without_eq_self h.extensions) fun written hshows => ?_
  obtain ⟨hget, -, hwithout⟩ := hshows
  simp only [List.forall_mem_cons, Value.getD_given?, Option.getD_some] at hget
  obtain ⟨hid, hsummary, hdescription, hinputs, hstepValues, hcriteria, houtputs, -⟩ := hget
  exact {
    id := Entries.hasText_of_get hid
    outputs := houtputs ▸ optionHeld_map fun _ => ⟨rfl, _, rfl, rfl⟩
    given_steps := by rw [Entries.Given, hstepValues]; rfl
    steps := hstepValues ▸ hsteps
    criteria := hcriteria ▸ Criterion.optionHeld_toValue _
    summary := hsummary
    description := hdescription
    inputs := hinputs
    extensions := hwithout }

/-- What the value of a workflow holds has steps that the values of its steps hold. -/
theorem Workflow.held_steps {workflow again : Workflow} {entries : Entries}
    {ParameterFits OtherFits : Parameter → Entries → Prop}
    (h : Workflow.Fits ParameterFits workflow entries)
    (hagain : MappingHeld (Workflow.Fits OtherFits) again workflow.toValue) :
    ListHeld (MappingHeld (Step.Fits OtherFits)) again.steps
      (.ofList Step.toValue workflow.steps) := by
  obtain ⟨written, hshows, hfits⟩ := hagain.exists_shows Workflow.fields rfl (by decide)
    (Entries.without_eq_self h.extensions)
  have hget := hshows.get_field
  simp only [List.forall_mem_cons, Option.getD_some] at hget
  obtain ⟨-, -, -, -, hsteps, -⟩ := hget
  exact hsteps ▸ hfits.steps

/-- The value of a workflow holds it when its actions are named by their references. -/
theorem Workflow.held_toValue_iff {workflow : Workflow} {entries : Entries} {components : Value}
    (h : Workflow.Fits (Parameter.Fits components) workflow entries) :
    MappingHeld (Workflow.Fits (Parameter.Fits components)) workflow workflow.toValue ↔
      ∀ step ∈ workflow.steps, step.NamedByReference := by
  rw [← h.steps.ofList_iff fun _ _ => Step.held_toValue_iff]
  exact ⟨Workflow.held_steps h, Workflow.held_toValue_with h⟩

/-- Every action of the document is named by its reference, if it should have one. -/
def Document.NamedByReference (document : Document) : Prop :=
  ∀ workflow ∈ document.workflows, ∀ step ∈ workflow.steps, step.NamedByReference

/-- With other reusable parts, the value of a document holds the document with other workflows, if
it holds these. -/
theorem Document.held_toValue_with {document : Document} {entries : Entries}
    (h : document.Fits entries) {components : Value} {workflows : List Workflow}
    (hworkflows : ListHeld (MappingHeld (Workflow.Fits (Parameter.Fits components))) workflows
      (.ofList Workflow.toValue document.workflows)) :
    Document.HeldBy { document with components, workflows }
      { document with components : Document }.toValue := by
  refine mappingHeld_ofFields Document.fields rfl (by decide)
    (Entries.without_eq_self h.extensions) fun written hshows => ?_
  obtain ⟨hget, -, hwithout⟩ := hshows
  simp only [List.forall_mem_cons, Value.getD_given?, Option.getD_some] at hget
  obtain ⟨hversion, hinfo, hsources, hworkflowValues, hcomponents, -⟩ := hget
  obtain ⟨infoEntries, -, hinfoFits⟩ := h.info
  exact {
    version := Entries.hasText_of_get hversion
    given_info := by rw [Entries.Given, hinfo]; rfl
    info := hinfo ▸ Info.held_toValue hinfoFits
    given_workflows := by rw [Entries.Given, hworkflowValues]; rfl
    workflows := hworkflowValues ▸ hworkflows
    sources := hsources ▸ h.sources.ofItems? fun _ _ => Source.held_toValue
    components := hcomponents
    extensions := hwithout }

/-- With other reusable parts, what the value of a document holds has these, and workflows that the
values of the workflows hold. -/
theorem Document.held_workflows {document again : Document} {entries : Entries}
    (h : document.Fits entries) {components : Value}
    (hagain : again.HeldBy { document with components : Document }.toValue) :
    again.components = components ∧
      ListHeld (MappingHeld (Workflow.Fits (Parameter.Fits components))) again.workflows
        (.ofList Workflow.toValue document.workflows) := by
  obtain ⟨written, hshows, hfits⟩ := hagain.exists_shows Document.fields rfl (by decide)
    (Entries.without_eq_self h.extensions)
  have hget := hshows.get_field
  simp only [List.forall_mem_cons, Value.getD_given?, Option.getD_some] at hget
  obtain ⟨-, -, -, hworkflows, hcomponents, -⟩ := hget
  have hsame : again.components = components := hfits.components.symm.trans hcomponents
  exact ⟨hsame, hsame ▸ hworkflows ▸ hfits.workflows⟩

/-- The value of a document holds it when its actions are named by their references. -/
theorem Document.heldBy_toValue_iff {document : Document} {value : Value}
    (h : document.HeldBy value) :
    document.HeldBy document.toValue ↔ document.NamedByReference := by
  obtain ⟨entries, -, h⟩ := h
  rw [Document.NamedByReference, ← h.workflows.ofList_iff fun _ _ => Workflow.held_toValue_iff]
  exact ⟨fun hheld => (Document.held_workflows h hheld).2, Document.held_toValue_with h⟩

/-- An accepted document that is written is read again as the same document exactly if each of its
actions with the type of a reference is named by the reference that it has. -/
theorem Document.read_toValue_iff {value : Value} {document : Document}
    (h : Document.read value = .ok document) :
    Document.read document.toValue = .ok document ↔ document.NamedByReference := by
  rw [Document.read_eq_ok_iff] at h
  -- the rules are about the document alone, so that they still hold
  rw [Document.read_eq_ok_iff, and_iff_left h.2, Document.heldBy_toValue_iff h.1]

/-- The value of a document with one step, which takes its page from a reusable parameter, and with
one action after success. -/
def petDocument (action : Entries) : Value :=
  let page : Value := .map [(.str "reference", .str "$components.parameters.page")]
  let step : Entries := [(.str "stepId", .str "list"), (.str "operationId", .str "listPets"),
    (.str "parameters", .list [page]), (.str "onSuccess", .list [.map action])]
  let workflow : Entries := [(.str "workflowId", .str "all"), (.str "steps", .list [.map step])]
  let reusable : Entries := [(.str "page", .map [(.str "name", .str "page"),
    (.str "in", .str "query"), (.str "value", .str "$inputs.page")])]
  .map [(.str "arazzo", .str "1.0.0"),
    (.str "info", .map [(.str "title", .str "Pets"), (.str "version", .str "1")]),
    (.str "workflows", .list [.map workflow]),
    (.str "components", .map [(.str "parameters", .map reusable)])]

/-- The entries of an action that only has a reference. -/
def laterAction : Entries :=
  [(.str "reference", .str "$components.successActions.later")]

/-- An action that only has a reference is read again. -/
theorem read_toValue_later :
    ∃ document, Document.read (petDocument laterAction) = .ok document ∧
      Document.read document.toValue = .ok document := by
  have hread : Document.read (petDocument laterAction) = .ok _ := rfl
  refine ⟨_, hread, (Document.read_toValue_iff hread).2 ?_⟩
  intro workflow hworkflow step hstep action haction _
  obtain rfl := List.mem_singleton.1 hworkflow
  obtain rfl := List.mem_singleton.1 hstep
  obtain rfl := List.mem_singleton.1 haction
  exact ⟨rfl, "$components.successActions.later", rfl, rfl⟩

/-- An action that also has a name and the type of a reference is not read again: the reference
gives it another name. -/
theorem read_toValue_renamed :
    ∃ document,
      Document.read (petDocument ([(.str "name", .str "again"), (.str "type", .str "reference")] ++
        laterAction)) = .ok document ∧
      Document.read document.toValue ≠ .ok document := by
  have hread : Document.read (petDocument ([(.str "name", .str "again"),
      (.str "type", .str "reference")] ++ laterAction)) = .ok _ := rfl
  refine ⟨_, hread, fun hagain => ?_⟩
  have hnamed := (Document.heldBy_toValue_iff (Document.read_eq_ok_iff.1 hread).1).1
    (Document.read_eq_ok_iff.1 hagain).1
  obtain ⟨-, reference, htext, hlast⟩ := hnamed _ (List.mem_singleton_self _) _
    (List.mem_singleton_self _) _ (List.mem_singleton_self _) rfl
  -- the reference would have to end in the name that was not written
  obtain rfl : "$components.successActions.later" = reference := Except.ok.inj htext
  exact absurd (hlast : "later" = "again") (by decide)

end FlowCheck
