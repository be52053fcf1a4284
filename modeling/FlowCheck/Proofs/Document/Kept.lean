import FlowCheck.Proofs.Document.RoundTrip

/-!
# What writing keeps

A document that was read is written with all that was found in it. `Entries.Kept` says this for the
entries of one object: all that is under none of its fields stays as it is, what has to be a text
stays as that text, and any other value stays unless it is null. The objects of a document stand one
in the other, and lists of them keep their length and their order. `Document.toValue_kept` says this
of all objects of an accepted document.

What is kept of the parts of a step is left open at first: `PartLaw` is any relation between the
entries of a part as they are read and as they are written.
-/

namespace FlowCheck

/-! ## Relations between what is read and what is written -/

/-- A text stands under the key of the written entries, and it is that of the value that was read
there. -/
def Entries.TextKept (key : String) (read written : Entries) : Prop :=
  ∃ text, Entries.HasText read key text ∧ Entries.find? written key = some (.str text)

/-- What is kept of the entries of an object with some fields. -/
structure Entries.Kept (fields texts free : List String) (read written : Entries) : Prop where
  /-- The entries under none of the fields are the same, in the same order. -/
  others : Entries.without written fields = Entries.without read fields
  /-- What has to be a text is there as a text. -/
  texts : ∀ key ∈ texts, Entries.TextKept key read written
  /-- What can be any value is there unless it is null. -/
  free : ∀ key ∈ free, Entries.find? written key = (Entries.get read key).given?

/-- Both values are mappings, whose entries are related. -/
def MappingKept (Law : Entries → Entries → Prop) (read written : Value) : Prop :=
  ∃ entries, read = .map entries ∧ MappingHeld Law entries written

/-- Both values are lists, or null, of mappings that are related one by one. -/
def ListKept (Law : Entries → Entries → Prop) (read written : Value) : Prop :=
  ∃ items others, read.HasItems items ∧ written.HasItems others ∧
    List.Forall₂ (MappingKept Law) items others

/-- Both values are null, or mappings whose entries are related. -/
def OptionKept (Law : Entries → Entries → Prop) (read written : Value) : Prop :=
  read = .null ∧ written = .null ∨ MappingKept Law read written

variable {α : Type} {Fits : α → Entries → Prop} {Law Law' : Entries → Entries → Prop}
  {write : α → Value} {value : Value} {entries : Entries}

/-- A field that is written with the text that was read there keeps it. -/
theorem Entries.textKept_ofFields (keys : List String) {fields : List (String × Option Value)}
    {others : Entries} (hkeys : fields.map Prod.fst = keys) (hnodup : keys.Nodup)
    (hothers : Entries.without others keys = others) {key text : String}
    (htext : Entries.HasText entries key text) (hmem : (key, some (.str text)) ∈ fields) :
    MappingHeld (Entries.TextKept key) entries (.ofFields fields others) := by
  subst hkeys
  exact ⟨_, rfl, text, htext, Entries.find?_ofFields_append hnodup hothers hmem⟩

/-- Fields that are written with what was read there, and then all that was read under other keys,
keep the entries. -/
theorem Entries.kept_ofFields {keys texts free : List String}
    {fields : List (String × Option Value)} {others : Entries}
    (hkeys : fields.map Prod.fst = keys) (hnodup : keys.Nodup)
    (hothers : Entries.without entries keys = others)
    (htexts : ∀ key ∈ texts,
      ∃ text, Entries.HasText entries key text ∧ (key, some (.str text)) ∈ fields)
    (hfree : ∀ key ∈ free, (key, (Entries.get entries key).given?) ∈ fields) :
    MappingHeld (Entries.Kept keys texts free) entries (.ofFields fields others) := by
  subst hkeys
  have hself := Entries.without_eq_self hothers
  refine ⟨_, rfl, ?_, fun key hkey => ?_, fun key hkey => ?_⟩
  · rw [(Entries.shows_ofFields rfl hnodup hself).without_keys, hothers]
  · obtain ⟨text, htext, hmem⟩ := htexts key hkey
    exact ⟨text, htext, Entries.find?_ofFields_append hnodup hself hmem⟩
  · exact Entries.find?_ofFields_append hnodup hself (hfree key hkey)

/-- The first items of two lists are related. -/
theorem ListKept.first {read written : Value} {x y : Entries} {xs ys : List Value}
    (h : ListKept Law read written) (hread : read = .list (.map x :: xs))
    (hwritten : written = .list (.map y :: ys)) : Law x y := by
  subst hread hwritten
  obtain ⟨items, others, hitems | hitems, hothers | hothers, hall⟩ := h
  · obtain rfl := Value.list.inj hitems
    obtain rfl := Value.list.inj hothers
    obtain ⟨entries, hentries, written, hwritten, hlaw⟩ := (List.forall₂_cons.1 hall).1
    rwa [Value.map.inj hentries, Value.map.inj hwritten]
  · exact absurd hothers.1 nofun
  · exact absurd hitems.1 nofun
  · exact absurd hitems.1 nofun

/-- A list is written item by item. -/
theorem ListHeld.kept {xs : List α} (h : ListHeld (MappingHeld Fits) xs value)
    (hwrite : ∀ x entries, Fits x entries → MappingHeld Law entries (write x)) :
    ListKept Law value (.ofList write xs) := by
  obtain ⟨items, hitems, hall⟩ := h
  refine ⟨items, _, hitems, .inl rfl, List.forall₂_map_right_iff.2 (hall.flip.imp ?_)⟩
  rintro item x ⟨entries, rfl, hfits⟩
  exact ⟨entries, rfl, hwrite x entries hfits⟩

/-- A list without items may be left out. -/
theorem ListHeld.kept_ofItems? {xs : List α} (h : ListHeld (MappingHeld Fits) xs value)
    (hwrite : ∀ x entries, Fits x entries → MappingHeld Law entries (write x)) :
    ListKept Law value ((Value.ofItems? write xs).getD .null) := by
  cases xs with
  | nil =>
    obtain ⟨items, hitems, hall⟩ := h
    obtain rfl := List.forall₂_nil_left_iff.1 hall
    exact ⟨[], [], hitems, .inr ⟨rfl, rfl⟩, .nil⟩
  | cons => exact h.kept hwrite

/-- A list that may be missing is written item by item, if it is there. -/
theorem OptionHeld.kept {xs : Option (List α)}
    (h : OptionHeld (ListHeld (MappingHeld Fits)) xs value)
    (hwrite : ∀ x entries, Fits x entries → MappingHeld Law entries (write x)) :
    ListKept Law value ((xs.map (.ofList write)).getD .null) := by
  cases xs with
  | none => exact ⟨[], [], .inr ⟨Value.isNull_iff.1 h, rfl⟩, .inr ⟨rfl, rfl⟩, .nil⟩
  | some xs => exact h.2.kept hwrite

/-- An object that may be missing is written, if it is there. -/
theorem OptionHeld.kept_mapping {x : Option α} (h : OptionHeld (MappingHeld Fits) x value)
    (hwrite : ∀ x entries, Fits x entries → MappingHeld Law entries (write x)) :
    OptionKept Law value ((x.map write).getD .null) := by
  cases x with
  | none => exact .inl ⟨Value.isNull_iff.1 h, rfl⟩
  | some x =>
    obtain ⟨-, entries, rfl, hfits⟩ := h
    exact .inr ⟨entries, rfl, hwrite x entries hfits⟩

/-- Outputs are written unless they are null. -/
theorem OptionHeld.map_eq_given? {outputs : Option Entries}
    (h : OptionHeld (MappingHeld Eq) outputs value) : outputs.map .map = value.given? := by
  cases outputs with
  | none => rw [Value.isNull_iff.1 h]; rfl
  | some outputs =>
    obtain ⟨-, entries, rfl, rfl⟩ := h
    rfl

/-- What a relation to the entries of a mapping implies holds of them, too. -/
theorem MappingHeld.mono (h : ∀ written, Law entries written → Law' entries written)
    (hheld : MappingHeld Law entries value) : MappingHeld Law' entries value := by
  obtain ⟨written, rfl, hlaw⟩ := hheld
  exact ⟨written, rfl, h written hlaw⟩

/-- Two relations to the entries of one mapping hold together. -/
theorem MappingHeld.and (h : MappingHeld Law entries value)
    (h' : MappingHeld Law' entries value) :
    MappingHeld (fun read written => Law read written ∧ Law' read written) entries value := by
  obtain ⟨written, rfl, hkept⟩ := h
  obtain ⟨other, hother, hkept'⟩ := h'
  obtain rfl := Value.map.inj hother
  exact ⟨written, rfl, hkept, hkept'⟩

/-! ## The parts of a step -/

/-- What is kept of each kind of part of a step. -/
structure PartLaw where
  /-- Of a parameter. -/
  parameter : Entries → Entries → Prop
  /-- Of a request body. -/
  requestBody : Entries → Entries → Prop
  /-- Of a condition for success. -/
  criterion : Entries → Entries → Prop
  /-- Of an action. -/
  action : Entries → Entries → Prop

/-- What the law says is kept of all parts as they are written. -/
structure PartLaw.Holds (law : PartLaw) : Prop where
  parameter : ∀ {components parameter entries}, Parameter.Fits components parameter entries →
    MappingHeld law.parameter entries parameter.toValue
  requestBody : ∀ {body entries}, RequestBody.Fits body entries →
    MappingHeld law.requestBody entries body.toValue
  criterion : ∀ {criterion entries}, Criterion.Fits criterion entries →
    MappingHeld law.criterion entries criterion.toValue
  action : ∀ {action entries}, Action.Fits action entries →
    MappingHeld law.action entries action.toValue

/-- The parts of a step keep their order, and of each is kept what the law says. -/
structure Step.PartsKept (law : PartLaw) (read written : Entries) : Prop where
  parameters :
    ListKept law.parameter (Entries.get read "parameters") (Entries.get written "parameters")
  requestBody :
    OptionKept law.requestBody (Entries.get read "requestBody")
      (Entries.get written "requestBody")
  criteria :
    ListKept law.criterion (Entries.get read "successCriteria")
      (Entries.get written "successCriteria")
  onSuccess :
    ListKept law.action (Entries.get read "onSuccess") (Entries.get written "onSuccess")
  onFailure :
    ListKept law.action (Entries.get read "onFailure") (Entries.get written "onFailure")

variable {law : PartLaw} {components : Value}

/-- The parts of a step are kept as the law says. -/
theorem Step.partsKept_toValue (hlaw : law.Holds) {step : Step}
    (h : Step.Fits (Parameter.Fits components) step entries) :
    MappingHeld (Step.PartsKept law) entries step.toValue := by
  refine mappingHeld_ofFields Step.fields rfl (by decide)
    (Entries.without_eq_self h.extensions) fun written hshows => ?_
  obtain ⟨hget, -, -⟩ := hshows
  simp only [List.forall_mem_cons] at hget
  obtain ⟨-, -, -, -, -, hparameters, hbody, hcriteria, hsuccess, hfailure, -⟩ := hget
  exact {
    parameters := hparameters ▸ h.parameters.kept_ofItems? fun _ _ => hlaw.parameter
    requestBody := hbody ▸ h.requestBody.kept_mapping fun _ _ => hlaw.requestBody
    criteria := hcriteria ▸ h.criteria.kept fun _ _ => hlaw.criterion
    onSuccess := hsuccess ▸ h.onSuccess.kept fun _ _ => hlaw.action
    onFailure := hfailure ▸ h.onFailure.kept fun _ _ => hlaw.action }

/-- The parts of all steps of a document keep their order, and of each is kept what the law says. -/
def Document.PartsKept (law : PartLaw) (read written : Entries) : Prop :=
  ListKept (fun read written =>
      ListKept (Step.PartsKept law) (Entries.get read "steps") (Entries.get written "steps"))
    (Entries.get read "workflows") (Entries.get written "workflows")

/-- The parts of all steps of a document are kept as the law says. -/
theorem Document.partsKept_toValue (hlaw : law.Holds) {document : Document}
    (h : document.HeldBy value) : MappingKept (Document.PartsKept law) value document.toValue := by
  obtain ⟨entries, rfl, h⟩ := h
  refine ⟨entries, rfl, mappingHeld_ofFields Document.fields rfl (by decide)
    (Entries.without_eq_self h.extensions) fun written hshows => ?_⟩
  obtain ⟨hget, -, -⟩ := hshows
  simp only [List.forall_mem_cons] at hget
  obtain ⟨-, -, -, hworkflows, -⟩ := hget
  rw [Document.PartsKept, hworkflows]
  refine h.workflows.kept fun workflow entries h => ?_
  refine mappingHeld_ofFields Workflow.fields rfl (by decide)
    (Entries.without_eq_self h.extensions) fun written hshows => ?_
  obtain ⟨hget, -, -⟩ := hshows
  simp only [List.forall_mem_cons] at hget
  obtain ⟨-, -, -, -, hsteps, -⟩ := hget
  rw [hsteps]
  exact h.steps.kept fun _ _ => Step.partsKept_toValue hlaw

/-! ## The objects of a document -/

/-- A parameter is told by its reference, or by its name if it has none. -/
def Parameter.Kept (read written : Entries) : Prop :=
  Entries.TextKept (if (Entries.get read "reference").isNull then "name" else "reference")
    read written

/-- A request body keeps its three values. -/
def RequestBody.Kept (read written : Entries) : Prop :=
  ∀ key ∈ ["contentType", "payload", "replacements"],
    Entries.get written key = Entries.get read key

/-- A condition for success is told by its condition. -/
def Criterion.Kept : Entries → Entries → Prop :=
  Entries.TextKept "condition"

/-- An action keeps its configuration. One that refers to a reusable action is written as it was,
and any other keeps its name and its type, too, unless the type is that of a reference. -/
structure Action.Kept (read written : Entries) : Prop where
  /-- All that is under other keys is the same. -/
  others : Entries.without written Action.fields = Entries.without read Action.fields
  /-- A reference without a type is the same. -/
  reference : Action.Refers read → written = read
  /-- The name and the type are there as texts. -/
  texts : ¬ Action.Refers read → ¬ Entries.HasText read "type" Action.referenceType →
    ∀ key ∈ Action.fields, Entries.TextKept key read written

/-- Each part is kept as far as it can be told from others. -/
def PartLaw.told : PartLaw :=
  ⟨Parameter.Kept, RequestBody.Kept, Criterion.Kept, Action.Kept⟩

/-- The entries of a description of a document are kept. -/
def Info.Kept : Entries → Entries → Prop :=
  Entries.Kept Info.fields ["title", "version"] ["summary", "description"]

/-- The entries of a source are kept. -/
def Source.Kept : Entries → Entries → Prop :=
  Entries.Kept Source.fields ["name", "url"] ["type"]

/-- The entries of a step are kept, and its parts in their order. -/
structure Step.Kept (read written : Entries) : Prop where
  fields :
    Entries.Kept Step.fields ["stepId"]
      ["description", "operationId", "operationPath", "workflowId", "outputs"] read written
  parts : Step.PartsKept .told read written

/-- The entries of a workflow are kept, and its steps and its conditions in their order. -/
structure Workflow.Kept (read written : Entries) : Prop where
  fields :
    Entries.Kept Workflow.fields ["workflowId"] ["summary", "description", "inputs", "outputs"]
      read written
  steps : ListKept Step.Kept (Entries.get read "steps") (Entries.get written "steps")
  criteria :
    ListKept Criterion.Kept (Entries.get read "successCriteria")
      (Entries.get written "successCriteria")

/-- The entries of a document are kept, and its sources and its workflows in their order. -/
structure Document.Kept (read written : Entries) : Prop where
  fields : Entries.Kept Document.fields ["arazzo"] ["components"] read written
  info : MappingKept Info.Kept (Entries.get read "info") (Entries.get written "info")
  sources :
    ListKept Source.Kept (Entries.get read "sourceDescriptions")
      (Entries.get written "sourceDescriptions")
  workflows :
    ListKept Workflow.Kept (Entries.get read "workflows") (Entries.get written "workflows")

/-- A parameter is written with its reference or its name. -/
theorem Parameter.kept_toValue {parameter : Parameter}
    (h : Parameter.Fits components parameter entries) :
    MappingHeld Parameter.Kept entries parameter.toValue := by
  cases h with
  | own href hname =>
    have htold (written : Entries) (hkept : Entries.TextKept "name" entries written) :
        Parameter.Kept entries written := by rwa [Parameter.Kept, if_pos href]
    exact MappingHeld.mono htold <|
      Entries.textKept_ofFields ["name", "in", "value"] rfl (by decide) rfl hname (by simp)
  | reusable href =>
    have htold (written : Entries) (hkept : Entries.TextKept "reference" entries written) :
        Parameter.Kept entries written := by
      rwa [Parameter.Kept, if_neg (Bool.eq_false_iff.1 href.given)]
    exact MappingHeld.mono htold <|
      Entries.textKept_ofFields ["reference", "value"] rfl (by decide) rfl href (by simp)

/-- A request body is written with its three values. -/
theorem RequestBody.kept_toValue {body : RequestBody} (h : body.Fits entries) :
    MappingHeld RequestBody.Kept entries body.toValue := by
  refine mappingHeld_ofFields ["contentType", "payload", "replacements"] rfl (by decide) rfl
    fun written hshows => ?_
  obtain ⟨hget, -, -⟩ := hshows
  simp only [List.forall_mem_cons, Value.getD_given?, Option.getD_some] at hget
  obtain ⟨hcontentType, hpayload, hreplacements, -⟩ := hget
  simp only [RequestBody.Kept, List.forall_mem_cons]
  exact ⟨hcontentType.trans h.contentType.symm, hpayload.trans h.payload.symm,
    hreplacements.trans h.replacements.symm, nofun⟩

/-- A condition for success is written with its condition. -/
theorem Criterion.kept_toValue {criterion : Criterion} (h : criterion.Fits entries) :
    MappingHeld Criterion.Kept entries criterion.toValue :=
  Entries.textKept_ofFields ["context", "condition", "value", "type"] rfl (by decide) rfl
    h.condition (by simp)

/-- An action is written with its configuration, and with its name and its type if its type is not
that of a reference. -/
theorem Action.kept_toValue {action : Action} (h : action.Fits entries) :
    MappingHeld Action.Kept entries action.toValue := by
  cases h with
  | reference refers type name config =>
    subst config
    exact ⟨action.config, if_pos type.symm, rfl, fun _ => rfl, fun hnot => absurd refers hnot⟩
  | typed refers name type config =>
    by_cases htype : action.type = Action.referenceType
    · refine ⟨action.config, if_pos htype, ?_, fun hrefers => absurd hrefers refers,
        fun _ hnot => absurd (htype ▸ type) hnot⟩
      rw [← config, Entries.without_without]
    · rw [Action.toValue, if_neg htype]
      have hkept : MappingHeld (Entries.Kept Action.fields Action.fields []) entries
          (.ofFields [("name", some (.str action.name)), ("type", some (.str action.type))]
            action.config) := by
        refine Entries.kept_ofFields rfl (by decide) config ?_ (List.forall_mem_nil _)
        simp only [Action.fields, List.forall_mem_cons]
        exact ⟨⟨_, name, by simp⟩, ⟨_, type, by simp⟩, List.forall_mem_nil _⟩
      exact hkept.mono fun _ hfields =>
        ⟨hfields.others, fun hrefers => absurd hrefers refers, fun _ _ => hfields.texts⟩

/-- Each part of a step is written as far as it can be told from others. -/
theorem PartLaw.holds_told : PartLaw.told.Holds where
  parameter := Parameter.kept_toValue
  requestBody := RequestBody.kept_toValue
  criterion := Criterion.kept_toValue
  action := Action.kept_toValue

/-- A description of a document is written as it was. -/
theorem Info.kept_toValue {info : Info} (h : info.Fits entries) :
    MappingHeld Info.Kept entries info.toValue := by
  refine Entries.kept_ofFields rfl (by decide) h.extensions ?_ ?_
  · simp only [List.forall_mem_cons]
    exact ⟨⟨_, h.title, by simp⟩, ⟨_, h.version, by simp⟩, nofun⟩
  · simp [h.summary, h.description]

/-- A source is written as it was. -/
theorem Source.kept_toValue {source : Source} (h : source.Fits entries) :
    MappingHeld Source.Kept entries source.toValue := by
  refine Entries.kept_ofFields rfl (by decide) h.extensions ?_ ?_
  · simp only [List.forall_mem_cons]
    exact ⟨⟨_, h.name, by simp⟩, ⟨_, h.url, by simp⟩, nofun⟩
  · simp [h.type]

/-- A step is written as it was. -/
theorem Step.kept_toValue {step : Step} (h : Step.Fits (Parameter.Fits components) step entries) :
    MappingHeld Step.Kept entries step.toValue := by
  have hfields : MappingHeld (Entries.Kept Step.fields ["stepId"]
      ["description", "operationId", "operationPath", "workflowId", "outputs"]) entries
      step.toValue := by
    refine Entries.kept_ofFields rfl (by decide) h.extensions ?_ ?_
    · simp only [List.forall_mem_singleton]
      exact ⟨_, h.id, by simp⟩
    · simp [h.description, h.operationId, h.operationPath, h.workflowId, h.outputs.map_eq_given?]
  exact (hfields.and (Step.partsKept_toValue PartLaw.holds_told h)).mono
    fun _ ⟨hfields, hparts⟩ => ⟨hfields, hparts⟩

/-- A workflow is written as it was. -/
theorem Workflow.kept_toValue {workflow : Workflow}
    (h : Workflow.Fits (Parameter.Fits components) workflow entries) :
    MappingHeld Workflow.Kept entries workflow.toValue := by
  have hfields : MappingHeld (Entries.Kept Workflow.fields ["workflowId"]
      ["summary", "description", "inputs", "outputs"]) entries workflow.toValue := by
    refine Entries.kept_ofFields rfl (by decide) h.extensions ?_ ?_
    · simp only [List.forall_mem_singleton]
      exact ⟨_, h.id, by simp⟩
    · simp [h.summary, h.description, h.inputs, h.outputs.map_eq_given?]
  have hlists : MappingHeld (fun read written =>
      ListKept Step.Kept (Entries.get read "steps") (Entries.get written "steps") ∧
        ListKept Criterion.Kept (Entries.get read "successCriteria")
          (Entries.get written "successCriteria")) entries workflow.toValue := by
    refine mappingHeld_ofFields Workflow.fields rfl (by decide)
      (Entries.without_eq_self h.extensions) fun written hshows => ?_
    obtain ⟨hget, -, -⟩ := hshows
    simp only [List.forall_mem_cons] at hget
    obtain ⟨-, -, -, -, hsteps, hcriteria, -⟩ := hget
    rw [hsteps, hcriteria]
    exact ⟨h.steps.kept fun _ _ => Step.kept_toValue,
      h.criteria.kept fun _ _ => Criterion.kept_toValue⟩
  exact (hfields.and hlists).mono
    fun _ ⟨hfields, hsteps, hcriteria⟩ => ⟨hfields, hsteps, hcriteria⟩

/-- A document is written as the value that holds it. -/
theorem Document.kept_toValue {document : Document} (h : document.Fits entries) :
    MappingHeld Document.Kept entries document.toValue := by
  have hfields : MappingHeld (Entries.Kept Document.fields ["arazzo"] ["components"]) entries
      document.toValue := by
    refine Entries.kept_ofFields rfl (by decide) h.extensions ?_ ?_
    · simp only [List.forall_mem_singleton]
      exact ⟨_, h.version, by simp⟩
    · simp [h.components]
  have hobjects : MappingHeld (fun read written =>
      MappingKept Info.Kept (Entries.get read "info") (Entries.get written "info") ∧
        ListKept Source.Kept (Entries.get read "sourceDescriptions")
          (Entries.get written "sourceDescriptions") ∧
        ListKept Workflow.Kept (Entries.get read "workflows")
          (Entries.get written "workflows")) entries document.toValue := by
    refine mappingHeld_ofFields Document.fields rfl (by decide)
      (Entries.without_eq_self h.extensions) fun written hshows => ?_
    obtain ⟨hget, -, -⟩ := hshows
    simp only [List.forall_mem_cons, Option.getD_some] at hget
    obtain ⟨-, hinfo, hsources, hworkflows, -⟩ := hget
    obtain ⟨info, hinfoEntries, hinfoFits⟩ := h.info
    rw [hinfo, hsources, hworkflows]
    exact ⟨⟨info, hinfoEntries, Info.kept_toValue hinfoFits⟩,
      h.sources.kept_ofItems? fun _ _ => Source.kept_toValue,
      h.workflows.kept fun _ _ => Workflow.kept_toValue⟩
  exact (hfields.and hobjects).mono
    fun _ ⟨hfields, hinfo, hsources, hworkflows⟩ => ⟨hfields, hinfo, hsources, hworkflows⟩

end FlowCheck
