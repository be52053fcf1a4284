import FlowCheck.Proofs.Document.Valid
import FlowCheck.Proofs.Value.Display

/-!
# The grammar of accepted documents

Which values are accepted as documents, said of the values alone: `Form` gives, object by object,
the fields that have to be there and what stands in them. `Document.exists_read_iff` says that
exactly these values are accepted, unless an integer in them is too long to be written.
-/

namespace FlowCheck

/-! ## Shapes of values -/

namespace Value

/-- The value is a mapping whose entries have a property. -/
def IsMapping (p : Entries → Prop) (value : Value) : Prop :=
  ∃ entries, value = .map entries ∧ p entries

/-- The value is a list whose items have a property. -/
def IsList (p : Value → Prop) (value : Value) : Prop :=
  ∃ items, value = .list items ∧ ∀ item ∈ items, p item

/-- The value is null or has a property. -/
def IsNullOr (p : Value → Prop) (value : Value) : Prop :=
  value = .null ∨ p value

/-- What stands under a field of a mapping, as text. -/
def textUnder (field : String) : Value → Except Fault String
  | .map entries => (Entries.get entries field).text
  | other => other.text

/-- The value is a list whose items have a property and differ in the text under a field. -/
def IsDistinctList (field : String) (p : Value → Prop) (value : Value) : Prop :=
  ∃ items, value = .list items ∧ (∀ item ∈ items, p item) ∧
    (items.map (textUnder field)).Nodup

end Value

/-! ## The grammar -/

/-- The entries of a description of a document. -/
structure Info.Form (entries : Entries) : Prop where
  title : Entries.Given entries "title"
  version : Entries.Given entries "version"

/-- The entries of a source. -/
structure Source.Form (entries : Entries) : Prop where
  name : Entries.Given entries "name"
  url : Entries.Given entries "url"

/-- The entries of a condition for success. -/
structure Criterion.Form (entries : Entries) : Prop where
  condition : Entries.Given entries "condition"

/-- The entries of an action. One that has a reference and no type needs nothing else, any other
has a name and one of the allowed types. -/
inductive Action.Form (allowed : List String) (entries : Entries) : Prop where
  | reference (reference : Entries.has entries "reference" = true)
      (type : Entries.has entries "type" = false)
  | typed (name : Entries.Given entries "name")
      (type : ∃ type, Entries.HasText entries "type" type ∧ Action.MayBe allowed type)

/-- The components have a reusable parameter with a name. -/
def HasReusable (components : Value) (key : String) (target : Entries) : Prop :=
  ∃ parts, components = .map parts ∧
    ∃ parameters, Entries.get parts "parameters" = .map parameters ∧
      Entries.get parameters key = .map target

/-- The entries of a parameter. One without a reference has a name of its own, any other refers to
a reusable parameter that has one, and whose location counts. -/
inductive Parameter.Form (components : Value) (entries : Entries) : Prop where
  | own (reference : Entries.get entries "reference" = .null)
      (name : Entries.Given entries "name")
      (location : (Entries.get entries "in").IsLocation)
  | reusable (key : String) (target : Entries)
      (reference : Entries.HasText entries "reference" (Parameter.reusableStart ++ key))
      (found : HasReusable components key target)
      (name : Entries.Given target "name")
      (location : (Entries.get target "in").IsLocation)

/-- The entries of a step. -/
structure Step.Form (components : Value) (entries : Entries) : Prop where
  id : Entries.Given entries "stepId"
  target : HasOneTarget (Entries.get entries "operationId") (Entries.get entries "operationPath")
    (Entries.get entries "workflowId")
  parameters : (Entries.get entries "parameters").IsNullOr
    (Value.IsList (Value.IsMapping (Parameter.Form components)))
  requestBody : (Entries.get entries "requestBody").IsNullOr (Value.IsMapping fun _ => True)
  criteria : (Entries.get entries "successCriteria").IsNullOr
    (Value.IsList (Value.IsMapping Criterion.Form))
  onSuccess : (Entries.get entries "onSuccess").IsNullOr
    (Value.IsList (Value.IsMapping (Action.Form Action.successTypes)))
  onFailure : (Entries.get entries "onFailure").IsNullOr
    (Value.IsList (Value.IsMapping (Action.Form Action.failureTypes)))
  outputs : (Entries.get entries "outputs").IsNullOr (Value.IsMapping fun _ => True)

/-- The entries of a workflow. -/
structure Workflow.Form (components : Value) (entries : Entries) : Prop where
  id : Entries.Given entries "workflowId"
  steps : (Entries.get entries "steps").IsDistinctList "stepId"
    (Value.IsMapping (Step.Form components))
  criteria : (Entries.get entries "successCriteria").IsNullOr
    (Value.IsList (Value.IsMapping Criterion.Form))
  outputs : (Entries.get entries "outputs").IsNullOr (Value.IsMapping fun _ => True)

/-- The entries of a document. -/
structure Document.Form (entries : Entries) : Prop where
  version : ∃ rest, Entries.HasText entries "arazzo" (Document.supportedStart ++ rest)
  info : (Entries.get entries "info").IsMapping Info.Form
  sources : (Entries.get entries "sourceDescriptions").IsNullOr
    (Value.IsList (Value.IsMapping Source.Form))
  workflows : (Entries.get entries "workflows").IsDistinctList "workflowId"
    (Value.IsMapping (Workflow.Form (Entries.get entries "components")))

/-! ## Values that hold something -/

/-- A given field has a text, if no integer in it is too long. -/
theorem Entries.exists_hasText_iff {entries : Entries} {field : String}
    (h : (Value.map entries).ShortInts) :
    (∃ text, HasText entries field text) ↔ Given entries field := by
  constructor
  · rintro ⟨text, htext⟩
    exact htext.given
  · intro hgiven
    obtain ⟨text, htext⟩ := Value.exists_text (Value.shortInts_get h field)
    exact ⟨text, hgiven, htext⟩

variable {α : Type} {Fits : α → Entries → Prop} {Valid : α → Prop} {Form : Entries → Prop}

/-- A mapping holds something acceptable when its entries have the form for it. -/
theorem exists_mappingHeld_and_iff {value : Value} (hshort : value.ShortInts)
    (h : ∀ entries, (Value.map entries).ShortInts →
      ((∃ x, Fits x entries ∧ Valid x) ↔ Form entries)) :
    (∃ x, MappingHeld Fits x value ∧ Valid x) ↔ value.IsMapping Form := by
  constructor
  · rintro ⟨x, ⟨entries, rfl, hfits⟩, hvalid⟩
    exact ⟨entries, rfl, (h entries hshort).1 ⟨x, hfits, hvalid⟩⟩
  · rintro ⟨entries, rfl, hform⟩
    obtain ⟨x, hfits, hvalid⟩ := (h entries hshort).2 hform
    exact ⟨x, ⟨entries, rfl, hfits⟩, hvalid⟩

variable {Held : α → Value → Prop} {p : Value → Prop}

/-- A list holds acceptable elements when each of its items does. -/
theorem exists_forall₂_and_iff {items : List Value} (hshort : (Value.list items).ShortInts)
    (h : ∀ value, value.ShortInts → ((∃ x, Held x value ∧ Valid x) ↔ p value)) :
    (∃ xs, List.Forall₂ Held xs items ∧ ∀ x ∈ xs, Valid x) ↔ ∀ item ∈ items, p item := by
  induction items with
  | nil => simp
  | cons item rest ih =>
    rw [List.forall_mem_cons, ← ih hshort.2, ← h item hshort.1]
    constructor
    · rintro ⟨_, hheld, hvalid⟩
      obtain ⟨x, xs, hx, hxs, rfl⟩ := List.forall₂_cons_right_iff.1 hheld
      obtain ⟨hvalid, hvalids⟩ := List.forall_mem_cons.1 hvalid
      exact ⟨⟨x, hx, hvalid⟩, xs, hxs, hvalids⟩
    · rintro ⟨⟨x, hx, hvalid⟩, xs, hxs, hvalids⟩
      exact ⟨x :: xs, .cons hx hxs, List.forall_mem_cons.2 ⟨hvalid, hvalids⟩⟩

/-- A value holds a list of acceptable elements when it is null or a list of which each item holds
one. -/
theorem exists_listHeld_and_iff {value : Value} (hshort : value.ShortInts)
    (h : ∀ value, value.ShortInts → ((∃ x, Held x value ∧ Valid x) ↔ p value)) :
    (∃ xs, ListHeld Held xs value ∧ ∀ x ∈ xs, Valid x) ↔ value.IsNullOr (Value.IsList p) := by
  constructor
  · rintro ⟨xs, ⟨items, rfl | ⟨rfl, rfl⟩, hheld⟩, hvalid⟩
    · exact .inr ⟨items, rfl, (exists_forall₂_and_iff hshort h).1 ⟨xs, hheld, hvalid⟩⟩
    · exact .inl rfl
  · rintro (rfl | ⟨items, rfl, hitems⟩)
    · exact ⟨[], ⟨[], .inr ⟨rfl, rfl⟩, .nil⟩, fun _ hx => absurd hx List.not_mem_nil⟩
    · obtain ⟨xs, hheld, hvalid⟩ := (exists_forall₂_and_iff hshort h).2 hitems
      exact ⟨xs, ⟨items, .inl rfl, hheld⟩, hvalid⟩

/-- A list that may be null holds acceptable elements, or nothing, in the same cases. -/
theorem exists_optionHeld_list_and_iff {value : Value} (hshort : value.ShortInts)
    (h : ∀ value, value.ShortInts → ((∃ x, Held x value ∧ Valid x) ↔ p value)) :
    (∃ xs, OptionHeld (ListHeld Held) xs value ∧ ∀ x ∈ xs.getD [], Valid x) ↔
      value.IsNullOr (Value.IsList p) := by
  -- null holds the empty list and nothing, and both are acceptable
  rw [← exists_listHeld_and_iff hshort h]
  constructor
  · rintro ⟨_ | xs, hheld, hvalid⟩
    · exact ⟨[], ⟨[], .inr ⟨Value.isNull_iff.1 hheld, rfl⟩, .nil⟩, hvalid⟩
    · exact ⟨xs, hheld.2, hvalid⟩
  · rintro ⟨xs, hheld, hvalid⟩
    by_cases hnull : value.isNull = true
    · exact ⟨none, hnull, fun _ hx => absurd hx List.not_mem_nil⟩
    · exact ⟨some xs, ⟨Bool.eq_false_iff.2 hnull, hheld⟩, hvalid⟩

/-- A mapping that may be null holds something when its entries have the form for it. -/
theorem exists_optionHeld_mapping_iff (h : ∀ entries, (∃ x, Fits x entries) ↔ Form entries)
    (value : Value) :
    (∃ x, OptionHeld (MappingHeld Fits) x value) ↔ value.IsNullOr (Value.IsMapping Form) := by
  constructor
  · rintro ⟨_ | x, hheld⟩
    · exact .inl (Value.isNull_iff.1 hheld)
    · obtain ⟨-, entries, rfl, hfits⟩ := hheld
      exact .inr ⟨entries, rfl, (h entries).1 ⟨x, hfits⟩⟩
  · rintro (rfl | ⟨entries, rfl, hform⟩)
    · exact ⟨none, rfl⟩
    · obtain ⟨x, hfits⟩ := (h entries).2 hform
      exact ⟨some x, rfl, entries, rfl, hfits⟩

/-- A value that is not null holds a list of acceptable elements with distinct ids when it is a list
of which each item holds one, and the items differ in the field for the id. -/
theorem exists_distinct_iff {id : α → String} {field : String} {value : Value}
    (hshort : value.ShortInts)
    (h : ∀ value, value.ShortInts → ((∃ x, Held x value ∧ Valid x) ↔ p value))
    (hid : ∀ x item, Held x item → item.textUnder field = .ok (id x)) :
    (∃ xs, value.isNull = false ∧ ListHeld Held xs value ∧ (xs.map id).Nodup ∧
        ∀ x ∈ xs, Valid x) ↔ value.IsDistinctList field p := by
  have hnodup {xs : List α} {items : List Value} (hheld : List.Forall₂ Held xs items) :
      (items.map (Value.textUnder field)).Nodup ↔ (xs.map id).Nodup := by
    -- none of the texts is a fault, so that they differ when the ids do
    have htexts : items.map (Value.textUnder field) = (xs.map id).map .ok := by
      induction hheld with
      | nil => rfl
      | cons hx _ ih => rw [List.map_cons, hid _ _ hx, ih]; rfl
    rw [htexts, List.nodup_map_iff fun _ _ => Except.ok.inj]
  constructor
  · rintro ⟨xs, hgiven, ⟨items, rfl | ⟨rfl, -⟩, hheld⟩, hdistinct, hvalid⟩
    · exact ⟨items, rfl, (exists_forall₂_and_iff hshort h).1 ⟨xs, hheld, hvalid⟩,
        (hnodup hheld).2 hdistinct⟩
    · exact absurd hgiven nofun
  · rintro ⟨items, rfl, hitems, hdistinct⟩
    obtain ⟨xs, hheld, hvalid⟩ := (exists_forall₂_and_iff hshort h).2 hitems
    exact ⟨xs, rfl, ⟨items, .inl rfl, hheld⟩, (hnodup hheld).1 hdistinct, hvalid⟩

/-! ## Objects without lists -/

section

variable {entries : Entries} (hshort : (Value.map entries).ShortInts)

include hshort

/-- Entries are those of a description when they have the form of one. -/
theorem Info.exists_fits_iff : (∃ info, Info.Fits info entries) ↔ Info.Form entries := by
  constructor
  · rintro ⟨info, h⟩
    exact ⟨h.title.given, h.version.given⟩
  · intro h
    obtain ⟨title, htitle⟩ := (Entries.exists_hasText_iff hshort).2 h.title
    obtain ⟨version, hversion⟩ := (Entries.exists_hasText_iff hshort).2 h.version
    exact ⟨⟨title, version, _, _, _⟩, htitle, hversion, rfl, rfl, rfl⟩

/-- Entries are those of a source when they have the form of one. -/
theorem Source.exists_fits_iff : (∃ source, Source.Fits source entries) ↔ Source.Form entries := by
  constructor
  · rintro ⟨source, h⟩
    exact ⟨h.name.given, h.url.given⟩
  · intro h
    obtain ⟨name, hname⟩ := (Entries.exists_hasText_iff hshort).2 h.name
    obtain ⟨url, hurl⟩ := (Entries.exists_hasText_iff hshort).2 h.url
    exact ⟨⟨name, url, _, _⟩, hname, hurl, rfl, rfl⟩

/-- Entries are those of a condition when they have the form of one. -/
theorem Criterion.exists_fits_iff :
    (∃ criterion, Criterion.Fits criterion entries) ↔ Criterion.Form entries := by
  constructor
  · rintro ⟨criterion, h⟩
    exact ⟨h.condition.given⟩
  · intro h
    obtain ⟨condition, hcondition⟩ := (Entries.exists_hasText_iff hshort).2 h.condition
    exact ⟨⟨_, condition, _, _⟩, hcondition, rfl, rfl, rfl⟩

/-- Entries are those of an allowed action when they have the form of one. -/
theorem Action.exists_fits_iff {allowed : List String} :
    (∃ action, Action.Fits action entries ∧ Action.MayBe allowed action.type) ↔
      Action.Form allowed entries := by
  constructor
  · rintro ⟨action, h, hallowed⟩
    cases h with
    | reference refers _ _ _ => exact .reference refers.1 refers.2
    | typed _ name type _ => exact .typed name.given ⟨_, type, hallowed⟩
  · intro h
    -- a mapping that refers to a reusable action is read as such, whatever else it has
    by_cases hrefers : Action.Refers entries
    · obtain ⟨text, htext⟩ := Value.exists_text (Value.shortInts_get hshort "reference")
      exact ⟨⟨lastPart text, Action.referenceType, entries⟩,
        .reference hrefers rfl ⟨text, htext, rfl⟩ rfl, .inl rfl⟩
    · cases h with
      | reference reference type => exact absurd ⟨reference, type⟩ hrefers
      | typed name type =>
        obtain ⟨name, hname⟩ := (Entries.exists_hasText_iff hshort).2 name
        obtain ⟨type, htype, hallowed⟩ := type
        exact ⟨⟨name, type, _⟩, .typed hrefers hname htype rfl, hallowed⟩

end

/-! ## Parameters -/

/-- `reusable?` finds what the components have. -/
theorem reusable?_eq_some_iff {components : Value} {key : String} {target : Entries} :
    reusable? components key = some target ↔ HasReusable components key target := by
  constructor
  · intro h
    rw [reusable?] at h
    split at h
    · next found hfound =>
      obtain rfl := Option.some.inj h
      obtain ⟨parameters, hparameters, htarget⟩ := Option.bind_eq_some_iff.1 hfound
      cases components with
      | map parts =>
        obtain rfl := Option.some.inj hparameters
        cases hvalue : Entries.get parts "parameters" with
        | map parameters =>
          rw [hvalue] at htarget
          exact ⟨parts, rfl, parameters, hvalue, Option.some.inj htarget⟩
        | _ => simp [hvalue, mappingUnder?] at htarget
      | _ => simp [mappingUnder?] at hparameters
    · exact absurd h nofun
  · rintro ⟨parts, rfl, parameters, hparameters, htarget⟩
    simp [reusable?, mappingUnder?, hparameters, htarget]

/-- Entries are those of a parameter with a known location when they have the form of one. -/
theorem Parameter.exists_fits_iff {components : Value} (hcomponents : components.ShortInts)
    {entries : Entries} (hshort : (Value.map entries).ShortInts) :
    (∃ parameter, Parameter.Fits components parameter entries ∧ parameter.location.IsLocation) ↔
      Parameter.Form components entries := by
  constructor
  · rintro ⟨parameter, h, hlocation⟩
    cases h with
    | own href hname => exact .own (Value.isNull_iff.1 href) hname.given hlocation
    | reusable href htarget _ =>
      obtain ⟨⟨key, rfl, hfound⟩, hname⟩ := htarget
      exact .reusable key _ href (reusable?_eq_some_iff.1 hfound) hname.given hlocation
  · intro h
    cases h with
    | own reference name location =>
      obtain ⟨name, hname⟩ := (Entries.exists_hasText_iff hshort).2 name
      exact ⟨_, .own (Value.isNull_iff.2 reference) hname, location⟩
    | reusable key target reference found name location =>
      -- the reusable parameter is a part of the components, whose integers are short
      have htarget : (Value.map target).ShortInts := by
        obtain ⟨parts, rfl, parameters, hparameters, htarget⟩ := found
        have hshort := Value.shortInts_get hcomponents "parameters"
        rw [hparameters] at hshort
        exact htarget ▸ Value.shortInts_get hshort key
      obtain ⟨name, hname⟩ := (Entries.exists_hasText_iff htarget).2 name
      exact ⟨_, .reusable reference ⟨⟨key, rfl, reusable?_eq_some_iff.2 found⟩, hname⟩ rfl,
        location⟩

/-! ## Steps, workflows and documents -/

/-- Outputs are a mapping or null. -/
theorem exists_outputs_iff (value : Value) :
    (∃ outputs, OptionHeld (MappingHeld Eq) outputs value) ↔
      value.IsNullOr (Value.IsMapping fun _ => True) :=
  exists_optionHeld_mapping_iff (fun entries => iff_true_intro ⟨entries, rfl⟩) value

/-- Every mapping holds a request body. -/
theorem RequestBody.exists_optionHeld_iff (value : Value) :
    (∃ body, OptionHeld (MappingHeld RequestBody.Fits) body value) ↔
      value.IsNullOr (Value.IsMapping fun _ => True) :=
  exists_optionHeld_mapping_iff
    (fun _ => iff_true_intro ⟨⟨_, _, _⟩, ⟨rfl, rfl, rfl⟩⟩) value

/-- Conditions are a list of mappings with the form of one, or null. -/
theorem Criterion.exists_optionHeld_iff {value : Value} (hshort : value.ShortInts) :
    (∃ criteria, OptionHeld (ListHeld (MappingHeld Criterion.Fits)) criteria value) ↔
      value.IsNullOr (Value.IsList (Value.IsMapping Criterion.Form)) := by
  have hiff : (∃ criteria, OptionHeld (ListHeld (MappingHeld Criterion.Fits)) criteria value ∧
      ∀ criterion ∈ criteria.getD [], True) ↔ _ :=
    exists_optionHeld_list_and_iff hshort fun _ hshort =>
      exists_mappingHeld_and_iff hshort fun _ hshort => by
        simpa using Criterion.exists_fits_iff hshort
  simpa using hiff

/-- Allowed actions are a list of mappings with the form of one, or null. -/
theorem Action.exists_optionHeld_iff {value : Value} (hshort : value.ShortInts)
    {allowed : List String} :
    (∃ actions, OptionHeld (ListHeld (MappingHeld Action.Fits)) actions value ∧
        ∀ action ∈ actions.getD [], Action.MayBe allowed action.type) ↔
      value.IsNullOr (Value.IsList (Value.IsMapping (Action.Form allowed))) :=
  exists_optionHeld_list_and_iff hshort fun _ hshort =>
    exists_mappingHeld_and_iff hshort fun _ hshort => Action.exists_fits_iff hshort

/-- Entries are those of a step that satisfies the rules when they have the form of one. -/
theorem Step.exists_fits_iff {components : Value} (hcomponents : components.ShortInts)
    {entries : Entries} (hshort : (Value.map entries).ShortInts) :
    (∃ step, Step.Fits (Parameter.Fits components) step entries ∧ step.Valid) ↔
      Step.Form components entries := by
  have hget := Value.shortInts_get hshort
  have hparameters : (∃ parameters, ListHeld (MappingHeld (Parameter.Fits components)) parameters
      (Entries.get entries "parameters") ∧
        ∀ parameter ∈ parameters, parameter.location.IsLocation) ↔ _ :=
    exists_listHeld_and_iff (hget "parameters") fun _ hshort =>
      exists_mappingHeld_and_iff hshort fun _ hshort =>
        Parameter.exists_fits_iff hcomponents hshort
  have hbody := RequestBody.exists_optionHeld_iff (Entries.get entries "requestBody")
  have hcriteria := Criterion.exists_optionHeld_iff (hget "successCriteria")
  have houtputs := exists_outputs_iff (Entries.get entries "outputs")
  constructor
  · rintro ⟨step, h, hvalid⟩
    exact {
      id := h.id.given
      target := by
        rw [h.operationId, h.operationPath, h.workflowId]
        exact hvalid.target
      parameters := hparameters.1 ⟨_, h.parameters, hvalid.parameters⟩
      requestBody := hbody.1 ⟨_, h.requestBody⟩
      criteria := hcriteria.1 ⟨_, h.criteria⟩
      onSuccess :=
        (Action.exists_optionHeld_iff (hget "onSuccess")).1 ⟨_, h.onSuccess, hvalid.onSuccess⟩
      onFailure :=
        (Action.exists_optionHeld_iff (hget "onFailure")).1 ⟨_, h.onFailure, hvalid.onFailure⟩
      outputs := houtputs.1 ⟨_, h.outputs⟩ }
  · intro h
    obtain ⟨id, hid⟩ := (Entries.exists_hasText_iff hshort).2 h.id
    obtain ⟨outputs, houtputs⟩ := houtputs.2 h.outputs
    obtain ⟨parameters, hparameters, hlocations⟩ := hparameters.2 h.parameters
    obtain ⟨body, hbody⟩ := hbody.2 h.requestBody
    obtain ⟨criteria, hcriteria⟩ := hcriteria.2 h.criteria
    obtain ⟨success, hsuccess, hsuccessTypes⟩ :=
      (Action.exists_optionHeld_iff (hget "onSuccess")).2 h.onSuccess
    obtain ⟨failure, hfailure, hfailureTypes⟩ :=
      (Action.exists_optionHeld_iff (hget "onFailure")).2 h.onFailure
    -- the fields that are kept as they stand may hold anything
    exact ⟨⟨id, _, _, _, _, parameters, body, criteria, success, failure, outputs, _⟩,
      ⟨hid, houtputs, hparameters, hbody, hcriteria, hsuccess, hfailure, rfl, rfl, rfl, rfl, rfl⟩,
      ⟨h.target, hlocations, hsuccessTypes, hfailureTypes⟩⟩

/-- Entries are those of a workflow that satisfies the rules when they have the form of one. -/
theorem Workflow.exists_fits_iff {components : Value} (hcomponents : components.ShortInts)
    {entries : Entries} (hshort : (Value.map entries).ShortInts) :
    (∃ workflow, Workflow.Fits (Parameter.Fits components) workflow entries ∧ workflow.Valid) ↔
      Workflow.Form components entries := by
  have hget := Value.shortInts_get hshort
  have hsteps : (∃ steps, (Entries.get entries "steps").isNull = false ∧
      ListHeld (MappingHeld (Step.Fits (Parameter.Fits components))) steps
        (Entries.get entries "steps") ∧
      (steps.map (·.id)).Nodup ∧ ∀ step ∈ steps, step.Valid) ↔ _ :=
    exists_distinct_iff (hget "steps")
      (fun _ hshort => exists_mappingHeld_and_iff hshort fun _ hshort =>
        Step.exists_fits_iff hcomponents hshort)
      (by
        rintro step _ ⟨entries, rfl, hfits⟩
        exact hfits.id.text_eq)
  have hcriteria := Criterion.exists_optionHeld_iff (hget "successCriteria")
  have houtputs := exists_outputs_iff (Entries.get entries "outputs")
  constructor
  · rintro ⟨workflow, h, hvalid⟩
    exact {
      id := h.id.given
      steps := hsteps.1 ⟨_, h.given_steps, h.steps, hvalid.nodup, hvalid.steps⟩
      criteria := hcriteria.1 ⟨_, h.criteria⟩
      outputs := houtputs.1 ⟨_, h.outputs⟩ }
  · intro h
    obtain ⟨id, hid⟩ := (Entries.exists_hasText_iff hshort).2 h.id
    obtain ⟨outputs, houtputs⟩ := houtputs.2 h.outputs
    obtain ⟨steps, hgiven, hsteps, hnodup, hvalid⟩ := hsteps.2 h.steps
    obtain ⟨criteria, hcriteria⟩ := hcriteria.2 h.criteria
    exact ⟨⟨id, steps, _, _, _, criteria, outputs, _⟩,
      ⟨hid, houtputs, hgiven, hsteps, hcriteria, rfl, rfl, rfl, rfl⟩, ⟨hnodup, hvalid⟩⟩

/-- Entries are those of a document that satisfies the rules when they have the form of one. -/
theorem Document.exists_fits_iff {entries : Entries} (hshort : (Value.map entries).ShortInts) :
    (∃ document, Document.Fits document entries ∧ document.Valid) ↔ Document.Form entries := by
  have hget := Value.shortInts_get hshort
  -- no rule is about the description and the sources, hence the trivial parts
  have hinfo : (∃ info, MappingHeld Info.Fits info (Entries.get entries "info") ∧ True) ↔ _ :=
    exists_mappingHeld_and_iff (hget "info") fun _ hshort => by
      simpa using Info.exists_fits_iff hshort
  have hsources : (∃ sources, ListHeld (MappingHeld Source.Fits) sources
      (Entries.get entries "sourceDescriptions") ∧ ∀ source ∈ sources, True) ↔ _ :=
    exists_listHeld_and_iff (hget "sourceDescriptions") fun _ hshort =>
      exists_mappingHeld_and_iff hshort fun _ hshort => by
        simpa using Source.exists_fits_iff hshort
  have hworkflows : (∃ workflows, (Entries.get entries "workflows").isNull = false ∧
      ListHeld (MappingHeld (Workflow.Fits (Parameter.Fits (Entries.get entries "components"))))
        workflows (Entries.get entries "workflows") ∧
      (workflows.map (·.id)).Nodup ∧ ∀ workflow ∈ workflows, workflow.Valid) ↔ _ :=
    exists_distinct_iff (hget "workflows")
      (fun _ hshort => exists_mappingHeld_and_iff hshort fun _ hshort =>
        Workflow.exists_fits_iff (hget "components") hshort)
      (by
        rintro workflow _ ⟨entries, rfl, hfits⟩
        exact hfits.id.text_eq)
  constructor
  · rintro ⟨document, h, hvalid⟩
    obtain ⟨rest, hrest⟩ := hvalid.version
    exact {
      version := ⟨rest, hrest ▸ h.version⟩
      info := hinfo.1 ⟨_, h.info, trivial⟩
      sources := hsources.1 ⟨_, h.sources, fun _ _ => trivial⟩
      workflows := hworkflows.1 ⟨_, h.given_workflows, h.components ▸ h.workflows, hvalid.nodup,
        hvalid.workflows⟩ }
  · intro h
    obtain ⟨rest, hversion⟩ := h.version
    obtain ⟨info, hinfo, -⟩ := hinfo.2 h.info
    obtain ⟨sources, hsources, -⟩ := hsources.2 h.sources
    obtain ⟨workflows, hgiven, hworkflows, hnodup, hvalid⟩ := hworkflows.2 h.workflows
    have hinfoGiven : Entries.Given entries "info" := by
      obtain ⟨_, hmap, -⟩ := h.info
      rw [Entries.Given, hmap]
      rfl
    exact ⟨⟨_, info, workflows, sources, _, _⟩,
      ⟨hversion, hinfoGiven, hinfo, hgiven, hworkflows, hsources, rfl, rfl⟩,
      ⟨⟨rest, rfl⟩, hnodup, hvalid⟩⟩

end FlowCheck
