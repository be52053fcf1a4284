import FlowCheck.Api.Reader
import FlowCheck.Proofs.Value.Display
import Mathlib.Tactic.MkIffOfInductiveProp

/-!
# Which API descriptions can be read

Some values are neither accepted nor refused as API descriptions: the reading stops at them. It
looks up entries in `info`, and in `components` where a parameter refers to a reusable one, without
a check that they are mappings, and it makes texts of values with integers of any size.
`Api.Readable` says of the entries of a value what keeps the reading from stopping
(`Api.exists_read_eq_fault_iff`).
-/

namespace FlowCheck

open Result

/-- Entries can be looked up in the value: it is a mapping, or it counts as not given. -/
def Value.Searchable (value : Value) : Prop :=
  value.isGiven = true → ∃ entries, value = .map entries

/-- The entries that are found in a value. -/
def Value.searched : Value → Entries
  | .map entries => entries
  | _ => []

/-- In a mapping its own entries are found. -/
@[simp]
theorem Value.searched_map (entries : Entries) : (Value.map entries).searched = entries := rfl

namespace Api

/-! ## Parameters -/

/-- The name of the reusable parameter to which an entry of a parameter list refers. -/
def reusableName? (raw : Value) : Option String :=
  match Entries.get raw.searched "$ref" with
  | .str reference => (reusableStart.toList.isPrefixOf? reference.toList).map String.ofList
  | _ => none

/-- The mapping with a name among the reusable parameters. -/
def reusable? (components : Value) (name : String) : Option Entries :=
  match Entries.get (Entries.get components.searched "parameters").searched name with
  | .map target => some target
  | _ => none

/-- The mapping that describes the parameter of an entry, where all lookups are possible. -/
def described? (raw components : Value) : Option Entries :=
  match raw with
  | .map entries =>
    if (Entries.get entries "$ref").isNull then some entries
    else (reusableName? raw).bind (reusable? components)
  | _ => none

/-- The reading does not stop at an entry of a parameter list. -/
@[mk_iff]
structure ParameterReadable (raw components : Value) : Prop where
  /-- The reusable parameters can be searched, if the entry refers to one of them. -/
  searchable : (reusableName? raw).isSome →
    components.Searchable ∧ (Entries.get components.searched "parameters").Searchable
  /-- The name and the location of a parameter that has both have a text. -/
  shortInts : ∀ entries, described? raw components = some entries →
    Entries.has entries "name" → Entries.has entries "in" →
      (Entries.get entries "name").ShortInts ∧ (Entries.get entries "in").ShortInts

/-- The reading does not stop at a parameter list. -/
def ParametersReadable (raw components : Value) : Prop :=
  ∀ items, raw = .list items → ∀ item ∈ items, ParameterReadable item components

variable {value raw components : Value} {entries : Entries}

/-- Entries are looked up where a value can be searched. -/
theorem givenEntries_eq_ok_iff {found : Entries} :
    givenEntries value = .ok found ↔ value.Searchable ∧ value.searched = found := by
  cases value with
  | map entries =>
    simp only [givenEntries, Value.Searchable, Value.searched]
    split
    next => simp
    -- a mapping that counts as not given has no entries
    next hgiven => simp_all [Value.isGiven]
  | _ =>
    simp only [givenEntries, Value.Searchable, Value.searched]
    split <;> simp_all

/-- A reusable parameter is looked up where `components` and the parameters in it can be
searched. -/
theorem lookup_eq_ok_iff {name : String} {found : Option Entries} :
    (do
      let all ← givenEntries components
      let parameters ← givenEntries (Entries.get all "parameters")
      match Entries.get parameters name with
      | .map target => return some target
      | _ => return none) = .ok found ↔
      (components.Searchable ∧ (Entries.get components.searched "parameters").Searchable) ∧
        reusable? components name = found := by
  simp only [bind_eq_ok_iff, givenEntries_eq_ok_iff]
  have hresult :
      (match Entries.get (Entries.get components.searched "parameters").searched name with
      | .map target => (pure (some target) : Except Fault (Option Entries))
      | _ => pure none) = .ok (reusable? components name) := by
    rw [reusable?]
    split <;> simp_all [pure, Except.pure]
  constructor
  · rintro ⟨_, ⟨hcomponents, rfl⟩, _, ⟨hparameters, rfl⟩, hfound⟩
    exact ⟨⟨hcomponents, hparameters⟩, Except.ok.inj (hresult.symm.trans hfound)⟩
  · rintro ⟨⟨hcomponents, hparameters⟩, rfl⟩
    exact ⟨_, ⟨hcomponents, rfl⟩, _, ⟨hparameters, rfl⟩, hresult⟩

/-- An entry of a parameter list leads to the mapping that describes its parameter, where the
reusable parameters can be searched if there is need to. -/
theorem parameterEntries_eq_ok_iff {found : Option Entries} :
    parameterEntries raw components = .ok found ↔
      ((reusableName? raw).isSome →
        components.Searchable ∧ (Entries.get components.searched "parameters").Searchable) ∧
      described? raw components = found := by
  cases raw with
  | map entries =>
    cases href : Entries.get entries "$ref" with
    | str reference =>
      cases hname : reusableStart.toList.isPrefixOf? reference.toList with
      | none => simp [parameterEntries, reusableName?, described?, href, hname, Value.isNull]
      | some name =>
        simp only [parameterEntries, reusableName?, described?, Value.searched_map, href, hname]
        refine lookup_eq_ok_iff.trans ?_
        simp [Value.isNull]
    | _ => simp [parameterEntries, reusableName?, described?, href, Value.isNull]
  | _ => simp [parameterEntries, reusableName?, described?, Value.searched, Entries.get]

/-- The text of a field that is there, or the empty text, can be made when the field is short. -/
theorem exists_fieldText_iff {field : String} :
    (∃ text, fieldText entries field = .ok text) ↔ (Entries.get entries field).ShortInts := by
  rw [fieldText, Entries.get]
  cases Entries.find? entries field with
  | none => exact iff_of_true ⟨_, rfl⟩ trivial
  | some value => exact Value.exists_text_iff

/-- The parameter of an entry is read when the reading does not stop at the entry. -/
theorem exists_parameter?_iff :
    (∃ parameter, parameter? raw components = .ok parameter) ↔
      ParameterReadable raw components := by
  rw [parameterReadable_iff, parameter?]
  simp only [bind_eq_ok_iff, parameterEntries_eq_ok_iff, and_assoc, exists_and_left,
    exists_eq_left']
  refine and_congr_right fun _ => ?_
  cases described? raw components with
  | none => simp [pure_eq_ok_iff]
  | some entries =>
    -- texts are made only where both fields are there
    simp only [Option.some.injEq, forall_eq', Entries.has, Entries.get]
    cases Entries.find? entries "name" <;> cases Entries.find? entries "in"
    case some.some name location =>
      simp only [bind_eq_ok_iff, pure_eq_ok_iff, Option.isSome_some, Option.getD_some,
        forall_const, ← Value.exists_text_iff]
      grind
    all_goals simp [pure_eq_ok_iff]

/-- The parameters of a list are read when the reading does not stop at any entry. -/
theorem exists_parameters_iff :
    (∃ found, parameters raw components = .ok found) ↔ ParametersReadable raw components := by
  cases raw with
  | list items =>
    simp only [parameters, exists_bind_pure_iff, exists_mapM_eq_ok_iff, exists_parameter?_iff]
    simp [ParametersReadable]
  | _ => exact iff_of_true ⟨_, rfl⟩ (by simp [ParametersReadable])

/-! ## Paths -/

/-- The reading does not stop at an entry of a path item. -/
@[mk_iff]
structure OperationReadable (entry : Value × Value) (components : Value) : Prop where
  /-- The key has a text. -/
  key : entry.1.ShortInts
  /-- If the text names a method, the reading does not stop at the parameters of the operation. -/
  parameters : ∀ name, entry.1.text = .ok name → (Method.ofText? name).isSome →
    ∀ entries, entry.2 = .map entries →
      ParametersReadable (Entries.get entries "parameters") components

/-- The reading does not stop at an entry of the paths. -/
@[mk_iff]
structure PathReadable (entry : Value × Value) (components : Value) : Prop where
  /-- The key has a text. -/
  key : entry.1.ShortInts
  /-- The reading does not stop at the shared parameters. -/
  parameters : ParametersReadable (Entries.get entry.2.searched "parameters") components
  /-- The reading does not stop at any entry of the path item. -/
  operations : ∀ operation ∈ entry.2.searched, OperationReadable operation components

/-- An operation is read when the reading does not stop at its parameters. -/
theorem exists_operation_iff {shared : List ApiParameter} :
    (∃ found, operation entries shared components = .ok found) ↔
      ParametersReadable (Entries.get entries "parameters") components := by
  rw [operation, exists_bind_pure_iff, exists_parameters_iff]

/-- An entry of a path item is taken up when the reading does not stop at it. -/
theorem exists_addOperation_iff {shared : List ApiParameter}
    {operations : List (Method × Operation)} {entry : Value × Value} :
    (∃ next, addOperation shared components operations entry = .ok next) ↔
      OperationReadable entry components := by
  obtain ⟨key, value⟩ := entry
  rw [operationReadable_iff, ← Value.exists_text_iff, addOperation]
  simp only [bind_eq_ok_iff]
  cases key.text with
  | error fault => simp
  | ok name =>
    simp only [Except.ok.injEq, exists_eq_left', exists_eq', true_and, forall_eq']
    -- only a mapping under the name of a method is an operation
    cases Method.ofText? name with
    | none => simp [pure_eq_ok_iff]
    | some method =>
      cases value with
      | map entries =>
        rw [exists_bind_pure_iff, exists_operation_iff]
        simp
      | _ => simp [pure_eq_ok_iff]

/-- A path item is read when the reading does not stop at its shared parameters or its entries. -/
theorem exists_pathItem_iff :
    (∃ item, pathItem entries components = .ok item) ↔
      ParametersReadable (Entries.get entries "parameters") components ∧
        ∀ entry ∈ entries, OperationReadable entry components := by
  have hoperations (shared : List ApiParameter) :
      (∃ operations, entries.foldlM (addOperation shared components) [] = .ok operations) ↔
        ∀ entry ∈ entries, OperationReadable entry components := by
    refine exists_foldlM_eq_ok_iff (fun _ _ _ => ?_) []
    exact exists_addOperation_iff
  rw [pathItem, ← exists_parameters_iff]
  simp only [bind_eq_ok_iff, pure_eq_ok_iff]
  constructor
  · rintro ⟨item, shared, hshared, operations, hoperation, -⟩
    exact ⟨⟨shared, hshared⟩, (hoperations shared).1 ⟨operations, hoperation⟩⟩
  · rintro ⟨⟨shared, hshared⟩, hentries⟩
    obtain ⟨operations, hoperation⟩ := (hoperations shared).2 hentries
    exact ⟨_, shared, hshared, operations, hoperation, rfl⟩

/-- An entry of the paths is taken up when it is no mapping or the reading does not stop at it. -/
theorem exists_addPath_iff {paths : List (String × PathItem)} {entry : Value × Value} :
    (∃ next, addPath components paths entry = .ok next) ↔
      ∀ entries, entry.2 = .map entries → PathReadable entry components := by
  obtain ⟨key, value⟩ := entry
  cases value with
  | map entries =>
    rw [pathReadable_iff, Value.searched_map, ← exists_pathItem_iff, ← Value.exists_text_iff]
    simp only [addPath, bind_eq_ok_iff, pure_eq_ok_iff]
    grind
  | _ => exact iff_of_true ⟨_, rfl⟩ (by simp)

/-! ## The whole -/

/-- The reading does not stop at the entries of an API description. -/
@[mk_iff]
structure Readable (entries : Entries) : Prop where
  /-- The version of the format has a text. -/
  version : (Entries.get entries "openapi").ShortInts
  /-- The reading does not stop at any path item. -/
  paths : ∀ entry ∈ (Entries.get entries "paths").searched,
    ∀ item, entry.2 = .map item → PathReadable entry (Entries.get entries "components")
  /-- The description of the document can be searched. -/
  info : (Entries.get entries "info").Searchable
  /-- The title has a text. -/
  title : (Entries.get (Entries.get entries "info").searched "title").ShortInts
  /-- The version of the document has a text. -/
  release : (Entries.get (Entries.get entries "info").searched "version").ShortInts

/-- What is read from the entries of an API description whose paths can be searched. -/
def contents (entries : Entries) : Except Fault Api := do
  let paths ← (Entries.get entries "paths").searched.foldlM
    (addPath (Entries.get entries "components")) []
  let version ← (Entries.get entries "openapi").text
  let info ← givenEntries (Entries.get entries "info")
  let title ← fieldText info "title"
  let release ← fieldText info "version"
  return ⟨version, title, release, paths⟩

/-- Everything is read when the reading does not stop at the entries. -/
theorem exists_contents_iff : (∃ api, contents entries = .ok api) ↔ Readable entries := by
  have hpaths : (∃ paths, (Entries.get entries "paths").searched.foldlM
        (addPath (Entries.get entries "components")) [] = .ok paths) ↔
      ∀ entry ∈ (Entries.get entries "paths").searched,
        ∀ item, entry.2 = .map item → PathReadable entry (Entries.get entries "components") := by
    refine exists_foldlM_eq_ok_iff (fun _ _ _ => ?_) []
    exact exists_addPath_iff
  rw [readable_iff, ← hpaths, ← Value.exists_text_iff]
  simp only [contents, bind_eq_ok_iff, givenEntries_eq_ok_iff, pure_eq_ok_iff,
    ← exists_fieldText_iff]
  constructor
  · rintro ⟨_, paths, hpaths, version, hversion, _, ⟨hinfo, rfl⟩, title, htitle, release,
      hrelease, rfl⟩
    exact ⟨⟨version, hversion⟩, ⟨paths, hpaths⟩, hinfo, ⟨title, htitle⟩, ⟨release, hrelease⟩⟩
  · rintro ⟨⟨version, hversion⟩, ⟨paths, hpaths⟩, hinfo, ⟨title, htitle⟩, ⟨release, hrelease⟩⟩
    exact ⟨_, paths, hpaths, version, hversion, _, ⟨hinfo, rfl⟩, title, htitle, release,
      hrelease, rfl⟩

/-- The entries name a version of the format, and have paths that can be searched. This is all that
is checked before the contents are read. -/
structure IsDescription (entries : Entries) : Prop where
  /-- There is a version. -/
  version : Entries.has entries "openapi"
  /-- The paths can be searched. -/
  paths : (Entries.get entries "paths").Searchable

/-- After a part that may stop, the rest may stop too. -/
theorem stop_bind {α β : Type} (x : Except Fault α) (f : α → Except Fault β) :
    (Fault.stop x >>= fun a => Fault.stop (f a)) = Fault.stop (x >>= f) := by
  cases x <;> rfl

/-- What counts as not given has no entries. -/
theorem searched_eq_nil (h : value.isGiven = false) : value.searched = [] := by
  cases value with
  | map entries => simpa [Value.isGiven] using h
  | _ => rfl

/-- What passes the first checks is read. -/
theorem IsDescription.ofValue_eq (h : IsDescription entries) :
    ofValue (.map entries) = Fault.stop (contents entries) := by
  obtain ⟨version, hversion⟩ := Option.isSome_iff_exists.1 h.version
  have hget : Entries.get entries "openapi" = version := by
    rw [Entries.get, hversion, Option.getD_some]
  simp only [ofValue, hversion, contents, hget, ← stop_bind]
  by_cases hgiven : (Entries.get entries "paths").isGiven = true
  · obtain ⟨paths, hpaths⟩ := h.paths hgiven
    rw [hpaths] at hgiven
    simp only [hpaths, hgiven]
    rfl
  · rw [searched_eq_nil (Bool.eq_false_iff.2 hgiven), if_neg hgiven]
    rfl

/-- What does not pass the first checks is refused. -/
theorem exists_ofValue_eq_refuse (h : ∀ entries, value = .map entries → ¬ IsDescription entries) :
    ∃ reason, ofValue value = LoadError.refuse reason := by
  cases value with
  | map entries =>
    cases hversion : Entries.find? entries "openapi" with
    | none =>
      refine ⟨.missingField "openapi" "OpenAPI document", ?_⟩
      simp only [ofValue, hversion]
    | some version =>
      -- the version is there, so that the paths are given and no mapping
      have hpaths : ¬ (Entries.get entries "paths").Searchable := fun hpaths =>
        h entries rfl ⟨by rw [Entries.has, hversion]; rfl, hpaths⟩
      obtain ⟨hgiven, hmap⟩ := Classical.not_imp.1 hpaths
      refine ⟨.pathsNotMapping, ?_⟩
      simp only [ofValue, hversion, hgiven, if_true]
      split
      next paths hmatch => exact absurd ⟨paths, hmatch⟩ hmap
      next => rfl
  | _ => exact ⟨_, rfl⟩

/-- The conditions on an API description accept it or refuse it. -/
theorem accept_cases (api : Api) :
    (∃ accepted, accept api = .ok accepted) ∨ ∃ reason, accept api = LoadError.refuse reason := by
  rw [accept]
  split
  · exact .inr ⟨_, rfl⟩
  · split
    · exact .inr ⟨_, rfl⟩
    · exact .inl ⟨api, rfl⟩

/-- Reading gives an API description, refuses the value, or stops, and it stops exactly where the
value passes the first checks and its contents cannot be read. -/
theorem read_cases (value : Value) :
    ((∃ api, read value = .ok api) ∨ ∃ reason, read value = LoadError.refuse reason) ∧
        (∀ entries, value = .map entries → IsDescription entries → Readable entries) ∨
      (∃ fault, read value = .error (.fault fault)) ∧
        ∃ entries, value = .map entries ∧ IsDescription entries ∧ ¬ Readable entries := by
  by_cases h : ∃ entries, value = .map entries ∧ IsDescription entries
  · obtain ⟨entries, rfl, hdescription⟩ := h
    rw [read, hdescription.ofValue_eq]
    cases hcontents : contents entries with
    | ok api =>
      refine .inl ⟨accept_cases api, ?_⟩
      rintro _ ⟨rfl⟩ -
      exact exists_contents_iff.1 ⟨api, hcontents⟩
    | error fault =>
      refine .inr ⟨⟨fault, rfl⟩, entries, rfl, hdescription, ?_⟩
      rw [← exists_contents_iff, hcontents]
      simp
  · obtain ⟨reason, hrefuse⟩ := exists_ofValue_eq_refuse
      fun entries hvalue hdescription => h ⟨entries, hvalue, hdescription⟩
    refine .inl ⟨.inr ⟨reason, by rw [read, hrefuse]; rfl⟩, ?_⟩
    exact fun entries hvalue hdescription => absurd ⟨entries, hvalue, hdescription⟩ h

/-- The reading stops at a value exactly if it passes the first checks and its contents cannot be
read. -/
theorem exists_read_eq_fault_iff :
    (∃ fault, read value = .error (.fault fault)) ↔
      ∃ entries, value = .map entries ∧ IsDescription entries ∧ ¬ Readable entries := by
  rcases read_cases value with ⟨⟨api, hok⟩ | ⟨reason, hrefuse⟩, hreadable⟩ | ⟨hfault, hentries⟩
  · refine iff_of_false (by simp [hok]) ?_
    rintro ⟨entries, hvalue, hdescription, hnot⟩
    exact hnot (hreadable entries hvalue hdescription)
  · refine iff_of_false (by simp [hrefuse, LoadError.refuse]) ?_
    rintro ⟨entries, hvalue, hdescription, hnot⟩
    exact hnot (hreadable entries hvalue hdescription)
  · exact iff_of_true hfault hentries

end Api

end FlowCheck
