import FlowCheck.Proofs.Api.Operations

/-!
# Declared parameters

An entry of a parameter list declares the parameter that a mapping describes: the entry itself, or
the reusable parameter to which it refers (`Api.parameter?_eq_some_iff`). An operation has the
parameters that its own list declares, and those that its path item shares and that are not declared
again with the same name and the same location (`Operation.Merges`, `Api.merges_of_read`).
-/

namespace FlowCheck

open Result

/-- The mapping describes the parameter. A request without it is not valid only if the mapping says
so by a truth value. -/
structure ApiParameter.Fits (parameter : ApiParameter) (entries : Entries) : Prop where
  has_name : Entries.has entries "name" = true
  has_location : Entries.has entries "in" = true
  name : (Entries.get entries "name").text = .ok parameter.name
  location : (Entries.get entries "in").text = .ok parameter.location
  required : parameter.required = true ↔ Entries.get entries "required" = .bool true
  description : Entries.get entries "description" = parameter.description

/-- A mapping describes one parameter. -/
theorem ApiParameter.Fits.unique {first second : ApiParameter} {entries : Entries}
    (hfirst : first.Fits entries) (hsecond : second.Fits entries) : first = second := by
  obtain ⟨name, location, required, description⟩ := first
  obtain ⟨name', location', required', description'⟩ := second
  obtain rfl : name = name' := Except.ok.inj (hfirst.name.symm.trans hsecond.name)
  obtain rfl : location = location' := Except.ok.inj (hfirst.location.symm.trans hsecond.location)
  obtain rfl : required = required' :=
    Bool.eq_iff_iff.2 (hfirst.required.trans hsecond.required.symm)
  obtain rfl : description = description' := hfirst.description.symm.trans hsecond.description
  rfl

/-- The operation has its own parameters, then the shared ones that none of them overrides. A
parameter that is asked for by name, with or without a location, is the first of its own ones, or
else the first shared one. -/
structure Operation.Merges (operation : Operation) (own shared : List ApiParameter) : Prop where
  parameters_eq : operation.parameters =
    own ++ shared.filter fun parameter => ∀ other ∈ own, other.key ≠ parameter.key
  parameter?_eq : ∀ name location, operation.parameter? name (some location) =
    (own.find? (·.key = (name, location))).or (shared.find? (·.key = (name, location)))
  parameter?_none : ∀ name, operation.parameter? name none =
    (own.find? (·.name = name)).or (shared.find? (·.name = name))
  exists_key_iff : ∀ key, (∃ parameter ∈ operation.parameters, parameter.key = key) ↔
    (∃ parameter ∈ own, parameter.key = key) ∨ ∃ parameter ∈ shared, parameter.key = key

namespace Api

variable {value raw components : Value} {api : Api} {entries : Entries} {item : PathItem}
  {path : String} {own shared : List ApiParameter} {operation : Operation}

/-! ## Lists of parameters -/

/-- What is found at an entry of a parameter list is a parameter exactly if the mapping to which the
entry leads describes it. -/
theorem parameter?_eq_some_iff {found : Option ApiParameter}
    (h : parameter? raw components = .ok found) {parameter : ApiParameter} :
    found = some parameter ↔
      ∃ entries, described? raw components = some entries ∧ parameter.Fits entries := by
  obtain ⟨described, hdescribed, h⟩ := bind_eq_ok_iff.1 h
  rw [(parameterEntries_eq_ok_iff.1 hdescribed).2]
  cases described with
  | none => simp [← pure_eq_ok_iff.1 h]
  | some entries =>
    simp only [Option.some.injEq, exists_eq_left']
    dsimp only at h
    split at h
    · next name location hname hlocation =>
      simp only [bind_eq_ok_iff, pure_eq_ok_iff] at h
      obtain ⟨nameText, hnameText, locationText, hlocationText, hfound⟩ := h
      obtain ⟨made, rfl⟩ : ∃ made, found = some made := ⟨_, hfound.symm⟩
      have hfits : made.Fits entries := by
        obtain rfl := Option.some.inj hfound
        exact {
          has_name := by rw [Entries.has, hname, Option.isSome_some]
          has_location := by rw [Entries.has, hlocation, Option.isSome_some]
          name := by rw [Entries.get, hname, Option.getD_some, hnameText]
          location := by rw [Entries.get, hlocation, Option.getD_some, hlocationText]
          required := by dsimp only; split <;> simp_all
          description := rfl }
      exact ⟨fun hsame => Option.some.inj hsame ▸ hfits,
        fun hother => congrArg some (hfits.unique hother)⟩
    · next hmissing =>
      -- a mapping that describes a parameter has both fields
      rw [← pure_eq_ok_iff.1 h]
      refine iff_of_false nofun fun hfits => ?_
      obtain ⟨name, hname⟩ := Option.isSome_iff_exists.1 hfits.has_name
      obtain ⟨location, hlocation⟩ := Option.isSome_iff_exists.1 hfits.has_location
      exact hmissing name location hname hlocation

/-- The parameters of a list are what is found at its entries, in their order. -/
theorem parameters_list_eq_ok_iff {items : List Value} :
    parameters (.list items) components = .ok own ↔
      ∃ found, List.Forall₂ (fun item parameter => parameter? item components = .ok parameter) items
        found ∧ found.filterMap id = own := by
  simp only [parameters, bind_eq_ok_iff, mapM_eq_ok_iff, pure_eq_ok_iff]

/-! ## Own and shared parameters -/

/-- A search by name and location in merged lists goes through the own parameters first. The shared
ones that are left out would not be found. -/
theorem find?_mergeParameters {p : ApiParameter → Bool}
    (hkey : ∀ x y : ApiParameter, x.key = y.key → p x = p y) :
    (mergeParameters own shared).find? p = (own.find? p).or (shared.find? p) := by
  rw [mergeParameters, List.find?_append]
  cases hown : own.find? p with
  | some => rfl
  | none =>
    rw [Option.none_or, Option.none_or, List.find?_filter]
    rw [List.find?_eq_none] at hown
    refine congrArg shared.find? (funext fun parameter => ?_)
    by_cases hp : p parameter = true
    · have hfree : own.any (·.key == parameter.key) = false := by
        rw [List.any_eq_false]
        intro other hother hsame
        exact hown other hother ((hkey _ _ (beq_iff_eq.1 hsame)).trans hp)
      simp [hfree, hp]
    · simp [Bool.eq_false_iff.2 hp]

/-- The merged lists have a parameter with a name and a location exactly if one of them has. -/
theorem exists_key_mergeParameters_iff {key : String × String} :
    (∃ parameter ∈ mergeParameters own shared, parameter.key = key) ↔
      (∃ parameter ∈ own, parameter.key = key) ∨ ∃ parameter ∈ shared, parameter.key = key := by
  simp only [mergeParameters, List.mem_append, List.mem_filter, Bool.not_eq_true',
    List.any_eq_false, beq_iff_eq]
  constructor
  · rintro ⟨parameter, hmem | ⟨hmem, -⟩, hkey⟩
    · exact .inl ⟨parameter, hmem, hkey⟩
    · exact .inr ⟨parameter, hmem, hkey⟩
  · rintro (⟨parameter, hmem, hkey⟩ | ⟨parameter, hmem, hkey⟩)
    · exact ⟨parameter, .inl hmem, hkey⟩
    · -- a shared parameter is left out only where an own one has its key
      by_cases hown : ∃ other ∈ own, other.key = key
      · obtain ⟨other, hother, hsame⟩ := hown
        exact ⟨other, .inl hother, hsame⟩
      · exact ⟨parameter, .inr ⟨hmem, fun other hother hsame =>
          hown ⟨other, hother, hsame.trans hkey⟩⟩, hkey⟩

/-- An operation whose parameters are merged from two lists looks through both. -/
theorem merges_of_parameters_eq (h : operation.parameters = mergeParameters own shared) :
    operation.Merges own shared := by
  have hkey (name location : String) :
      (fun parameter : ApiParameter =>
        parameter.name == name && (some location).all (parameter.location == ·)) =
      fun parameter => decide (parameter.key = (name, location)) := by
    funext parameter
    rw [Bool.eq_iff_iff]
    simp [ApiParameter.key]
  have hname (name : String) :
      (fun parameter : ApiParameter =>
        parameter.name == name && none.all (parameter.location == ·)) =
      fun parameter => decide (parameter.name = name) := by
    funext parameter
    rw [Bool.eq_iff_iff]
    simp
  constructor
  · refine h.trans (congrArg (own ++ ·) (List.filter_congr fun parameter _ => ?_))
    rw [Bool.eq_iff_iff]
    simp
  · intro name location
    rw [Operation.parameter?, hkey, h]
    exact find?_mergeParameters fun x y hxy => by rw [hxy]
  · intro name
    rw [Operation.parameter?, hname, h]
    exact find?_mergeParameters fun x y hxy => by rw [(Prod.mk.inj hxy).1]
  · intro key
    rw [h]
    exact exists_key_mergeParameters_iff

/-- An operation that is read has its own parameters and the shared ones. -/
theorem exists_merges (h : Api.operation entries shared components = .ok operation) :
    ∃ own, parameters (Entries.get entries "parameters") components = .ok own ∧
      operation.parameters = mergeParameters own shared := by
  obtain ⟨own, hown, h⟩ := bind_eq_ok_iff.1 h
  obtain rfl := pure_eq_ok_iff.1 h
  exact ⟨own, hown, rfl⟩

/-- In an API description that is read, each operation of a path item has its own parameters and
those of the path item. What an operation declares changes nothing elsewhere: another description
with the same shared and reusable parameters has the same parameters for the path item, and the same
operation with each method under which it has the same mapping. -/
theorem merges_of_read (h : read value = .ok api) (hitem : api.pathItem? path = some item) :
    ∃ entries, pathEntries? value path = some entries ∧
      parameters (Entries.get entries "parameters") (componentsOf value) = .ok item.parameters ∧
      (∀ method operation, item.operation? method = some operation →
        ∃ call own, operationEntries? entries method = some call ∧
          parameters (Entries.get call "parameters") (componentsOf value) = .ok own ∧
          operation.Merges own item.parameters) ∧
      ∀ other changed api' path' item', read other = .ok api' →
        api'.pathItem? path' = some item' → pathEntries? other path' = some changed →
        componentsOf other = componentsOf value →
        Entries.get changed "parameters" = Entries.get entries "parameters" →
          item'.parameters = item.parameters ∧
          ∀ method, operationEntries? changed method = operationEntries? entries method →
            item'.operation? method = item.operation? method := by
  obtain ⟨entries, hentries, hpathItem⟩ := (pathItem?_eq_some_iff h).1 hitem
  have hshared := parameters_of_pathItem hpathItem
  refine ⟨entries, hentries, hshared, ?_, ?_⟩
  · intro method operation hoperation
    obtain ⟨call, hcall, hread⟩ := (operation?_eq_some_iff hpathItem).1 hoperation
    obtain ⟨own, hown, hmerged⟩ := exists_merges hread
    exact ⟨call, own, hcall, hown, merges_of_parameters_eq hmerged⟩
  · intro other changed api' path' item' hother hitem' hchanged hcomponents hparameters
    obtain ⟨_, hentries', hpathItem'⟩ := (pathItem?_eq_some_iff hother).1 hitem'
    obtain rfl := Option.some.inj (hchanged.symm.trans hentries')
    rw [hcomponents] at hpathItem'
    -- the shared parameters are read from the same entries, with the same reusable ones
    have hsame : item'.parameters = item.parameters := by
      have hshared' := parameters_of_pathItem hpathItem'
      rw [hparameters] at hshared'
      exact Except.ok.inj (hshared'.symm.trans hshared)
    refine ⟨hsame, fun method hmethod => Option.ext fun operation => ?_⟩
    rw [operation?_eq_some_iff hpathItem', operation?_eq_some_iff hpathItem, hmethod, hsame]

/-- The value of an API description whose only path shares `limit` and `trace` in the query. The
operation that reads declares the given parameters, and the one that writes declares none. -/
def sharingApi (own : List (String × String)) : Value :=
  let declaration (key : String × String) : Value :=
    .map [(.str "name", .str key.1), (.str "in", .str key.2)]
  let shared := [("limit", "query"), ("trace", "query")]
  let item : Value := .map [(.str "parameters", .list (shared.map declaration)),
    (.str "get", .map [(.str "parameters", .list (own.map declaration))]), (.str "put", .map [])]
  .map [(.str "openapi", .str "3.0.3"), (.str "paths", .map [(.str "/pets", item)])]

/-- An operation overrides `limit` in the query. It declares `trace` in a header, which overrides
nothing. The other operation is the same as in a description without all this. -/
theorem merges_of_read_sharingApi :
    ∃ api item reading writing api' item',
      read (sharingApi [("trace", "header"), ("limit", "query")]) = .ok api ∧
      api.pathItem? "/pets" = some item ∧
      item.operation? .get = some reading ∧ item.operation? .put = some writing ∧
      reading.parameters.map (·.key) =
        [("trace", "header"), ("limit", "query"), ("trace", "query")] ∧
      writing.parameters = item.parameters ∧
      (∃ own, own.length = 2 ∧ reading.Merges own item.parameters) ∧
      read (sharingApi []) = .ok api' ∧ api'.pathItem? "/pets" = some item' ∧
      item'.parameters = item.parameters ∧ item'.operation? .put = some writing := by
  have hrun : ∃ api item reading writing,
      read (sharingApi [("trace", "header"), ("limit", "query")]) = .ok api ∧
      api.pathItem? "/pets" = some item ∧
      item.operation? .get = some reading ∧ item.operation? .put = some writing ∧
      reading.parameters.map (·.key) =
        [("trace", "header"), ("limit", "query"), ("trace", "query")] ∧
      writing.parameters = item.parameters :=
    ⟨_, _, _, _, rfl, rfl, rfl, rfl, rfl, rfl⟩
  have hplain : ∃ api item, read (sharingApi []) = .ok api ∧ api.pathItem? "/pets" = some item :=
    ⟨_, _, rfl, rfl⟩
  obtain ⟨api, item, reading, writing, hread, hitem, hreading, hwriting, hkeys, hwritten⟩ := hrun
  obtain ⟨api', item', hplain, hitem'⟩ := hplain
  obtain ⟨entries, hentries, -, hmerges, hothers⟩ := merges_of_read hread hitem
  obtain ⟨call, own, hcall, hown, hreadingMerges⟩ := hmerges .get reading hreading
  obtain rfl : _ = entries := Option.some.inj hentries
  obtain rfl : _ = call := Option.some.inj hcall
  obtain rfl : _ = own := Except.ok.inj hown
  obtain ⟨hsame, hoperations⟩ := hothers _ _ _ _ _ hplain hitem' rfl rfl rfl
  exact ⟨api, item, reading, writing, api', item', hread, hitem, hreading, hwriting, hkeys,
    hwritten, ⟨_, rfl, hreadingMerges⟩, hplain, hitem', hsame,
    (hoperations .put rfl).trans hwriting⟩

end Api

end FlowCheck
