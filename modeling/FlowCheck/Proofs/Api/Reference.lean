import FlowCheck.Proofs.Api.Parameters
import FlowCheck.Proofs.Consistency.Call

/-!
# References to reusable parameters

A reusable parameter may itself be a reference to another one, so that an entry of a parameter list
leads to the mapping that describes its parameter by any number of references (`Api.Leads`). Reading
follows at most one of them. `Api.operation_of_leads` says what an operation has of an entry: the
parameter that the last mapping describes if at most one reference leads there, and otherwise what
the first reusable parameter describes, although it is a reference.
-/

namespace FlowCheck

open Result

/-- Wherever a step calls the operation, the check of its parameters takes this one into account: it
is an error if the step lacks the parameter, and an error if the step gives it in another
location. -/
def Operation.Checks (operation : Operation) (parameter : ApiParameter) : Prop :=
  ∀ value document catalog workflow step hit, Document.read value = .ok document →
    workflow ∈ document.workflows → step ∈ workflow.steps →
    catalog.operationOf step = .ok (some hit) → hit.endpoint.operation = operation →
      ∃ findings, checkParameters document catalog = .ok findings ∧
        (IsMissing step.parameters operation.parameters parameter →
          missingParameter (workflow.placeOf step) hit.source parameter ∈ findings.errors) ∧
        ∀ given ∈ step.parameters, given.Misplaces operation.parameters parameter →
          locationMismatch (workflow.placeOf step) hit.source given parameter ∈ findings.errors

/-- The parameters of an operation are checked. -/
theorem Operation.checks_of_mem {operation : Operation} {parameter : ApiParameter}
    (hmem : parameter ∈ operation.parameters) : operation.Checks parameter := by
  rintro value document catalog workflow step hit hread hworkflow hstep hhit rfl
  have hvalid := (Document.read_eq_ok_iff.1 hread).2
  have hentry : (workflow.placeOf step, step) ∈ document.placedSteps :=
    Document.mem_placedSteps.2 ⟨workflow, hworkflow, step, hstep, rfl⟩
  obtain ⟨findings, hfindings⟩ := exists_checkParameters hvalid catalog
  -- the errors at the place of the step are those about its call
  have herror {error : ErrorFinding}
      (h : error ∈ (step.callFindings (workflow.placeOf step) hit).errors) :
      error ∈ findings.errors := by
    rw [← hvalid.about_checkParameters hfindings hentry hhit] at h
    exact List.mem_of_mem_filter h
  refine ⟨findings, hfindings, fun hmissing => herror ?_, fun given hgiven hmisplaces => herror ?_⟩
  · rw [Step.errors_callFindings]
    refine List.mem_append_left _ (List.mem_map_of_mem ?_)
    exact List.mem_filter.2 ⟨hmem, decide_eq_true hmissing⟩
  · rw [Step.errors_callFindings]
    refine List.mem_append_right _ (List.mem_flatMap.2 ⟨given, hgiven, ?_⟩)
    rw [hmisplaces.findings_eq]
    exact List.mem_cons_self

namespace Api

/-- The value leads to a mapping by references to reusable parameters with the given names, one
after the other. The last mapping is no reference. -/
inductive Leads (components : Value) : List String → Value → Entries → Prop where
  /-- The mapping itself is no reference. -/
  | here {entries : Entries} (href : Entries.get entries "$ref" = .null) :
    Leads components [] (.map entries) entries
  /-- The mapping refers to the reusable parameter with the first name, which leads further. -/
  | next {entries target final : Entries} {name : String} {names : List String}
      (href : Entries.get entries "$ref" = .str (reusableStart ++ name))
      (htarget : reusable? components name = some target)
      (hrest : Leads components names (.map target) final) :
    Leads components (name :: names) (.map entries) final

variable {value raw components : Value} {api : Api} {path : String} {method : Method}
  {operation : Operation} {entries final : Entries} {name : String} {names : List String}

/-- A reference to a reusable parameter is followed. -/
theorem described?_of_reference (href : Entries.get entries "$ref" = .str (reusableStart ++ name)) :
    described? (.map entries) components = reusable? components name := by
  have hname : reusableName? (.map entries) = some name := by
    simp only [reusableName?, Value.searched_map, href, String.toList_append,
      Text.isPrefixOf?_append, Option.map_some, String.ofList_toList]
  rw [described?, href, hname]
  rfl

/-- At most one reference is followed when the parameter of an entry is looked for. -/
theorem Leads.described?_eq (h : Leads components names raw final) (hlength : names.length ≤ 1) :
    described? raw components = some final := by
  cases h with
  | here href =>
    rw [described?, href]
    rfl
  | next href htarget hrest =>
    rw [described?_of_reference href, htarget]
    cases hrest with
    | here => rfl
    | next => simp at hlength

/-- Where more than one reference would have to be followed, the first one leads to a mapping that
is a reference. -/
theorem Leads.described?_cons {first second : String} {rest : List String}
    (h : Leads components (first :: second :: rest) raw final) :
    ∃ target, reusable? components first = some target ∧
      Entries.get target "$ref" = .str (reusableStart ++ second) ∧
      described? raw components = some target := by
  cases h with
  | next href htarget hrest =>
    refine ⟨_, htarget, ?_, (described?_of_reference href).trans htarget⟩
    cases hrest with
    | next href' => exact href'

/-- A mapping describes a parameter if its name and its location have a text. -/
theorem exists_fits (hname : Entries.has entries "name") (hlocation : Entries.has entries "in")
    (hnameInts : (Entries.get entries "name").ShortInts)
    (hlocationInts : (Entries.get entries "in").ShortInts) :
    ∃ parameter : ApiParameter, parameter.Fits entries := by
  classical
  obtain ⟨name, hnameText⟩ := Value.exists_text hnameInts
  obtain ⟨location, hlocationText⟩ := Value.exists_text hlocationInts
  exact ⟨⟨name, location, Entries.get entries "required" = .bool true,
    Entries.get entries "description"⟩, hname, hlocation, hnameText, hlocationText,
    decide_eq_true_iff, rfl⟩

/-- In an operation that is read, an entry of the parameter list that leads to the description of a
parameter by at most one reference gives this parameter, which is then checked. An entry that leads
there by more references gives what the mapping behind the first of them describes. This mapping is
a reference, so that in general it describes nothing. -/
theorem operation_of_leads (h : read value = .ok api)
    (hoperation : api.operation? path method = some operation) :
    ∃ entries call, pathEntries? value path = some entries ∧
      operationEntries? entries method = some call ∧
      ∀ items, Entries.get call "parameters" = .list items → ∀ item ∈ items,
        ∀ names final, Leads (componentsOf value) names item final →
          Entries.has final "name" → Entries.has final "in" →
            (names.length ≤ 1 → ∃ parameter ∈ operation.parameters,
              parameter.Fits final ∧ operation.Checks parameter) ∧
            ∀ first second rest, names = first :: second :: rest →
              ∃ target found, reusable? (componentsOf value) first = some target ∧
                Entries.get target "$ref" = .str (reusableStart ++ second) ∧
                parameter? item (componentsOf value) = .ok found ∧
                ∀ parameter, found = some parameter ↔ parameter.Fits target := by
  obtain ⟨pathItem, hpathItem, hmethod⟩ := Option.bind_eq_some_iff.1 hoperation
  obtain ⟨entries, hentries, hread⟩ := (pathItem?_eq_some_iff h).1 hpathItem
  obtain ⟨call, hcall, hread⟩ := (operation?_eq_some_iff hread).1 hmethod
  obtain ⟨own, hown, hmerged⟩ := exists_merges hread
  refine ⟨entries, call, hentries, hcall, fun items hitems item hitem names final hleads hname
    hlocation => ?_⟩
  rw [hitems, parameters_list_eq_ok_iff] at hown
  obtain ⟨results, hresults, rfl⟩ := hown
  obtain ⟨found, hmem, hfound⟩ := exists_of_mem_forall₂ hresults.flip hitem
  refine ⟨fun hlength => ?_, ?_⟩
  · have hdescribed := hleads.described?_eq hlength
    -- the entry was read, so that the name and the location of its mapping have a text
    have hints := (exists_parameter?_iff.1 ⟨found, hfound⟩).shortInts final hdescribed hname
      hlocation
    obtain ⟨parameter, hfits⟩ := exists_fits hname hlocation hints.1 hints.2
    obtain rfl := (parameter?_eq_some_iff hfound).2 ⟨final, hdescribed, hfits⟩
    have hparameter : parameter ∈ operation.parameters := by
      rw [hmerged]
      exact List.mem_append_left _ (List.mem_filterMap.2 ⟨some parameter, hmem, rfl⟩)
    exact ⟨parameter, hparameter, hfits, Operation.checks_of_mem hparameter⟩
  · rintro first second rest rfl
    obtain ⟨target, htarget, href, hdescribed⟩ := hleads.described?_cons
    refine ⟨target, found, htarget, href, hfound, fun parameter => ?_⟩
    rw [parameter?_eq_some_iff hfound, hdescribed]
    simp

/-- The value of an API description with one operation, which refers to the reusable parameter
`limit`. This has the given entries. Another one is `size`, which is required in the query. -/
def referringApi (limit : Entries) : Value :=
  let reference : Value := .map [(.str "$ref", .str "#/components/parameters/limit")]
  let size : Value := .map [(.str "name", .str "size"), (.str "in", .str "query"),
    (.str "required", .bool true)]
  let list : Value := .map [(.str "parameters", .list [reference])]
  .map [(.str "openapi", .str "3.0.3"),
    (.str "paths", .map [(.str "/pets", .map [(.str "get", list)])]),
    (.str "components", .map [(.str "parameters",
      .map [(.str "limit", .map limit), (.str "size", size)])])]

/-- The entries of a parameter that is required in the query. -/
def limitEntries : Entries :=
  [(.str "name", .str "limit"), (.str "in", .str "query"), (.str "required", .bool true)]

/-- One reference is followed, so that the operation has `limit`, which is checked. -/
theorem operation_of_leads_limit :
    ∃ api operation parameter, read (referringApi limitEntries) = .ok api ∧
      api.operation? "/pets" .get = some operation ∧ parameter ∈ operation.parameters ∧
      parameter.Fits limitEntries ∧ operation.Checks parameter := by
  have hrun : ∃ api operation, read (referringApi limitEntries) = .ok api ∧
      api.operation? "/pets" .get = some operation := ⟨_, _, rfl, rfl⟩
  obtain ⟨api, operation, hread, hoperation⟩ := hrun
  obtain ⟨entries, call, hentries, hcall, hitems⟩ := operation_of_leads hread hoperation
  obtain rfl : _ = entries := Option.some.inj hentries
  obtain rfl : _ = call := Option.some.inj hcall
  have hleads : Leads (componentsOf (referringApi limitEntries)) ["limit"]
      (.map [(.str "$ref", .str "#/components/parameters/limit")]) limitEntries :=
    .next rfl rfl (.here rfl)
  obtain ⟨parameter, hmem, hfits, hchecks⟩ :=
    (hitems _ rfl _ List.mem_cons_self _ _ hleads rfl rfl).1 (by decide)
  exact ⟨api, operation, parameter, hread, hoperation, hmem, hfits, hchecks⟩

/-- The entries of a reusable parameter that is a reference. -/
def limitReference : Entries :=
  [(.str "$ref", .str "#/components/parameters/size")]

/-- Two references lead to a parameter that is required. The operation has no parameter. -/
theorem operation_of_leads_size :
    ∃ api operation final, read (referringApi limitReference) = .ok api ∧
      api.operation? "/pets" .get = some operation ∧
      Leads (componentsOf (referringApi limitReference)) ["limit", "size"]
        (.map [(.str "$ref", .str "#/components/parameters/limit")]) final ∧
      Entries.get final "name" = .str "size" ∧ Entries.get final "in" = .str "query" ∧
      Entries.get final "required" = .bool true ∧ operation.parameters = [] :=
  ⟨_, _, _, rfl, rfl, .next rfl rfl (.next rfl rfl (.here rfl)), rfl, rfl, rfl, rfl⟩

end Api

end FlowCheck
