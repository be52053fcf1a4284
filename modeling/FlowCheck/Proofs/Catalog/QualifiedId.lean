import FlowCheck.Document.Rules
import FlowCheck.Proofs.Catalog.Lookup
import FlowCheck.Proofs.Catalog.OtherSource

/-!
# Operations with the names of their sources

The operations of a catalog are addressed by the name of their source and their own id, with a point
between the two. Such an id is split again at its first point, so that both parts come back exactly
if the name of the source has none (`splitId_qualifiedId_iff`). The operations of a source can be
addressed in the same cases (`Catalog.byId?_qualifiedId_iff`): an id with any other name leads to
another source, or stands for itself.
-/

namespace FlowCheck

/-- The id of an operation with the name of its source. -/
def qualifiedId (source bare : String) : String :=
  sourceStart ++ source ++ "." ++ bare

variable {source bare id : String}

/-- The two parts of an id come back exactly if there is no point in the first. -/
theorem splitId_qualifiedId_iff (hsource : source ≠ "") (hbare : bare ≠ "") :
    splitId (qualifiedId source bare) = (some source, bare) ↔ '.' ∉ source.toList := by
  rw [splitId_eq_some_iff]
  exact ⟨IsQualified.noPoint, fun hpoint => ⟨rfl, hsource, hbare, hpoint⟩⟩

/-- An id with the name of a source is longer than the id alone. -/
theorem qualifiedId_ne (source bare : String) : qualifiedId source bare ≠ bare := by
  intro heq
  have hlength := congrArg String.length heq
  simp only [qualifiedId, String.length_append] at hlength
  have hpoint : ".".length = 1 := rfl
  omega

namespace Catalog

variable {catalog : Catalog} {hit target : Hit}

/-- What is found under a bare id has that id. -/
theorem operationId_of_byBareId? {source : Option String}
    (h : catalog.byBareId? bare source = some hit) :
    hit.endpoint.operation.operationId = .str bare := by
  obtain ⟨entry, -, hhit⟩ := List.exists_of_findSome?_eq_some h
  obtain ⟨endpoint, hendpoint, rfl⟩ := Option.map_eq_some_iff.1 hhit
  rw [Api.byId?, List.find?_eq_some_iff_append] at hendpoint
  exact Value.isStr_iff.1 hendpoint.1

/-- An operation of a source is found in it under its bare id, or another one with the same id
is. -/
theorem exists_byId?_of_mem_hits (h : target ∈ catalog.hits)
    (hid : target.endpoint.operation.operationId = .str bare) :
    ∃ hit, catalog.byId? bare (some target.source) = some hit := by
  obtain ⟨api, hsource, hendpoint⟩ := mem_hits.1 h
  rw [← Option.isSome_iff_exists, byId?, byBareId?, List.findSome?_isSome_iff]
  refine ⟨(target.source, api), List.mem_filter.2 ⟨hsource, by simp⟩, ?_⟩
  rw [Option.isSome_map, Api.byId?, List.find?_isSome]
  exact ⟨target.endpoint, hendpoint, Value.isStr_iff.2 hid⟩

/-- The operations of a source are addressed by its name and their ids exactly if there is no point
in the name. -/
theorem byId?_qualifiedId_iff (htarget : target ∈ catalog.hits) (hsource : target.source ≠ "")
    (hbare : bare ≠ "") (hid : target.endpoint.operation.operationId = .str bare) :
    (∃ hit, catalog.byId? (qualifiedId target.source bare) none = some hit ∧
        hit.source = target.source ∧ hit.endpoint.operation.operationId = .str bare) ↔
      '.' ∉ target.source.toList := by
  constructor
  · rintro ⟨hit, hhit, hsame, hbareId⟩
    obtain hplain | ⟨source, rest, hsplit, hform⟩ := splitId_cases (qualifiedId target.source bare)
    · -- the id stands for itself, but what is found has the bare id
      rw [byId?, hplain] at hhit
      have hwhole := (operationId_of_byBareId? hhit).symm.trans hbareId
      exact absurd (Value.str.inj hwhole) (qualifiedId_ne target.source bare)
    · rw [byId?_of_splitId catalog hsplit] at hhit
      obtain rfl : source = target.source := (source_of_byId? hhit).symm.trans hsame
      exact hform.noPoint
  · intro hpoint
    have hsplit := (splitId_qualifiedId_iff hsource hbare).2 hpoint
    obtain ⟨hit, hhit⟩ := exists_byId?_of_mem_hits htarget hid
    refine ⟨hit, ?_, source_of_byId? hhit, operationId_of_byBareId? hhit⟩
    rw [byId?_of_splitId catalog hsplit, hhit]

/-- The catalog of one source, with the operation of `petsApi` under an id. -/
def petsCatalog (source id : String) : Catalog :=
  match Api.read (petsApi [(.str "operationId", .str id)]) with
  | .ok api => empty.add source api
  | .error _ => empty

/-- The id of an operation may have points. -/
theorem byId?_qualifiedId_shop :
    ∃ target ∈ (petsCatalog "shop" "pets.list").hits, target.source = "shop" ∧
      target.source ≠ "" ∧ "pets.list" ≠ "" ∧
      target.endpoint.operation.operationId = .str "pets.list" ∧
      ∃ hit, (petsCatalog "shop" "pets.list").byId? (qualifiedId target.source "pets.list") none =
          some hit ∧
        hit.source = target.source ∧ hit.endpoint.operation.operationId = .str "pets.list" := by
  have hsource : "shop" ≠ "" := by decide
  have hbare : "pets.list" ≠ "" := by decide
  refine ⟨_, List.mem_cons_self, rfl, hsource, hbare, rfl, ?_⟩
  exact (byId?_qualifiedId_iff List.mem_cons_self hsource hbare rfl).2 (by decide)

/-- The value of a document with one source, and one step that calls an operation of it. -/
def shopDocument (source id : String) : Value :=
  let step : Value := .map [(.str "stepId", .str "list"),
    (.str "operationId", .str (qualifiedId source id))]
  let workflow : Value := .map [(.str "workflowId", .str "pets"), (.str "steps", .list [step])]
  .map [(.str "arazzo", .str "1.0.0"),
    (.str "info", .map [(.str "title", .str "Pets"), (.str "version", .str "1")]),
    (.str "sourceDescriptions",
      .list [.map [(.str "name", .str source), (.str "url", .str "pets.yaml")]]),
    (.str "workflows", .list [workflow])]

/-- A document may name a source with a point in it. Its operations are not found under the name and
their ids. -/
theorem byId?_qualifiedId_shop_eu :
    ∃ document, Document.read (shopDocument "shop.eu" "listPets") = .ok document ∧
      document.sources.map (·.name) = (petsCatalog "shop.eu" "listPets").names ∧
      (∃ target ∈ (petsCatalog "shop.eu" "listPets").hits, target.source = "shop.eu" ∧
        target.endpoint.operation.operationId = .str "listPets") ∧
      (petsCatalog "shop.eu" "listPets").byId? "$sourceDescriptions.shop.eu.listPets" none =
        none :=
  ⟨_, rfl, rfl, ⟨_, List.mem_cons_self, rfl, rfl⟩, rfl⟩

end Catalog

end FlowCheck
