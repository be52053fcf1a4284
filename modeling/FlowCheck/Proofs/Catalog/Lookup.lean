import FlowCheck.Proofs.Api.Endpoints
import FlowCheck.Proofs.Catalog.Addition
import FlowCheck.Proofs.Catalog.OperationId
import FlowCheck.Proofs.Value.Entries

/-!
# Lookups that agree

A catalog lists the ids of its operations, and finds operations by their id or by their path. All
three go through the same operations in the same order (`Catalog.hits`): a bare id is found exactly
if it is listed, and what is found is also found under its path, in its own source or in one before
it (`byId?_ofAdditions`).
-/

namespace FlowCheck

/-- An element that is not in the first part of a list comes no earlier than the second part. -/
theorem idxOf_le_idxOf_append {α : Type} [BEq α] [LawfulBEq α] {x y : α} {before : List α}
    (after : List α) (h : y ∉ before) :
    (before ++ x :: after).idxOf x ≤ (before ++ x :: after).idxOf y := by
  rw [List.idxOf_append, List.idxOf_append, if_neg h, List.idxOf_cons_self, Nat.zero_add]
  split
  · exact List.idxOf_le_length.trans (Nat.le_add_left _ _)
  · exact Nat.le_add_left _ _

/-- An id that does not start as one with a source does is a bare id. -/
theorem splitId_of_bare {id : String} (h : ¬sourceStart.toList <+: id.toList) :
    splitId id = (none, id) := by
  obtain hplain | ⟨source, bare, -, hform⟩ := splitId_cases id
  · exact hplain
  · refine absurd ?_ h
    rw [hform.text_eq]
    simp only [String.toList_append, List.append_assoc]
    exact List.prefix_append _ _

namespace Catalog

/-- All operations in the order of the lookups: source by source, path by path, and under each path
in the order of the methods. -/
def hits (catalog : Catalog) : List Hit :=
  catalog.sources.flatMap fun entry =>
    (entry.2.endpoints Method.all).map fun endpoint => ⟨entry.1, endpoint⟩

variable {catalog : Catalog} {additions : List (String × Api)} {id : String} {hit : Hit}

/-- The operations of a catalog are the endpoints of its sources. -/
theorem mem_hits :
    hit ∈ catalog.hits ↔
      ∃ api, (hit.source, api) ∈ catalog.sources ∧ hit.endpoint ∈ api.endpoints Method.all := by
  obtain ⟨source, endpoint⟩ := hit
  simp only [hits, List.mem_flatMap, List.mem_map, Hit.mk.injEq]
  constructor
  · rintro ⟨⟨source, api⟩, hsource, endpoint, hendpoint, rfl, rfl⟩
    exact ⟨api, hsource, hendpoint⟩
  · rintro ⟨api, hsource, hendpoint⟩
    exact ⟨(source, api), hsource, endpoint, hendpoint, rfl, rfl⟩

/-- A bare id is looked up among all operations. -/
theorem byId?_eq_find?_hits (hplain : splitId id = (none, id)) :
    catalog.byId? id none =
      catalog.hits.find? fun hit => hit.endpoint.operation.operationId.isStr id := by
  rw [byId?, hplain, hits, List.find?_flatMap]
  simp only [byBareId?, searched, Option.all_none, List.filter_true, List.find?_map, Api.byId?]
  rfl

/-- The ids that are listed are those of all operations. -/
theorem operationIds_none (catalog : Catalog) :
    catalog.operationIds none =
      (catalog.hits.map (·.endpoint.operation.operationId)).filter Value.isGiven := by
  simp only [operationIds, searched, Option.all_none, List.filter_true, Api.operationIds, hits,
    List.map_flatMap, List.filter_flatMap, List.map_map]
  rfl

/-- A text is listed as an id if it is not empty and some operation has it as its id. -/
theorem str_mem_operationIds_none (hid : id ≠ "") :
    .str id ∈ catalog.operationIds none ↔
      ∃ hit ∈ catalog.hits, hit.endpoint.operation.operationId = .str id := by
  have hgiven : (Value.str id).isGiven = true := by
    simpa [Value.isGiven] using hid
  rw [operationIds_none, List.mem_filter, List.mem_map]
  exact and_iff_left hgiven

/-- In a catalog that holds each path of a source once, an operation is found under its path and its
method. It is what its source has there, and this source is that of the operation or one that comes
before it. -/
theorem exists_byPath? (hnames : catalog.names.Nodup)
    (hpaths : ∀ entry ∈ catalog.sources, (entry.2.paths.map Prod.fst).Nodup)
    (h : hit ∈ catalog.hits) :
    ∃ first, catalog.byPath? hit.endpoint.path hit.endpoint.method.name = some first ∧
      first.endpoint.path = hit.endpoint.path ∧ first.endpoint.method = hit.endpoint.method ∧
      (∃ api, catalog.api? first.source = some api ∧
        api.operation? hit.endpoint.path hit.endpoint.method = some first.endpoint.operation) ∧
      catalog.names.idxOf first.source ≤ catalog.names.idxOf hit.source := by
  obtain ⟨api, hsource, hendpoint⟩ := mem_hits.1 h
  have hoperation : api.operation? hit.endpoint.path hit.endpoint.method =
      some hit.endpoint.operation := Api.operation?_of_mem_endpoints (hpaths _ hsource) hendpoint
  have hmethod : Method.ofText? hit.endpoint.method.name = some hit.endpoint.method := by
    cases hit.endpoint.method <;> rfl
  have hfound : (catalog.byPath? hit.endpoint.path hit.endpoint.method.name).isSome := by
    rw [byPath?, hmethod, Option.bind_some, List.findSome?_isSome_iff]
    exact ⟨_, hsource, by simp [hoperation]⟩
  obtain ⟨first, hfirst⟩ := Option.isSome_iff_exists.1 hfound
  refine ⟨first, hfirst, ?_⟩
  rw [byPath?, hmethod, Option.bind_some] at hfirst
  obtain ⟨before, entry, after, hsources, hentry, hbefore⟩ := List.findSome?_eq_some_iff.1 hfirst
  obtain ⟨operation, hheld, rfl⟩ := Option.map_eq_some_iff.1 hentry
  have hmem : entry ∈ catalog.sources := hsources ▸ List.mem_append_right before List.mem_cons_self
  refine ⟨rfl, rfl, ⟨entry.2, Keyed.lookup_of_mem hnames hmem, hheld⟩, ?_⟩
  -- the source of the operation is not among those without an operation under the path
  have hlater : hit.source ∉ before.map Prod.fst := by
    rintro hmem
    obtain ⟨⟨name, other⟩, hother, hname⟩ := List.mem_map.1 hmem
    obtain rfl : name = hit.source := hname
    have hmem : (hit.source, other) ∈ catalog.sources := hsources ▸ List.mem_append_left _ hother
    obtain rfl : other = api := Option.some.inj <|
      (Keyed.lookup_of_mem hnames hmem).symm.trans (Keyed.lookup_of_mem hnames hsource)
    simpa [hoperation] using hbefore _ hother
  rw [names, hsources, List.map_append, List.map_cons]
  exact idxOf_le_idxOf_append _ hlater

/-- Whatever was added to a catalog, its sources stand in the order of their first addition, each
with its last description. A bare id is found exactly if it is listed. What is found is the first
operation with the id. It is what its source has under its path and method, and the lookup of these
finds what that source, or one that was added earlier, has there. -/
theorem byId?_ofAdditions
    (hread : ∀ entry ∈ additions, ∃ value, Api.read value = .ok entry.2)
    (hid : id ≠ "") (hbare : ¬sourceStart.toList <+: id.toList) :
    let catalog := ofAdditions additions
    catalog.names = (additions.map Prod.fst).eraseDups ∧
      (∀ name, catalog.api? name = additions.reverse.lookup name) ∧
      (catalog.byId? id none = none ↔ .str id ∉ catalog.operationIds none) ∧
      ∀ hit, catalog.byId? id none = some hit →
        hit.endpoint.operation.operationId = .str id ∧
        (∃ before after, catalog.hits = before ++ hit :: after ∧
          ∀ other ∈ before, other.endpoint.operation.operationId ≠ .str id) ∧
        (∃ api, catalog.api? hit.source = some api ∧
          api.operation? hit.endpoint.path hit.endpoint.method = some hit.endpoint.operation) ∧
        ∃ first, catalog.byPath? hit.endpoint.path hit.endpoint.method.name = some first ∧
          first.endpoint.path = hit.endpoint.path ∧ first.endpoint.method = hit.endpoint.method ∧
          (∃ api, catalog.api? first.source = some api ∧
            api.operation? hit.endpoint.path hit.endpoint.method =
              some first.endpoint.operation) ∧
          catalog.names.idxOf first.source ≤ catalog.names.idxOf hit.source := by
  intro catalog
  have hnames : catalog.names.Nodup := nodup_names_ofAdditions additions
  have hpaths (entry : String × Api) (hentry : entry ∈ catalog.sources) :
      (entry.2.paths.map Prod.fst).Nodup := by
    obtain ⟨value, hvalue⟩ := hread entry (mem_of_mem_sources hentry)
    exact Api.nodup_paths hvalue
  -- both lookups and the list of ids go through one list of hits
  have hfind : catalog.byId? id none =
      catalog.hits.find? fun hit => hit.endpoint.operation.operationId.isStr id :=
    byId?_eq_find?_hits (splitId_of_bare hbare)
  refine ⟨names_ofAdditions additions, api?_ofAdditions additions, ?_, fun hit hhit => ?_⟩
  · rw [hfind, List.find?_eq_none, str_mem_operationIds_none hid]
    simp only [Value.isStr_iff, not_exists, not_and]
  · rw [hfind, List.find?_eq_some_iff_append] at hhit
    obtain ⟨hmatch, before, after, hhits, hbefore⟩ := hhit
    have hmem : hit ∈ catalog.hits := hhits ▸ List.mem_append_right before List.mem_cons_self
    refine ⟨Value.isStr_iff.1 hmatch, ⟨before, after, hhits, fun other hother heq => ?_⟩, ?_,
      exists_byPath? hnames hpaths hmem⟩
    · simpa [heq, Value.isStr] using hbefore other hother
    · obtain ⟨api, hsource, hendpoint⟩ := mem_hits.1 hmem
      exact ⟨api, Keyed.lookup_of_mem hnames hsource,
        Api.operation?_of_mem_endpoints (hpaths _ hsource) hendpoint⟩

/-- The value of an API description with one operation under a path. -/
def petsApi (operation : Entries) : Value :=
  .map [(.str "openapi", .str "3.0.3"),
    (.str "paths", .map [(.str "/pets", .map [(.str "get", .map operation)])])]

/-- A source keeps its place when its description is replaced by one without ids. The id is then
found in the source that was added after it, and the path still leads to the source before. -/
theorem byId?_pets :
    ∃ named unnamed, Api.read (petsApi [(.str "operationId", .str "listPets")]) = .ok named ∧
      Api.read (petsApi []) = .ok unnamed ∧
      let additions := [("own", named), ("others", named), ("own", unnamed)]
      (∀ entry ∈ additions, ∃ value, Api.read value = .ok entry.2) ∧ "listPets" ≠ "" ∧
        ¬sourceStart.toList <+: "listPets".toList ∧
        ∃ hit first, (ofAdditions additions).byId? "listPets" none = some hit ∧
          (ofAdditions additions).byPath? hit.endpoint.path hit.endpoint.method.name = some first ∧
          hit.source = "others" ∧ first.source = "own" ∧
          first.endpoint.path = hit.endpoint.path := by
  have hnamed : Api.read (petsApi [(.str "operationId", .str "listPets")]) = .ok _ := rfl
  have hunnamed : Api.read (petsApi []) = .ok _ := rfl
  refine ⟨_, _, hnamed, hunnamed, ?_⟩
  intro additions
  have hread : ∀ entry ∈ additions, ∃ value, Api.read value = .ok entry.2 :=
    List.forall_mem_cons.2 ⟨⟨_, hnamed⟩, List.forall_mem_cons.2 ⟨⟨_, hnamed⟩,
      List.forall_mem_singleton.2 ⟨_, hunnamed⟩⟩⟩
  have hid : "listPets" ≠ "" := by decide
  have hbare : ¬sourceStart.toList <+: "listPets".toList := by decide
  obtain ⟨-, -, -, hhits⟩ := byId?_ofAdditions hread hid hbare
  obtain ⟨-, -, -, first, hfirst, hpath, -⟩ := hhits _ rfl
  have hown : first.source = "own" := congrArg Hit.source (Option.some.inj (hfirst.symm.trans rfl))
  exact ⟨hread, hid, hbare, _, first, rfl, hfirst, rfl, hown, hpath⟩

end Catalog

end FlowCheck
