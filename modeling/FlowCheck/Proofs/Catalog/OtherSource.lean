import FlowCheck.Consistency.Targets
import FlowCheck.Proofs.Result

/-!
# Lookups and other sources

An operation id that names its source is looked up in that source alone, so that no other source has
any influence on it (`searched_add_of_ne`, `searched_without_of_ne`). Other lookups take the first
operation of all sources; a new source comes last, and whatever was found before is still found
(`operationOf_add_of_notMem`).
-/

namespace FlowCheck.Catalog

open Result

variable {catalog : Catalog} {id source bare name : String} {hit : Hit}

/-- The catalog without a source. -/
def without (catalog : Catalog) (name : String) : Catalog :=
  ⟨catalog.sources.filter (·.1 != name)⟩

/-- What is searched for one source does not change with another source. -/
theorem searched_add_of_ne (catalog : Catalog) (api : Api) (h : name ≠ source) :
    (catalog.add name api).searched (some source) = catalog.searched (some source) :=
  Keyed.filter_put_of_neg (p := fun entry => (some source).all (entry.1 == ·))
    (fun _ => beq_false_of_ne h) api catalog.sources

/-- What is searched for one source does not change without another source. -/
theorem searched_without_of_ne (catalog : Catalog) (h : name ≠ source) :
    (catalog.without name).searched (some source) = catalog.searched (some source) := by
  rw [searched, without, List.filter_filter]
  refine List.filter_congr fun entry _ => ?_
  -- an entry of the one source is no entry of the other
  by_cases hentry : entry.1 = source
  · simp [hentry, h.symm]
  · simp [hentry]

/-- An id that names its source is looked up in that source. -/
theorem byId?_of_splitId (catalog : Catalog) (h : splitId id = (some source, bare)) :
    catalog.byId? id none = catalog.byId? bare (some source) := by
  rw [byId?, byId?, h]

/-- A lookup depends on what is searched only. -/
theorem byBareId?_congr {other : Catalog} {source : Option String} (id : String)
    (h : catalog.searched source = other.searched source) :
    catalog.byBareId? id source = other.byBareId? id source := by
  rw [byBareId?, byBareId?, h]

/-- An id that names its source leads to the same operation in all catalogs that agree on that
source. -/
theorem byId?_congr {other : Catalog} (hsplit : splitId id = (some source, bare))
    (h : catalog.searched (some source) = other.searched (some source)) :
    catalog.byId? id none = other.byId? id none := by
  rw [byId?_of_splitId _ hsplit, byId?_of_splitId _ hsplit]
  exact byBareId?_congr bare h

/-- An operation of one source has that source. -/
theorem source_of_byId? (h : catalog.byId? bare (some source) = some hit) :
    hit.source = source := by
  obtain ⟨entry, hentry, hhit⟩ := List.exists_of_findSome?_eq_some h
  obtain ⟨endpoint, -, rfl⟩ := Option.map_eq_some_iff.1 hhit
  exact beq_iff_eq.1 (List.mem_filter.1 hentry).2

/-- With a new source at the end, the sources that are searched are those from before, and perhaps
the new one. -/
theorem searched_add_of_notMem (api : Api) (h : name ∉ catalog.names) (source : Option String) :
    ∃ last, (catalog.add name api).searched source = catalog.searched source ++ last := by
  rw [searched, add, Keyed.put_of_notMem api h, List.filter_append]
  exact ⟨_, rfl⟩

/-- An operation that is found by its id is still found with a new source at the end. -/
theorem byId?_add_of_notMem (api : Api) (h : name ∉ catalog.names)
    (hhit : catalog.byId? id none = some hit) :
    (catalog.add name api).byId? id none = some hit := by
  obtain ⟨last, hlast⟩ := searched_add_of_notMem api h (splitId id).1
  rw [byId?, byBareId?] at hhit ⊢
  rw [hlast, List.findSome?_append, hhit, Option.some_or]

/-- An operation that is found by its path is still found with a new source at the end. -/
theorem byPath?_add_of_notMem {path method : String} (api : Api) (h : name ∉ catalog.names)
    (hhit : catalog.byPath? path method = some hit) :
    (catalog.add name api).byPath? path method = some hit := by
  obtain ⟨found, hmethod, hfind⟩ := Option.bind_eq_some_iff.1 hhit
  rw [byPath?, hmethod, Option.bind_some, add, Keyed.put_of_notMem api h, List.findSome?_append,
    hfind, Option.some_or]

/-- The operation of a step is still found with a new source at the end. -/
theorem operationOf_add_of_notMem {step : Step} (api : Api) (h : name ∉ catalog.names)
    (hhit : catalog.operationOf step = .ok (some hit)) :
    (catalog.add name api).operationOf step = .ok (some hit) := by
  rw [operationOf] at hhit ⊢
  split
  · next hid =>
    rw [if_pos hid, bind_eq_ok_iff] at hhit
    obtain ⟨id, hvalue, hfound⟩ := hhit
    rw [pure_eq_ok_iff] at hfound
    exact bind_eq_ok_iff.2 ⟨id, hvalue, pure_eq_ok_iff.2 (byId?_add_of_notMem api h hfound)⟩
  · next hid =>
    rw [if_neg hid] at hhit
    split
    · next hpath =>
      rw [if_pos hpath, bind_eq_ok_iff] at hhit
      obtain ⟨text, hvalue, hfound⟩ := hhit
      obtain ⟨⟨method, path⟩, hsplit, hfound⟩ := Option.bind_eq_some_iff.1 (pure_eq_ok_iff.1 hfound)
      refine bind_eq_ok_iff.2 ⟨text, hvalue, pure_eq_ok_iff.2 ?_⟩
      exact Option.bind_eq_some_iff.2 ⟨_, hsplit, byPath?_add_of_notMem api h hfound⟩
    · next hpath =>
      rw [if_neg hpath] at hhit
      cases hhit

end FlowCheck.Catalog
