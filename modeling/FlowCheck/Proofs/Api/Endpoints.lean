import FlowCheck.Proofs.Api.Readable

/-!
# The endpoints of a description

An API description that is read has each path once, since a path that comes again takes the place of
the one before (`nodup_paths`). So each of its endpoints is what is found under the path and the
method (`operation?_of_mem_endpoints`).
-/

namespace FlowCheck

namespace Api

open Result

variable {value components : Value} {api : Api} {endpoint : Endpoint} {methods : List Method}

/-- An API description is read from the contents of a mapping. -/
theorem exists_contents_of_read (h : read value = .ok api) :
    ∃ entries, value = .map entries ∧ contents entries = .ok api := by
  obtain ⟨found, hfound, haccept⟩ := bind_eq_ok_iff.1 h
  obtain rfl : found = api := by
    rw [accept] at haccept
    split at haccept
    · exact absurd haccept refuse_ne_ok
    · split at haccept
      · exact absurd haccept refuse_ne_ok
      · exact Except.ok.inj haccept
  by_cases hform : ∃ entries, value = .map entries ∧ IsDescription entries
  · obtain ⟨entries, rfl, hdescription⟩ := hform
    rw [hdescription.ofValue_eq, Fault.stop, mapError_eq_ok_iff] at hfound
    exact ⟨entries, rfl, hfound⟩
  · obtain ⟨reason, hrefuse⟩ := exists_ofValue_eq_refuse
      fun entries hvalue hdescription => hform ⟨entries, hvalue, hdescription⟩
    exact absurd (hrefuse.symm.trans hfound) refuse_ne_ok

/-- Adding a path keeps the paths apart. -/
theorem nodup_addPath {paths next : List (String × PathItem)} {entry : Value × Value}
    (hnodup : (paths.map Prod.fst).Nodup) (h : addPath components paths entry = .ok next) :
    (next.map Prod.fst).Nodup := by
  rw [addPath] at h
  split at h
  · obtain ⟨item, -, h⟩ := bind_eq_ok_iff.1 h
    obtain ⟨path, -, h⟩ := bind_eq_ok_iff.1 h
    rw [← pure_eq_ok_iff.1 h]
    exact Keyed.nodup_put item hnodup
  · rwa [← Except.ok.inj h]

/-- An API description that is read has each path once. -/
theorem nodup_paths (h : read value = .ok api) : (api.paths.map Prod.fst).Nodup := by
  obtain ⟨entries, -, hcontents⟩ := exists_contents_of_read h
  rw [contents] at hcontents
  simp only [bind_eq_ok_iff, pure_eq_ok_iff] at hcontents
  obtain ⟨paths, hpaths, _, -, _, -, _, -, _, -, rfl⟩ := hcontents
  exact foldlM_induction (p := fun paths => (paths.map Prod.fst).Nodup)
    (fun _ _ _ => nodup_addPath) List.nodup_nil hpaths

/-- The endpoints are the operations of the path items, under the methods that are asked for. -/
theorem mem_endpoints :
    endpoint ∈ api.endpoints methods ↔ ∃ item, (endpoint.path, item) ∈ api.paths ∧
      endpoint.method ∈ methods ∧ item.operation? endpoint.method = some endpoint.operation := by
  obtain ⟨path, method, operation⟩ := endpoint
  simp only [endpoints, pathEndpoints, List.mem_flatMap, List.mem_filterMap, Option.map_eq_some_iff,
    Endpoint.mk.injEq]
  constructor
  · rintro ⟨⟨path, item⟩, hitem, method, hmethod, operation, hoperation, rfl, rfl, rfl⟩
    exact ⟨item, hitem, hmethod, hoperation⟩
  · rintro ⟨item, hitem, hmethod, hoperation⟩
    exact ⟨(path, item), hitem, method, hmethod, operation, hoperation, rfl, rfl, rfl⟩

/-- Where each path stands once, an endpoint is found under its path and its method. -/
theorem operation?_of_mem_endpoints (hnodup : (api.paths.map Prod.fst).Nodup)
    (h : endpoint ∈ api.endpoints methods) :
    api.operation? endpoint.path endpoint.method = some endpoint.operation := by
  obtain ⟨item, hitem, -, hoperation⟩ := mem_endpoints.1 h
  rw [operation?, pathItem?, Keyed.lookup_of_mem hnodup hitem]
  exact hoperation

end Api

end FlowCheck
