import FlowCheck.Catalog
import FlowCheck.Proofs.Distinct

/-!
# Catalogs that are built by additions

Descriptions are added to a catalog one after the other. Whatever is added, new sources come after
those that were there, in the order of their first addition (`names_addAll`), and each source has
the description that was added last (`api?_addAll`). A catalog that is built by additions starts
without sources.
-/

namespace FlowCheck.Catalog

/-- The catalog to which additions lead, starting from no sources. -/
def ofAdditions (additions : List (String × Api)) : Catalog :=
  additions.foldl (fun catalog entry => catalog.add entry.1 entry.2) empty

variable {additions : List (String × Api)}

/-- A new source comes last. -/
theorem names_add (catalog : Catalog) (name : String) (api : Api) :
    (catalog.add name api).names =
      if name ∈ catalog.names then catalog.names else catalog.names ++ [name] :=
  Keyed.keys_put name api catalog.sources

/-- The catalog to which additions lead, starting from any catalog. -/
def addAll (catalog : Catalog) (additions : List (String × Api)) : Catalog :=
  additions.foldl (fun catalog entry => catalog.add entry.1 entry.2) catalog

/-- After the sources that were there stand the new ones, in the order of their first addition. -/
theorem names_addAll (catalog : Catalog) (additions : List (String × Api)) :
    (catalog.addAll additions).names =
      catalog.names ++ ((additions.map Prod.fst).filter (· ∉ catalog.names)).eraseDups := by
  induction additions using List.reverseRecOn with
  | nil => simp [addAll]
  | append_singleton additions entry ih =>
    rw [addAll, List.foldl_append, List.foldl_cons, List.foldl_nil, ← addAll, names_add, ih,
      List.map_append, List.filter_append, List.map_singleton]
    by_cases hold : entry.1 ∈ catalog.names
    · simp [hold]
    · have hnew : [entry.1].filter (· ∉ catalog.names) = [entry.1] := by simp [hold]
      rw [hnew, eraseDups_concat]
      -- the name is new to the catalog, so only the additions before can have it
      simp only [List.mem_append, hold, false_or, List.mem_eraseDups]
      split <;> simp

/-- Under a name stands the description that was added last, or else the one from the start. -/
theorem api?_addAll (catalog : Catalog) (additions : List (String × Api)) (name : String) :
    (catalog.addAll additions).api? name =
      (additions.reverse.lookup name).or (catalog.api? name) := by
  have hsources : (catalog.addAll additions).sources =
      additions.foldl (fun table entry => Keyed.put entry.1 entry.2 table) catalog.sources := by
    rw [addAll]
    exact (List.foldl_hom sources fun _ _ => rfl).symm
  rw [api?, hsources, Keyed.lookup_foldl_put]
  rfl

/-- The sources stand in the order of their first addition. -/
theorem names_ofAdditions (additions : List (String × Api)) :
    (ofAdditions additions).names = (additions.map Prod.fst).eraseDups := by
  rw [ofAdditions, ← addAll, names_addAll]
  simp [empty, names]

/-- Under a name stands the description that was added last. -/
theorem api?_ofAdditions (additions : List (String × Api)) (name : String) :
    (ofAdditions additions).api? name = additions.reverse.lookup name := by
  rw [ofAdditions, ← addAll, api?_addAll]
  simp [empty, api?]

/-- Each source stands in the catalog once. -/
theorem nodup_names_ofAdditions (additions : List (String × Api)) :
    (ofAdditions additions).names.Nodup := by
  rw [names_ofAdditions]
  exact nodup_eraseDups _

/-- Every source of a catalog was added with its description. -/
theorem mem_of_mem_sources {entry : String × Api} (h : entry ∈ (ofAdditions additions).sources) :
    entry ∈ additions := by
  have hfound := Keyed.lookup_of_mem (nodup_names_ofAdditions additions) h
  change (ofAdditions additions).api? entry.1 = some entry.2 at hfound
  rw [api?_ofAdditions] at hfound
  obtain ⟨before, after, hreverse, -⟩ := List.lookup_eq_some_iff.1 hfound
  rw [← List.mem_reverse, hreverse]
  exact List.mem_append_right before List.mem_cons_self

end FlowCheck.Catalog
