import FlowCheck.Proofs.Api.Endpoints
import Mathlib.Data.List.Induction

/-!
# Where operations are read

The paths of an API description are the keys of a mapping, and so are the methods under a path. Keys
of different kinds can read as the same text, and method names can differ in case; of several
mappings under such keys the last is read. `Api.pathEntries?` and `Api.operationEntries?` give the
mapping for a path and for a method, and `Api.pathItem?_eq_some_iff` and
`Api.operation?_eq_some_iff` say that these are what is read, and nothing else.
-/

namespace FlowCheck

open Result

namespace Keyed

variable {α β γ κ ε : Type} [BEq κ] [LawfulBEq κ]

/-- A table is filled by a run over some items, some of which give a key and a source. Under each
key stands what was made of the last source for it. -/
theorem lookup_foldlM_eq_some_iff {f : List (κ × β) → γ → Except ε (List (κ × β))}
    {pick : γ → Option (κ × α)} {make : α → Except ε β}
    (hstep : ∀ table x next, f table x = .ok next →
      pick x = none ∧ next = table ∨
        ∃ key a b, pick x = some (key, a) ∧ make a = .ok b ∧ next = put key b table)
    {xs : List γ} {last : List (κ × β)} (h : xs.foldlM f [] = .ok last) {key : κ} {b : β} :
    last.lookup key = some b ↔
      ∃ a, (xs.filterMap pick).reverse.lookup key = some a ∧ make a = .ok b := by
  -- the last item decides, so that the run is taken apart at its end
  induction xs using List.reverseRecOn generalizing last with
  | nil =>
    rw [← pure_eq_ok_iff.1 h]
    simp
  | append_singleton xs x ih =>
    rw [List.foldlM_append, bind_eq_ok_iff] at h
    obtain ⟨table, htable, hlast⟩ := h
    rw [List.foldlM_cons, bind_eq_ok_iff] at hlast
    obtain ⟨next, hnext, hlast⟩ := hlast
    obtain rfl := pure_eq_ok_iff.1 hlast
    obtain ⟨hpick, rfl⟩ | ⟨other, a, made, hpick, hmade, rfl⟩ := hstep table x next hnext
    · rw [List.filterMap_append, List.filterMap_cons_none hpick, List.filterMap_nil,
        List.append_nil]
      exact ih htable
    · rw [List.filterMap_append, List.filterMap_cons_some hpick, List.filterMap_nil,
        List.reverse_concat, List.lookup_cons]
      by_cases hkey : key = other
      · rw [hkey, beq_self_eq_true, lookup_put_self]
        simp [hmade]
      · rw [beq_eq_false_iff_ne.2 hkey, lookup_put_of_ne made table hkey]
        exact ih htable

end Keyed

/-- The entries of a value, if it is a mapping. -/
def Value.entries? : Value → Option Entries
  | .map entries => some entries
  | _ => none

namespace Api

/-- The path and the mapping of an entry of the paths, if it describes a path. -/
def describedPath? (entry : Value × Value) : Option (String × Entries) := do
  let path ← entry.1.text.toOption
  let entries ← entry.2.entries?
  return (path, entries)

/-- The method and the mapping of an entry of a path item, if it describes an operation. -/
def describedOperation? (entry : Value × Value) : Option (Method × Entries) := do
  let name ← entry.1.text.toOption
  let method ← Method.ofText? name
  let entries ← entry.2.entries?
  return (method, entries)

/-- The mapping for a path in the value of an API description. -/
def pathEntries? (value : Value) (path : String) : Option Entries :=
  ((Entries.get value.searched "paths").searched.filterMap describedPath?).reverse.lookup path

/-- The mapping for a method in the entries of a path item. -/
def operationEntries? (item : Entries) (method : Method) : Option Entries :=
  (item.filterMap describedOperation?).reverse.lookup method

/-- The reusable parts in the value of an API description. -/
def componentsOf (value : Value) : Value :=
  Entries.get value.searched "components"

variable {value components : Value} {api : Api} {entries : Entries} {item : PathItem}

/-- Taking up an entry of a path item puts the operation that it describes, or changes nothing. -/
theorem addOperation_cases {shared : List ApiParameter} {table next : List (Method × Operation)}
    {entry : Value × Value} (h : addOperation shared components table entry = .ok next) :
    describedOperation? entry = none ∧ next = table ∨
      ∃ method entries found, describedOperation? entry = some (method, entries) ∧
        operation entries shared components = .ok found ∧ next = Keyed.put method found table := by
  obtain ⟨name, hname, h⟩ := bind_eq_ok_iff.1 h
  rw [describedOperation?, hname]
  split at h
  · next method entries hmethod hvalue =>
    obtain ⟨found, hfound, hnext⟩ := bind_eq_ok_iff.1 h
    refine .inr ⟨method, entries, found, ?_, hfound, (pure_eq_ok_iff.1 hnext).symm⟩
    simp [hmethod, hvalue, Value.entries?, Except.toOption]
  · next hother =>
    refine .inl ⟨?_, (pure_eq_ok_iff.1 h).symm⟩
    cases hmethod : Method.ofText? name with
    | none => simp [hmethod, Except.toOption]
    | some method =>
      cases hvalue : entry.2 with
      | map entries => exact absurd hvalue (hother method entries hmethod)
      | _ => simp [Value.entries?, Except.toOption]

/-- Taking up an entry of the paths puts the path item that it describes, or changes nothing. -/
theorem addPath_cases {table next : List (String × PathItem)} {entry : Value × Value}
    (h : addPath components table entry = .ok next) :
    describedPath? entry = none ∧ next = table ∨
      ∃ path entries item, describedPath? entry = some (path, entries) ∧
        pathItem entries components = .ok item ∧ next = Keyed.put path item table := by
  rw [addPath] at h
  split at h
  · next entries hvalue =>
    obtain ⟨item, hitem, h⟩ := bind_eq_ok_iff.1 h
    obtain ⟨path, hpath, hnext⟩ := bind_eq_ok_iff.1 h
    refine .inr ⟨path, entries, item, ?_, hitem, (pure_eq_ok_iff.1 hnext).symm⟩
    simp [describedPath?, hpath, hvalue, Value.entries?, Except.toOption]
  · next hother =>
    refine .inl ⟨?_, (Except.ok.inj h).symm⟩
    rw [describedPath?]
    cases hvalue : entry.2 with
    | map entries => exact absurd hvalue (hother entries)
    | _ => cases entry.1.text <;> rfl

/-- The shared parameters of a path item are those that its mapping declares. -/
theorem parameters_of_pathItem (h : pathItem entries components = .ok item) :
    parameters (Entries.get entries "parameters") components = .ok item.parameters := by
  obtain ⟨shared, hshared, h⟩ := bind_eq_ok_iff.1 h
  obtain ⟨operations, -, h⟩ := bind_eq_ok_iff.1 h
  rw [← pure_eq_ok_iff.1 h]
  exact hshared

/-- The operation with a method is read from the mapping for it. -/
theorem operation?_eq_some_iff (h : pathItem entries components = .ok item) {method : Method}
    {found : Operation} :
    item.operation? method = some found ↔
      ∃ call, operationEntries? entries method = some call ∧
        operation call item.parameters components = .ok found := by
  obtain ⟨shared, -, h⟩ := bind_eq_ok_iff.1 h
  obtain ⟨operations, hoperations, h⟩ := bind_eq_ok_iff.1 h
  obtain rfl := pure_eq_ok_iff.1 h
  exact Keyed.lookup_foldlM_eq_some_iff (f := addOperation shared components)
    (fun _ _ _ => addOperation_cases) hoperations

/-- The path item under a path is read from the mapping for it. -/
theorem pathItem?_eq_some_iff (h : read value = .ok api) {path : String} :
    api.pathItem? path = some item ↔
      ∃ entries, pathEntries? value path = some entries ∧
        pathItem entries (componentsOf value) = .ok item := by
  obtain ⟨entries, rfl, hcontents⟩ := exists_contents_of_read h
  obtain ⟨paths, hpaths, h⟩ := bind_eq_ok_iff.1 hcontents
  simp only [bind_eq_ok_iff, pure_eq_ok_iff] at h
  obtain ⟨_, -, _, -, _, -, _, -, rfl⟩ := h
  exact Keyed.lookup_foldlM_eq_some_iff (f := addPath (Entries.get entries "components"))
    (fun _ _ _ => addPath_cases) hpaths

end Api

end FlowCheck
