import FlowCheck.Proofs.Value.Display
import FlowCheck.Value.Json

/-!
# Values that have a form in JSON

A value has a form in JSON when each of its parts has one (`Value.exists_json_iff`). Dates, byte
strings and sets have none, nor do integers with too many digits; a key of a mapping has to be a
scalar that has one.
-/

namespace FlowCheck.Value

open Result

/-- The value is a scalar that has a form in JSON. -/
def IsJsonScalar : Value → Prop
  | .null | .bool _ | .float _ | .str _ => True
  | .int n => n.natAbs < Nat.pow 10 maxDigits
  | _ => False

mutual

/-- The value has a form in JSON. -/
def HasJson : Value → Prop
  | .list items => HasJsonItems items
  | .map entries => HasJsonEntries entries
  | scalar => scalar.IsJsonScalar
termination_by structural value => value

/-- Each of the items has a form in JSON. -/
def HasJsonItems : List Value → Prop
  | [] => True
  | item :: rest => item.HasJson ∧ HasJsonItems rest
termination_by structural items => items

/-- Each of the entries has a scalar as its key, and the key and the value have a form in JSON. -/
def HasJsonEntries : List (Value × Value) → Prop
  | [] => True
  | (key, value) :: rest => key.IsJsonScalar ∧ value.HasJson ∧ HasJsonEntries rest
termination_by structural entries => entries

end

/-- A text has a form in JSON. -/
@[simp]
theorem hasJson_str (text : String) : (Value.str text).HasJson := trivial

/-- A truth value has a form in JSON. -/
@[simp]
theorem hasJson_bool (b : Bool) : (Value.bool b).HasJson := trivial

/-- A text, or nothing, has a form in JSON. -/
@[simp]
theorem hasJson_ofStr? (text : Option String) : (Value.ofStr? text).HasJson := by
  cases text <;> trivial

/-- A list has a form in JSON when its items have. -/
@[simp]
theorem hasJson_list {items : List Value} :
    (Value.list items).HasJson ↔ ∀ item ∈ items, item.HasJson := by
  change HasJsonItems items ↔ _
  induction items with
  | nil => exact iff_of_true trivial (by simp)
  | cons item rest ih => rw [HasJsonItems, List.forall_mem_cons, ih]

/-- A mapping has a form in JSON when its keys are scalars and its keys and values have. -/
@[simp]
theorem hasJson_map {entries : List (Value × Value)} :
    (Value.map entries).HasJson ↔ ∀ entry ∈ entries, entry.1.IsJsonScalar ∧ entry.2.HasJson := by
  change HasJsonEntries entries ↔ _
  induction entries with
  | nil => exact iff_of_true trivial (by simp)
  | cons entry rest ih => rw [HasJsonEntries, List.forall_mem_cons, ih, and_assoc]

/-- A scalar is written when it has a form in JSON. -/
theorem exists_jsonScalar_iff {value : Value} :
    (∃ text, jsonScalar value = .ok text) ↔ value.IsJsonScalar := by
  cases value with
  | null | bool | float | str => exact iff_of_true ⟨_, rfl⟩ trivial
  | int n => simp only [jsonScalar, IsJsonScalar, exists_intText_iff]
  | _ => exact iff_of_false (by simp [jsonScalar]) id

/-- A key is written when it is a scalar that has a form in JSON. -/
theorem exists_jsonKey_iff {key : Value} :
    (∃ text, jsonKey key = .ok text) ↔ key.IsJsonScalar := by
  rw [← exists_jsonScalar_iff]
  cases key with
  | str text => exact iff_of_true ⟨_, rfl⟩ ⟨_, rfl⟩
  | _ => simp [jsonKey, map_eq_ok_iff]

variable (indent : Indent)

mutual

/-- A value is written, at any level, when it has a form in JSON. -/
theorem exists_jsonAt_iff (level : ℕ) (value : Value) :
    (∃ text, jsonAt indent level value = .ok text) ↔ value.HasJson := by
  cases value with
  | list items =>
    simp only [jsonAt, HasJson, ← exists_jsonItems_iff (level + 1) items]
    exact exists_bind_pure_iff
  | map entries =>
    simp only [jsonAt, HasJson, ← exists_jsonEntries_iff (level + 1) entries]
    exact exists_bind_pure_iff
  | _ => simp only [jsonAt, HasJson, exists_jsonScalar_iff]
termination_by structural value

/-- Items are written when each of them has a form in JSON. -/
theorem exists_jsonItems_iff (level : ℕ) (items : List Value) :
    (∃ texts, jsonItems indent level items = .ok texts) ↔ HasJsonItems items := by
  cases items with
  | nil => exact iff_of_true ⟨_, rfl⟩ trivial
  | cons item rest =>
    simp only [jsonItems, HasJsonItems, ← exists_jsonAt_iff level item,
      ← exists_jsonItems_iff level rest, bind_eq_ok_iff, pure_eq_ok_iff]
    grind
termination_by structural items

/-- Entries are written when each of them has a form in JSON. -/
theorem exists_jsonEntries_iff (level : ℕ) (entries : List (Value × Value)) :
    (∃ texts, jsonEntries indent level entries = .ok texts) ↔ HasJsonEntries entries := by
  cases entries with
  | nil => exact iff_of_true ⟨_, rfl⟩ trivial
  | cons entry rest =>
    obtain ⟨key, value⟩ := entry
    simp only [jsonEntries, HasJsonEntries, ← exists_jsonKey_iff, ← exists_jsonAt_iff level value,
      ← exists_jsonEntries_iff level rest, bind_eq_ok_iff, pure_eq_ok_iff]
    grind
termination_by structural entries

end

/-- A value has a text in JSON, with any layout, exactly if it has a form in JSON. -/
theorem exists_json_iff {value : Value} :
    (∃ text, value.json indent = .ok text) ↔ value.HasJson :=
  exists_jsonAt_iff indent 0 value

end FlowCheck.Value
