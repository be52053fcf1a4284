import FlowCheck.Value.Display
import FlowCheck.Proofs.Result

/-!
# Values that have a text

The only values without a text are those that hold an integer with too many digits.
-/

namespace FlowCheck

open Result

namespace Value

mutual

/-- All integers in the value have few enough digits to be written. -/
def ShortInts : Value → Prop
  | .int n => n.natAbs < Nat.pow 10 maxDigits
  | .list items => ShortItems items
  | .map entries => ShortEntries entries
  | .set members => ShortItems members
  | _ => True
termination_by structural x => x

/-- All integers in the items have few enough digits. -/
def ShortItems : List Value → Prop
  | [] => True
  | x :: xs => x.ShortInts ∧ ShortItems xs
termination_by structural xs => xs

/-- All integers in the entries have few enough digits. -/
def ShortEntries : List (Value × Value) → Prop
  | [] => True
  | (k, v) :: rest => k.ShortInts ∧ v.ShortInts ∧ ShortEntries rest
termination_by structural xs => xs

end

/-- A list has short integers when each of its items has. -/
theorem shortInts_list_iff {items : List Value} :
    (Value.list items).ShortInts ↔ ∀ item ∈ items, item.ShortInts := by
  change ShortItems items ↔ _
  induction items with
  | nil => exact iff_of_true trivial (by simp)
  | cons item rest ih => rw [ShortItems, List.forall_mem_cons, ih]

/-- An integer is written exactly if it has few enough digits. -/
theorem exists_intText_iff {n : Int} :
    (∃ text, intText n = .ok text) ↔ n.natAbs < Nat.pow 10 maxDigits := by
  rw [intText]
  split <;> simp_all

mutual

/-- A value shows inside a listing exactly if its integers are short. -/
theorem exists_display_iff (value : Value) :
    (∃ text, value.display = .ok text) ↔ value.ShortInts := by
  cases value with
  | int n => simp only [display, scalarDisplay, ShortInts, exists_intText_iff]
  | list items =>
    simp only [display, ShortInts, ← exists_displayItems_iff items]
    exact exists_bind_pure_iff
  | map entries =>
    simp only [display, ShortInts, ← exists_displayEntries_iff entries]
    exact exists_bind_pure_iff
  | set members =>
    cases members with
    | nil => exact iff_of_true ⟨_, rfl⟩ trivial
    | cons member rest =>
      simp only [display, ShortInts, ShortItems, ← exists_display_iff member,
        ← exists_displayItems_iff rest, bind_eq_ok_iff, pure_eq_ok_iff]
      grind
  | _ => exact iff_of_true ⟨_, rfl⟩ trivial
termination_by structural value

/-- The items show if each of them has short integers. -/
theorem exists_displayItems_iff (items : List Value) :
    (∃ parts, displayItems items = .ok parts) ↔ ShortItems items := by
  cases items with
  | nil => exact iff_of_true ⟨_, rfl⟩ trivial
  | cons x xs =>
    simp only [displayItems, ShortItems, ← exists_display_iff x, ← exists_displayItems_iff xs,
      bind_eq_ok_iff, pure_eq_ok_iff]
    grind
termination_by structural items

/-- The entries show if the keys and the values have short integers. -/
theorem exists_displayEntries_iff (entries : List (Value × Value)) :
    (∃ parts, displayEntries entries = .ok parts) ↔ ShortEntries entries := by
  cases entries with
  | nil => exact iff_of_true ⟨_, rfl⟩ trivial
  | cons entry rest =>
    obtain ⟨k, v⟩ := entry
    simp only [displayEntries, ShortEntries, ← exists_display_iff k, ← exists_display_iff v,
      ← exists_displayEntries_iff rest, bind_eq_ok_iff, pure_eq_ok_iff]
    grind
termination_by structural entries

end

/-- A value has a text exactly if its integers are short. -/
theorem exists_text_iff {value : Value} : (∃ text, value.text = .ok text) ↔ value.ShortInts := by
  cases value with
  -- these three have a text of their own, everything else has the one that shows in a listing
  | str | date | moment => exact iff_of_true ⟨_, rfl⟩ trivial
  | _ => exact exists_display_iff _

mutual

/-- Only an integer with too many digits keeps a value from showing inside a listing. -/
theorem display_eq_error (value : Value) {fault : Fault} (h : value.display = .error fault) :
    fault = .numberTooLong := by
  cases value with
  | int n =>
    simp only [display, scalarDisplay, intText] at h
    split at h
    · cases h
    · exact (Except.error.inj h).symm
  | list items =>
    exact displayItems_eq_error items (bind_pure_eq_error_iff.1 h)
  | map entries =>
    exact displayEntries_eq_error entries (bind_pure_eq_error_iff.1 h)
  | set members =>
    cases members with
    | nil => cases h
    | cons member rest =>
      obtain hmember | ⟨_, -, hrest⟩ := bind_eq_error_iff.1 h
      · exact display_eq_error member hmember
      · exact displayItems_eq_error rest (bind_pure_eq_error_iff.1 hrest)
  | _ => cases h
termination_by structural value

/-- Only an integer with too many digits keeps items from showing. -/
theorem displayItems_eq_error (items : List Value) {fault : Fault}
    (h : displayItems items = .error fault) : fault = .numberTooLong := by
  cases items with
  | nil => cases h
  | cons x xs =>
    obtain hfirst | ⟨_, -, hrest⟩ := bind_eq_error_iff.1 h
    · exact display_eq_error x hfirst
    · exact displayItems_eq_error xs (bind_pure_eq_error_iff.1 hrest)
termination_by structural items

/-- Only an integer with too many digits keeps entries from showing. -/
theorem displayEntries_eq_error (entries : List (Value × Value)) {fault : Fault}
    (h : displayEntries entries = .error fault) : fault = .numberTooLong := by
  cases entries with
  | nil => cases h
  | cons entry rest =>
    obtain ⟨k, v⟩ := entry
    obtain hkey | ⟨_, -, hothers⟩ := bind_eq_error_iff.1 h
    · exact display_eq_error k hkey
    obtain hvalue | ⟨_, -, hrest⟩ := bind_eq_error_iff.1 hothers
    · exact display_eq_error v hvalue
    · exact displayEntries_eq_error rest (bind_pure_eq_error_iff.1 hrest)
termination_by structural entries

end

/-- Only an integer with too many digits keeps a value from having a text. -/
theorem text_eq_error {value : Value} {fault : Fault} (h : value.text = .error fault) :
    fault = .numberTooLong := by
  cases value with
  | str | date | moment => cases h
  | _ => exact display_eq_error _ h

/-- A value with short integers has a text. -/
theorem exists_text {value : Value} (h : value.ShortInts) : ∃ text, value.text = .ok text :=
  exists_text_iff.2 h

/-- What stands under a key of a mapping with short integers has short integers. -/
theorem shortInts_get {entries : Entries} (h : (Value.map entries).ShortInts) (key : String) :
    (Entries.get entries key).ShortInts := by
  change ShortEntries entries at h
  induction entries with
  | nil => trivial
  | cons entry rest ih =>
    rw [Entries.get, Entries.find?_cons]
    split
    · exact h.2.1
    · exact ih h.2.2

end Value

end FlowCheck
