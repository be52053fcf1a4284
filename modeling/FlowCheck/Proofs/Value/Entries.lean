import FlowCheck.Value
import Mathlib.Data.List.Nodup

/-!
# Entries of a mapping

What is found in entries that are written field by field and followed by others. When the keys of
the fields are distinct and none of the other entries has one of them, every field is found, and
leaving out the keys of the fields gives the others back (`Entries.shows_ofFields`).

Keys need not be texts. `Entries.Found` says what stands under any key.
-/

namespace FlowCheck

/-- A value that is left out when it is null is taken for null when it is missing. -/
@[simp]
theorem Value.getD_given? (value : Value) : value.given?.getD .null = value := by
  cases value <;> rfl

namespace Entries

variable {key : String} {keys : List String} {fields : List (String × Option Value)}
  {entries others : Entries}

/-- A key is looked for in the first entries before the others. -/
theorem find?_append (xs ys : Entries) (key : String) :
    Entries.find? (xs ++ ys) key = (Entries.find? xs key).or (Entries.find? ys key) := by
  simp only [Entries.find?, List.find?_append, Option.map_or]

/-- The first field decides when its key is the one looked for and it has a value. -/
theorem find?_ofFields_cons (field key : String) (value : Option Value) :
    Entries.find? (ofFields ((field, value) :: fields)) key =
      (if field = key then value else none).or (Entries.find? (ofFields fields) key) := by
  cases value <;> simp [ofFields, find?_cons, Value.isStr]
  split <;> rfl

/-- A key that no field has is not found. -/
theorem find?_ofFields_of_notMem (h : key ∉ fields.map Prod.fst) :
    Entries.find? (ofFields fields) key = none := by
  induction fields with
  | nil => rfl
  | cons field rest ih =>
    rw [List.map_cons, List.mem_cons, not_or] at h
    rw [find?_ofFields_cons, if_neg (Ne.symm h.1), Option.none_or, ih h.2]

/-- Under the key of a field stands its value. -/
theorem find?_ofFields (hnodup : (fields.map Prod.fst).Nodup) {value : Option Value}
    (hmem : (key, value) ∈ fields) : Entries.find? (ofFields fields) key = value := by
  induction fields with
  | nil => exact absurd hmem List.not_mem_nil
  | cons field rest ih =>
    rw [List.map_cons, List.nodup_cons] at hnodup
    rw [find?_ofFields_cons]
    obtain rfl | hmem := List.mem_cons.1 hmem
    · rw [if_pos rfl, find?_ofFields_of_notMem hnodup.1, Option.or_none]
    · have hne : field.1 ≠ key := fun heq =>
        hnodup.1 (heq ▸ List.mem_map_of_mem (f := Prod.fst) hmem)
      rw [if_neg hne, Option.none_or, ih hnodup.2 hmem]

/-- A key that was left out is not found. -/
theorem find?_without (entries : Entries) (h : key ∈ keys) :
    Entries.find? (without entries keys) key = none := by
  simp only [Entries.find?, without, Option.map_eq_none_iff, List.find?_eq_none, List.mem_filter]
  rintro entry ⟨-, hkeys⟩ hkey
  have : keys.any (entry.1.isStr ·) = true := List.any_eq_true.2 ⟨key, h, hkey⟩
  simp [this] at hkeys

/-- What is left without some keys has none of them. -/
theorem without_eq_self (h : without entries keys = others) : without others keys = others := by
  rw [← h, without_without]

/-- Under the key of a field stands its value, also when entries without such keys follow. -/
theorem find?_ofFields_append (hnodup : (fields.map Prod.fst).Nodup)
    (hothers : without others (fields.map Prod.fst) = others) {value : Option Value}
    (hmem : (key, value) ∈ fields) : Entries.find? (ofFields fields ++ others) key = value := by
  have hnone : Entries.find? others key = none := by
    rw [← hothers]
    exact find?_without others (List.mem_map_of_mem (f := Prod.fst) hmem)
  rw [find?_append, find?_ofFields hnodup hmem, hnone, Option.or_none]

/-- The entries show the fields, which have the keys, and then others, which do not. -/
structure Shows (entries : Entries) (keys : List String) (fields : List (String × Option Value))
    (others : Entries) : Prop where
  /-- Under the key of a field stands its value, or nothing. -/
  get_field : ∀ field ∈ fields, Entries.get entries field.1 = field.2.getD .null
  /-- Under other keys stands what the other entries have there. -/
  get_other : ∀ key ∉ keys, Entries.get entries key = Entries.get others key
  /-- Without the keys only the others are left. -/
  without_keys : without entries keys = others

/-- Fields with distinct keys are shown as they are written. -/
theorem shows_ofFields (hkeys : fields.map Prod.fst = keys) (hnodup : keys.Nodup)
    (hothers : without others keys = others) :
    Shows (ofFields fields ++ others) keys fields others := by
  subst hkeys
  constructor
  · rintro ⟨key, value⟩ hmem
    rw [Entries.get, find?_ofFields_append hnodup hothers hmem]
  · intro key hkey
    rw [Entries.get, find?_append, find?_ofFields_of_notMem hkey, Option.none_or, Entries.get]
  · have hfields : without (ofFields fields) (fields.map Prod.fst) = [] := by
      simp only [without, ofFields, List.filter_eq_nil_iff, List.mem_filterMap]
      rintro entry ⟨field, hmem, hentry⟩
      obtain ⟨value, -, rfl⟩ := Option.map_eq_some_iff.1 hentry
      simpa [Value.isStr] using ⟨_, hmem⟩
    rw [without, List.filter_append, ← without, ← without, hfields, hothers, List.nil_append]

/-! ## Under any key -/

/-- The first entry under the key has the value. -/
def Found (key value : Value) : Entries → Prop
  | [] => False
  | entry :: rest => entry = (key, value) ∨ entry.1 ≠ key ∧ Found key value rest

end Entries

/-- The key is one of the texts. -/
def Value.IsKeyOf (keys : List String) (key : Value) : Prop :=
  ∃ field ∈ keys, key = .str field

/-- Only the text itself is a text. -/
theorem Value.isStr_iff {value : Value} {text : String} :
    value.isStr text = true ↔ value = .str text := by
  cases value <;> simp [isStr]

namespace Entries

variable {value : Value} {k : Value}

/-- What stands under a text key is what is found there. -/
theorem found_str_iff :
    Found (.str key) value entries ↔ Entries.find? entries key = some value := by
  induction entries with
  | nil => simp [Found]
  | cons entry rest ih =>
    rw [Found, find?_cons, ih]
    by_cases hkey : entry.1 = .str key
    · simp [Value.isStr_iff, hkey, Prod.ext_iff]
    · simp [Value.isStr_iff, hkey, Prod.ext_iff]

/-- What stands under a key is there. -/
theorem mem_of_found (h : Found k value entries) : (k, value) ∈ entries := by
  induction entries with
  | nil => exact h.elim
  | cons entry rest ih =>
    rcases h with rfl | ⟨-, h⟩
    · exact List.mem_cons_self
    · exact List.mem_cons_of_mem _ (ih h)

/-- Entries under other keys do not matter. -/
theorem found_append_iff {xs ys : Entries} (h : ∀ entry ∈ xs, entry.1 ≠ k) :
    Found k value (xs ++ ys) ↔ Found k value ys := by
  induction xs with
  | nil => rfl
  | cons entry rest ih =>
    rw [List.forall_mem_cons] at h
    rw [List.cons_append, Found, ih h.2, and_iff_right h.1]
    exact or_iff_right fun heq => h.1 (congrArg Prod.fst heq)

/-- A key is left out exactly if it is one of the texts. -/
theorem found_without_iff :
    Found k value (without entries keys) ↔ Found k value entries ∧ ¬ k.IsKeyOf keys := by
  induction entries with
  | nil => simp [without, Found]
  | cons entry rest ih =>
    have hany : (keys.any fun key => entry.1.isStr key) = true ↔ entry.1.IsKeyOf keys := by
      simp [Value.isStr_iff, Value.IsKeyOf]
    by_cases hkeys : entry.1.IsKeyOf keys
    · -- the first entry is left out, and it does not stand under a key that is kept
      have hdrop : without (entry :: rest) keys = without rest keys := by
        simp [without, hany.2 hkeys]
      rw [hdrop, ih]
      refine and_congr_left fun hk => ?_
      have hne : entry.1 ≠ k := fun heq => hk (heq ▸ hkeys)
      rw [Found, and_iff_right hne]
      exact (or_iff_right fun heq => hne (congrArg Prod.fst heq)).symm
    · have hkeep : without (entry :: rest) keys = entry :: without rest keys := by
        simp [without, Bool.eq_false_iff.2 (mt hany.1 hkeys)]
      rw [hkeep, Found, Found, ih]
      constructor
      · rintro (rfl | ⟨hne, hfound, hk⟩)
        · exact ⟨.inl rfl, hkeys⟩
        · exact ⟨.inr ⟨hne, hfound⟩, hk⟩
      · rintro ⟨rfl | ⟨hne, hfound⟩, hk⟩
        · exact .inl rfl
        · exact .inr ⟨hne, hfound, hk⟩

/-- All keys of fields are texts. -/
theorem isKeyOf_of_mem_ofFields {entry : Value × Value} (h : entry ∈ ofFields fields) :
    entry.1.IsKeyOf (fields.map Prod.fst) := by
  obtain ⟨field, hmem, hfield⟩ := List.mem_filterMap.1 h
  obtain ⟨_, -, rfl⟩ := Option.map_eq_some_iff.1 hfield
  exact ⟨field.1, List.mem_map_of_mem (f := Prod.fst) hmem, rfl⟩

/-! ## Putting values in -/

variable {field : String}

/-- Only the text itself is the same as a text. -/
theorem same_str (k : Value) (key : String) : k.same (.str key) = k.isStr key := by
  cases k <;> rfl

/-- The same values are the same texts. -/
theorem isStr_of_same {k k' : Value} (h : k.same k' = true) (key : String) :
    k'.isStr key = k.isStr key := by
  cases k' with
  | str text =>
    rw [same_str] at h
    rw [Value.isStr_iff.1 h]
  | _ => cases k <;> simp_all [Value.same, Value.isStr]

/-- Under a text key stands what was put in last under it. -/
theorem find?_insert (entries : Entries) (k value : Value) (key : String) :
    Entries.find? (Entries.insert entries k value) key =
      if k.isStr key then some value else Entries.find? entries key := by
  induction entries with
  | nil => rw [Entries.insert, find?_cons]
  | cons entry rest ih =>
    rw [Entries.insert]
    split
    · next hsame =>
      rw [find?_cons, find?_cons, isStr_of_same hsame]
      split <;> rfl
    · next hother =>
      rw [find?_cons, find?_cons, ih]
      -- a key that is the text looked for is the only one that is
      split
      · next hentry =>
        rw [if_neg fun hk => hother ?_]
        rw [Value.isStr_iff.1 hk, same_str]
        exact hentry
      · rfl

/-- Of several values under a text key the last one stays. -/
theorem find?_ofPairs {xs ys : List (Value × Value)} {k value : Value} {key : String}
    (hk : k.isStr key = true) (hys : ∀ pair ∈ ys, pair.1.isStr key = false) :
    Entries.find? (Entries.ofPairs (xs ++ (k, value) :: ys)) key = some value := by
  have hlast (entries : Entries) : Entries.find?
      (ys.foldl (fun entries pair => entries.insert pair.1 pair.2) entries) key =
        Entries.find? entries key := by
    induction ys generalizing entries with
    | nil => rfl
    | cons pair rest ih =>
      rw [List.forall_mem_cons] at hys
      rw [List.foldl_cons, ih hys.2, find?_insert, hys.1, if_neg Bool.false_ne_true]
  rw [Entries.ofPairs, List.foldl_append, List.foldl_cons, hlast, find?_insert, if_pos hk]

/-- Under a key stands what was put there. -/
theorem get_insert_self (entries : Entries) (key : String) (value : Value) :
    Entries.get (Entries.insert entries (.str key) value) key = value := by
  rw [Entries.get, find?_insert, if_pos (Value.isStr_iff.2 rfl), Option.getD_some]

/-- Other keys keep what stands there. -/
theorem get_insert_of_ne (entries : Entries) (value : Value) (h : field ≠ key) :
    Entries.get (Entries.insert entries (.str key) value) field = Entries.get entries field := by
  have hne : (Value.str key).isStr field = false := beq_false_of_ne (Ne.symm h)
  rw [Entries.get, find?_insert, hne, if_neg Bool.false_ne_true, Entries.get]

/-- The last of some fields takes the value that is put in under its key. -/
theorem insert_ofFields_append {others : Entries} (h : key ∉ fields.map Prod.fst)
    (old new : Value) :
    Entries.insert (ofFields (fields ++ [(key, some old)]) ++ others) (.str key) new =
      ofFields (fields ++ [(key, some new)]) ++ others := by
  induction fields with
  | nil => simp [ofFields, Entries.insert, same_str, Value.isStr]
  | cons field rest ih =>
    rw [List.map_cons, List.mem_cons, not_or] at h
    obtain ⟨name, _ | value⟩ := field
    · exact ih h.2
    · have hother : (Value.str name).same (.str key) = false := by
        rw [same_str]
        exact beq_false_of_ne (Ne.symm h.1)
      change Entries.insert ((.str name, value) :: _) _ _ = (.str name, value) :: _
      rw [Entries.insert, hother, if_neg Bool.false_ne_true]
      exact congrArg _ (ih h.2)

end Entries

end FlowCheck
