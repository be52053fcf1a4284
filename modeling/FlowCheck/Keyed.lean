/-!
# Lists of values under keys

An ordered table: each key stands in the list once, in the order in which the keys were first put.
-/

namespace FlowCheck.Keyed

/-- Puts a value under a key. A key that is there keeps its place and takes the new value. -/
def put {α β : Type} [BEq α] (key : α) (value : β) : List (α × β) → List (α × β)
  | [] => [(key, value)]
  | (k, v) :: rest => if k == key then (k, value) :: rest else (k, v) :: put key value rest

variable {α β : Type} [BEq α] [LawfulBEq α]

/-- The value that was put last is found under its key. -/
theorem lookup_put_self (key : α) (value : β) (table : List (α × β)) :
    (put key value table).lookup key = some value := by
  induction table with
  | nil => simp [put]
  | cons entry rest ih =>
    obtain ⟨k, v⟩ := entry
    by_cases h : k = key
    · simp [put, h]
    · simp [put, h, List.lookup_cons, beq_eq_false_iff_ne.2 (Ne.symm h), ih]

/-- A new key comes last. -/
theorem put_of_notMem {key : α} {table : List (α × β)} (value : β)
    (h : key ∉ table.map Prod.fst) : put key value table = table ++ [(key, value)] := by
  induction table with
  | nil => rfl
  | cons entry rest ih =>
    rw [List.map_cons, List.mem_cons, not_or] at h
    simp [put, Ne.symm h.1, ih h.2]

/-- Putting a value changes nothing under the other keys. -/
theorem lookup_put_of_ne {key other : α} (value : β) (table : List (α × β)) (h : other ≠ key) :
    (put key value table).lookup other = table.lookup other := by
  induction table with
  | nil => simp [put, List.lookup_cons, beq_eq_false_iff_ne.2 h]
  | cons entry rest ih =>
    obtain ⟨k, v⟩ := entry
    by_cases hk : k = key
    · subst hk
      simp [put, List.lookup_cons, beq_eq_false_iff_ne.2 h]
    · simp [put, hk, List.lookup_cons, ih]

/-- Putting a value keeps the order of the keys; a new one comes last. -/
theorem keys_put (key : α) (value : β) (table : List (α × β)) :
    (put key value table).map Prod.fst =
      if key ∈ table.map Prod.fst then table.map Prod.fst else table.map Prod.fst ++ [key] := by
  induction table with
  | nil => rfl
  | cons entry rest ih =>
    obtain ⟨k, v⟩ := entry
    by_cases h : k = key
    · simp [put, h]
    · simp only [put, beq_eq_false_iff_ne.2 h, List.map_cons, ih, List.mem_cons, Ne.symm h,
        false_or, Bool.false_eq_true, if_false]
      split <;> rfl

/-- Each key stands in the table once, whatever is put. -/
theorem nodup_put {key : α} {table : List (α × β)} (value : β)
    (h : (table.map Prod.fst).Nodup) : ((put key value table).map Prod.fst).Nodup := by
  rw [keys_put]
  split
  · exact h
  · next hnew =>
    refine List.nodup_append.2 ⟨h, by simp, fun k hk other hother => ?_⟩
    rw [List.mem_singleton.1 hother]
    exact fun heq => hnew (heq ▸ hk)

/-- The value that is found in a table of items is that of the first item with the key. -/
theorem lookup_map {γ : Type} (key : γ → α) (value : γ → β) (k : α) (items : List γ) :
    (items.map fun item => (key item, value item)).lookup k =
      (items.find? (key · == k)).map value := by
  induction items with
  | nil => rfl
  | cons item rest ih =>
    rw [List.map_cons, List.lookup_cons, List.find?_cons, BEq.comm]
    cases key item == k <;> simp [ih]

/-- What is found under a key is in the table. -/
theorem mem_of_lookup {key : α} {value : β} {table : List (α × β)}
    (h : table.lookup key = some value) : (key, value) ∈ table := by
  obtain ⟨before, after, rfl, -⟩ := List.lookup_eq_some_iff.1 h
  simp

/-- Where each key stands once, every entry is found under its key. -/
theorem lookup_of_mem {key : α} {value : β} {table : List (α × β)}
    (hnodup : (table.map Prod.fst).Nodup) (h : (key, value) ∈ table) :
    table.lookup key = some value := by
  obtain ⟨before, after, rfl⟩ := List.append_of_mem h
  refine List.lookup_eq_some_iff.2 ⟨before, after, rfl, fun entry hentry => bne_iff_ne.2 ?_⟩
  rw [List.map_append, List.nodup_append] at hnodup
  exact (hnodup.2.2 entry.1 (List.mem_map_of_mem hentry) key List.mem_cons_self).symm

/-- A selection does not change when a value is put under a key that it leaves out. -/
theorem filter_put_of_neg {key : α} {p : α × β → Bool} (h : ∀ value, p (key, value) = false)
    (value : β) (table : List (α × β)) : (put key value table).filter p = table.filter p := by
  induction table with
  | nil => rw [put, List.filter_cons_of_neg (Bool.eq_false_iff.1 (h value))]
  | cons entry rest ih =>
    obtain ⟨k, v⟩ := entry
    by_cases hk : k = key
    · subst hk
      simp [put, h]
    · rw [put, if_neg (mt beq_iff_eq.1 hk), List.filter_cons, List.filter_cons, ih]

/-- Of several values that are put under a key one after the other, the last one stays. -/
theorem lookup_foldl_put (key : α) (entries table : List (α × β)) :
    (entries.foldl (fun table entry => put entry.1 entry.2 table) table).lookup key =
      (entries.reverse.lookup key).or (table.lookup key) := by
  induction entries generalizing table with
  | nil => simp
  | cons entry rest ih =>
    rw [List.foldl_cons, ih, List.reverse_cons, List.lookup_append, Option.or_assoc]
    congr 1
    by_cases h : key = entry.1
    · rw [h, lookup_put_self, List.lookup_cons_self, Option.some_or]
    · rw [lookup_put_of_ne _ _ h, List.lookup_cons, beq_eq_false_iff_ne.2 h, List.lookup_nil,
        Option.none_or]

end FlowCheck.Keyed
