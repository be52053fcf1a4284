import FlowCheck.Proofs.Expression.Position
import FlowCheck.Proofs.InOrder

/-!
# Where expressions stand in a value

An expression stands in a nested value at a place: the numbers of the items and entries that lead
to a text, and then the position in the text. The keys of mappings and the members of sets are no
places. However a value is nested, the expressions that are collected from it are those that stand
somewhere in it, one for each place and in the order of the places (`inOrder_collect`).
-/

namespace FlowCheck.Expression

/-- An expression stands at a place of a value. -/
inductive StandsAt : Value → List ℕ → Expression → Prop
  /-- The expression is what its token is as a whole. -/
  | text {text : String} {i : ℕ} {e : Expression} : StartsAt text.toList i →
      ofText? (String.ofList (tokenAt text.toList i)) = some e → StandsAt (.str text) [i] e
  | item {items : List Value} {item : Value} {n : ℕ} {way : List ℕ} {e : Expression} :
      items[n]? = some item → StandsAt item way e → StandsAt (.list items) (n :: way) e
  | entry {entries : Entries} {entry : Value × Value} {n : ℕ} {way : List ℕ} {e : Expression} :
      entries[n]? = some entry → StandsAt entry.2 way e → StandsAt (.map entries) (n :: way) e

/-- An expression stands in one of the items, which are numbered from `start` on. -/
def StandsInItems (start : ℕ) (items : List Value) (place : List ℕ) (e : Expression) : Prop :=
  ∃ n item way, items[n]? = some item ∧ place = (start + n) :: way ∧ StandsAt item way e

/-- The positions of a text at which expressions start. -/
def positionsIn (text : String) : List ℕ :=
  (List.range text.toList.length).filter (StartsAt text.toList ·)

/-- The expression that starts at a position of a text. -/
def startingAt (text : String) (i : ℕ) : Expression :=
  ⟨Reference.ofText (tokenAt text.toList i), String.ofList (tokenAt text.toList i)⟩

variable {items : List Value} {place : List ℕ} {e : Expression}

/-! ## Texts -/

/-- The positions of a text are those at which an expression starts. -/
theorem mem_positionsIn {text : String} {i : ℕ} :
    i ∈ positionsIn text ↔ StartsAt text.toList i := by
  rw [positionsIn, List.mem_filter, List.mem_range, decide_eq_true_eq]
  exact and_iff_right_of_imp fun h => (List.getElem?_eq_some_iff.1 h.1).1

/-- The expressions inside a text start at its positions in order. -/
theorem embedded_eq_map (text : String) :
    embedded text = (positionsIn text).map (startingAt text) := by
  rw [embedded, tokens_eq_map, List.map_map]
  rfl

/-- The expressions inside a text are those that stand in it. -/
theorem inOrder_embedded (text : String) : InOrder (StandsAt (.str text)) (embedded text) := by
  have hsorted : (positionsIn text).Pairwise (· < ·) := List.pairwise_lt_range.filter _
  refine ⟨(positionsIn text).map fun i => ([i], startingAt text i), List.pairwise_map.2 ?_,
    fun place e => ?_, ?_⟩
  · exact hsorted.imp fun hlt => List.cons_lt_cons_iff.2 (.inl hlt)
  · rw [List.mem_map]
    constructor
    · rintro ⟨i, hi, heq⟩
      obtain ⟨rfl, rfl⟩ := Prod.mk.inj heq
      exact .text (mem_positionsIn.1 hi) (ofText?_dollar _)
    · rintro (⟨hstarts, htoken⟩)
      refine ⟨_, mem_positionsIn.2 hstarts, Prod.ext rfl ?_⟩
      exact Option.some.inj ((ofText?_dollar _).symm.trans htoken)
  · rw [embedded_eq_map, List.map_map]
    rfl

/-! ## Lists and mappings -/

/-- What stands in a list stands in one of its items. -/
theorem standsAt_list : StandsAt (.list items) place e ↔ StandsInItems 0 items place e := by
  constructor
  · rintro (_ | ⟨hitem, hstands⟩)
    exact ⟨_, _, _, hitem, by rw [Nat.zero_add], hstands⟩
  · rintro ⟨n, item, way, hitem, rfl, hstands⟩
    rw [Nat.zero_add]
    exact .item hitem hstands

/-- What stands in a mapping stands in the value of one of its entries. -/
theorem standsAt_map {entries : Entries} :
    StandsAt (.map entries) place e ↔ StandsInItems 0 (entries.map Prod.snd) place e := by
  constructor
  · rintro (_ | _ | ⟨hentry, hstands⟩)
    exact ⟨_, _, _, by rw [List.getElem?_map, hentry]; rfl, by rw [Nat.zero_add], hstands⟩
  · rintro ⟨n, item, way, hitem, rfl, hstands⟩
    rw [List.getElem?_map] at hitem
    obtain ⟨entry, hentry, rfl⟩ := Option.map_eq_some_iff.1 hitem
    rw [Nat.zero_add]
    exact .entry hentry hstands

/-- The first item has the number `start`, and the others are numbered from the next one on. -/
theorem standsInItems_cons {start : ℕ} {item : Value} :
    StandsInItems start (item :: items) place e ↔
      (∃ way, place = start :: way ∧ StandsAt item way e) ∨
        StandsInItems (start + 1) items place e := by
  constructor
  · rintro ⟨n, found, way, hfound, rfl, hstands⟩
    cases n with
    | zero =>
      obtain rfl := Option.some.inj hfound
      exact .inl ⟨way, rfl, hstands⟩
    | succ n =>
      refine .inr ⟨n, found, way, hfound, ?_, hstands⟩
      rw [Nat.add_right_comm, Nat.add_assoc]
  · rintro (⟨way, rfl, hstands⟩ | ⟨n, found, way, hfound, rfl, hstands⟩)
    · exact ⟨0, item, way, rfl, rfl, hstands⟩
    · refine ⟨n + 1, found, way, hfound, ?_, hstands⟩
      rw [Nat.add_right_comm, Nat.add_assoc]

/-- Nothing stands in no items. -/
theorem not_standsInItems_nil {start : ℕ} : ¬ StandsInItems start [] place e := by
  rintro ⟨_, _, _, hitem, -⟩
  simp at hitem

/-- What stands in a list of one item. -/
theorem standsAt_singleton {item : Value} :
    StandsAt (.list [item]) place e ↔ ∃ way, place = 0 :: way ∧ StandsAt item way e := by
  simp [standsAt_list, standsInItems_cons, not_standsInItems_nil]

/-- What stands in a list of two items. -/
theorem standsAt_pair {first second : Value} :
    StandsAt (.list [first, second]) place e ↔
      (∃ way, place = 0 :: way ∧ StandsAt first way e) ∨
        ∃ way, place = 1 :: way ∧ StandsAt second way e := by
  simp [standsAt_list, standsInItems_cons, not_standsInItems_nil]

/-- What stands in a list of three items. -/
theorem standsAt_triple {first second third : Value} :
    StandsAt (.list [first, second, third]) place e ↔
      (∃ way, place = 0 :: way ∧ StandsAt first way e) ∨
        (∃ way, place = 1 :: way ∧ StandsAt second way e) ∨
          ∃ way, place = 2 :: way ∧ StandsAt third way e := by
  simp [standsAt_list, standsInItems_cons, not_standsInItems_nil]

/-- What stands in a list of values that are made from other items. -/
theorem standsAt_list_map {α : Type} {f : α → Value} {xs : List α} :
    StandsAt (.list (xs.map f)) place e ↔
      ∃ n x way, xs[n]? = some x ∧ place = n :: way ∧ StandsAt (f x) way e := by
  simp only [standsAt_list, StandsInItems, List.getElem?_map, Option.map_eq_some_iff, Nat.zero_add]
  constructor
  · rintro ⟨n, _, way, ⟨x, hx, rfl⟩, hplace, hstands⟩
    exact ⟨n, x, way, hx, hplace, hstands⟩
  · rintro ⟨n, x, way, hx, hplace, hstands⟩
    exact ⟨n, f x, way, ⟨x, hx, rfl⟩, hplace, hstands⟩

/-- What stands in a list that may be missing. -/
theorem standsAt_getD {items? : Option (List Value)} :
    StandsAt (.list (items?.getD [])) place e ↔
      ∃ items, items? = some items ∧ StandsAt (.list items) place e := by
  cases items? with
  | none => simp [standsAt_list, not_standsInItems_nil]
  | some items => simp

/-- The expressions inside the items of a list are those that stand in the items, if this holds for
each item. -/
theorem inOrder_collectItems (h : ∀ item ∈ items, InOrder (StandsAt item) (collect item))
    (start : ℕ) : InOrder (StandsInItems start items) (collectItems items) := by
  induction items generalizing start with
  | nil => exact .nil fun _ _ => not_standsInItems_nil
  | cons item rest ih =>
    rw [List.forall_mem_cons] at h
    -- the number of the first item is less than all others, so its places come before theirs
    have hsplit := (h.1.under start).append (ih h.2 (start + 1)) ?_
    · exact hsplit.congr fun place e => standsInItems_cons.symm
    · rintro _ _ _ _ ⟨way, rfl, -⟩ ⟨n, _, way', -, rfl, -⟩
      exact List.cons_lt_cons_iff.2 (.inl (by omega))

/-- The expressions inside the values of a mapping are those inside the list of the values. -/
theorem collectEntries_eq (entries : Entries) :
    collectEntries entries = collectItems (entries.map Prod.snd) := by
  induction entries with
  | nil => rfl
  | cons entry rest ih => rw [collectEntries, ih, List.map_cons, collectItems]

/-- The expressions inside a list that is put together from two are those inside both. -/
theorem collectItems_append (items others : List Value) :
    collectItems (items ++ others) = collectItems items ++ collectItems others := by
  induction items with
  | nil => rfl
  | cons item rest ih => rw [List.cons_append, collectItems, ih, collectItems, List.append_assoc]

/-! ## All values -/

mutual

/-- What is collected from a value is what stands in it, in the order of the places. -/
theorem inOrder_collect : (value : Value) → InOrder (StandsAt value) (collect value)
  | .str text => inOrder_embedded text
  | .list items =>
    (inOrder_collectItems (forall_inOrder_items items) 0).congr fun _ _ => standsAt_list.symm
  | .map entries => by
    rw [collect, collectEntries_eq]
    refine (inOrder_collectItems (List.forall_mem_map.2 ?_) 0).congr fun _ _ => standsAt_map.symm
    exact forall_inOrder_entries entries
  | .null | .bool _ | .int _ | .float _ | .bytes _ | .date _ | .moment _ | .set _ => .nil nofun

/-- What is collected from each item of a list is what stands in it. -/
theorem forall_inOrder_items :
    (items : List Value) → ∀ item ∈ items, InOrder (StandsAt item) (collect item)
  | [] => nofun
  | item :: rest =>
    List.forall_mem_cons.2 ⟨inOrder_collect item, forall_inOrder_items rest⟩

/-- What is collected from the value of each entry of a mapping is what stands in it. -/
theorem forall_inOrder_entries : (entries : List (Value × Value)) →
    ∀ entry ∈ entries, InOrder (StandsAt entry.2) (collect entry.2)
  | [] => nofun
  | (_, value) :: rest =>
    List.forall_mem_cons.2 ⟨inOrder_collect value, forall_inOrder_entries rest⟩

end

/-- What stands in a value is what its text is as a whole. -/
theorem StandsAt.ofText?_raw {value : Value} (h : StandsAt value place e) :
    ofText? e.raw = some e := by
  induction h with
  | text _ htoken =>
    have hraw := congrArg Expression.raw (Option.some.inj ((ofText?_dollar _).symm.trans htoken))
    rw [← hraw]
    exact htoken
  | item _ _ ih => exact ih
  | entry _ _ ih => exact ih

/-- Two references to outputs that stand in values have the same text if they refer to the same
path of the same step. -/
theorem StandsAt.raw_eq {value other : Value} {place' : List ℕ} {id path raw raw' : String}
    (h : StandsAt value place ⟨.stepOutput id path, raw⟩)
    (hother : StandsAt other place' ⟨.stepOutput id path, raw'⟩) : raw = raw' := by
  have hform {value : Value} {place : List ℕ} {raw : String}
      (h : StandsAt value place ⟨.stepOutput id path, raw⟩) :
      Reference.IsStepOutput raw.toList id path := by
    have hwhole := h.ofText?_raw
    rw [ofText?] at hwhole
    split at hwhole
    · exact Reference.ofText_eq_stepOutput_iff.1
        (congrArg Expression.target (Option.some.inj hwhole))
    · cases hwhole
  exact String.toList_inj.1 ((hform h).text_eq.trans (hform hother).text_eq.symm)

end FlowCheck.Expression
