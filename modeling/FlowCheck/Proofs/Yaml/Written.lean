import FlowCheck.Proofs.Result
import FlowCheck.Proofs.Value.Entries
import FlowCheck.Proofs.Yaml.Issue

/-!
# Keys that are written in a mapping

A mapping can take in entries of others by merge keys, and its value does not tell where its entries
come from. Here the entries that a mapping has of its own are looked at in the node. Entries that
were merged come first, so that the value under a key that is written is that of the last own entry
with the key (`find?_of_writtenAt?`). For that the node has to be one that can be read (`IsSound`),
which every node is that has a value (`isSound_of_toValue_eq_ok`).
-/

namespace FlowCheck

/-- The value is no mapping and no list. -/
def Value.IsFlat (value : Value) : Prop :=
  (∀ entries, value ≠ .map entries) ∧ ∀ items, value ≠ .list items

namespace Yaml.Node

/-- An own entry of a mapping, as it stands there when merge keys are resolved. -/
def ownEntry (entry : Node × Node) : Node × Node :=
  plainKey (entry.1.merged, entry.2.merged)

/-- The key of the entry reads as a text. -/
def reads (key : String) (entry : Node × Node) : Bool :=
  !isMerge entry && (ownEntry entry).1.value.isStr key

/-- The line of a key in a mapping, counted from 1, and the node under it, if the last own entry
that reads as the key has it written as a scalar. -/
def writtenAt? (key : String) : Node → Option (ℕ × Node)
  | .mapping _ entries _ =>
    match entries.reverse.find? (reads key) with
    | some (.scalar _ text line, value) => if text = key then some (line + 1, value) else none
    | _ => none
  | _ => none

/-- The node can be read: it has no issue. -/
def IsSound (node : Node) : Prop :=
  ∃ depth, node.merged.issues depth = []

variable {node child : Node} {key : String} {line : ℕ}

/-- A key that is written in a mapping is that of an own entry, and no later one reads as it. -/
theorem writtenAt?_eq_some (h : node.writtenAt? key = some (line, child)) :
    ∃ tag kind before after start place,
      node = .mapping tag (before ++ (.scalar kind key place, child) :: after) start ∧
        line = place + 1 ∧ reads key (.scalar kind key place, child) = true ∧
        ∀ entry ∈ after, reads key entry = false := by
  cases node with
  | mapping tag entries start =>
    rw [writtenAt?] at h
    split at h
    · next kind text place found hfind =>
      split at h
      · next htext =>
        obtain ⟨rfl, rfl⟩ := Prod.mk.inj (Option.some.inj h)
        obtain ⟨hreads, front, back, hsplit, hnone⟩ := List.find?_eq_some_iff_append.1 hfind
        refine ⟨tag, kind, back.reverse, front.reverse, start, place, ?_, rfl, htext ▸ hreads, ?_⟩
        · rw [← List.reverse_reverse entries, hsplit, ← htext]
          simp
        · intro entry hentry
          simpa using hnone entry (List.mem_reverse.1 hentry)
      · cases h
    · cases h
  | _ => cases h

/-! ## Merging -/

/-- The entries with merge keys resolved are the entries, each with merge keys resolved. -/
theorem mergedEntries_eq (entries : List (Node × Node)) :
    mergedEntries entries = entries.map fun entry => (entry.1.merged, entry.2.merged) := by
  induction entries with
  | nil => rfl
  | cons entry rest ih => rw [mergedEntries, ih, List.map_cons]

/-- The items with merge keys resolved are the items, each with merge keys resolved. -/
theorem mergedItems_eq (items : List Node) : mergedItems items = items.map merged := by
  induction items with
  | nil => rfl
  | cons item rest ih => rw [mergedItems, ih, List.map_cons]

/-- The values of entries are those of their keys and values. -/
theorem entryValues_eq (entries : List (Node × Node)) :
    entryValues entries = entries.map fun entry => (entry.1.value, entry.2.value) := by
  induction entries with
  | nil => rfl
  | cons entry rest ih => rw [entryValues, ih, List.map_cons]

/-- The values of items are those of the items. -/
theorem itemValues_eq (items : List Node) : itemValues items = items.map Node.value := by
  induction items with
  | nil => rfl
  | cons item rest ih => rw [itemValues, ih, List.map_cons]

/-- Resolving merge keys keeps the tag. -/
theorem tag_merged (node : Node) : node.merged.tag = node.tag := by
  cases node <;> rfl

/-- A key that is no merge key is none as an ordinary key. -/
theorem isMerge_plainKey {entry : Node × Node} (h : isMerge entry = false) :
    isMerge (plainKey entry) = false := by
  rw [plainKey, isMerge]
  dsimp only
  split
  · rw [beq_eq_false_iff_ne]
    cases entry.1 <;> exact ne_of_beq_false rfl
  · exact h

/-- The value of an own entry is the node there. -/
@[simp]
theorem ownEntry_snd (entry : Node × Node) : (ownEntry entry).2 = entry.2.merged := rfl

/-- The own entries are those that are not under merge keys. -/
theorem ownEntries_eq (entries : List (Node × Node)) :
    ownEntries entries = (entries.filter fun entry => !isMerge entry).map ownEntry := by
  induction entries with
  | nil => rfl
  | cons entry rest ih =>
    rw [ownEntries, ih]
    cases hmerge : isMerge entry <;> rw [isMerge] at hmerge <;> simp [hmerge, isMerge, ownEntry]

/-- The own entries of a mapping come last. -/
theorem exists_mergesFirst_eq (entries : List (Node × Node)) :
    ∃ front, mergesFirst (broughtEntries entries ++ ownEntries entries) =
      front ++ (entries.filter fun entry => !isMerge entry).map ownEntry := by
  have hown : ((entries.filter fun entry => !isMerge entry).map ownEntry).filter
      (fun entry => !isMerge entry) =
        (entries.filter fun entry => !isMerge entry).map ownEntry := by
    refine List.filter_eq_self.2 fun entry hentry => ?_
    obtain ⟨own, hown, rfl⟩ := List.mem_map.1 hentry
    have hmerge : isMerge (own.1.merged, own.2.merged) = false := by
      have hnot : isMerge own = false := by simpa using (List.mem_filter.1 hown).2
      rwa [isMerge, tag_merged]
    rw [ownEntry, isMerge_plainKey hmerge]
    rfl
  rw [ownEntries_eq, mergesFirst, List.filter_append, List.filter_append, hown]
  exact ⟨_, (congrArg _ rfl).trans (List.append_assoc _ _ _).symm⟩

/-! ## Shapes -/

/-- The value of a timestamp is flat. -/
theorem isFlat_stampValue {text : List Char} {value : Value}
    (h : Schema.stampValue text = .ok value) : value.IsFlat := by
  rw [Schema.stampValue] at h
  split at h
  · cases h
  · split at h
    · split at h <;> cases h
      exact ⟨by simp, by simp⟩
    · split at h <;> cases h
      exact ⟨by simp, by simp⟩

/-- The value of a byte string is flat. -/
theorem isFlat_binaryValue {text : List Char} {value : Value}
    (h : Schema.binaryValue text = .ok value) : value.IsFlat := by
  rw [Schema.binaryValue] at h
  split at h
  · cases h
  · split at h <;> cases h
    exact ⟨by simp, by simp⟩

/-- The value of a scalar is flat. -/
theorem isFlat_scalarValue? {tag text : String} {value : Value}
    (h : Schema.scalarValue? tag text = some (.ok value)) : value.IsFlat := by
  have hmap {α : Type} {result : Except ReadError α} {f : α → Value} (hf : ∀ x, (f x).IsFlat)
      (hresult : some (result.map f) = some (.ok value)) : value.IsFlat := by
    obtain ⟨x, -, rfl⟩ := Result.map_eq_ok_iff.1 (Option.some.inj hresult)
    exact hf x
  rw [Schema.scalarValue?] at h
  split at h
  · cases h
    exact ⟨by simp, by simp⟩
  split at h
  · cases h
    exact ⟨by simp, by simp⟩
  split at h
  · exact hmap (fun _ => ⟨by simp, by simp⟩) h
  split at h
  · exact hmap (fun _ => ⟨by simp, by simp⟩) h
  split at h
  · exact hmap (fun _ => ⟨by simp, by simp⟩) h
  split at h
  · exact isFlat_stampValue (Option.some.inj h)
  split at h
  · exact isFlat_binaryValue (Option.some.inj h)
  · cases h

/-- What is read from a node as a scalar is flat; a node that cannot be read so has null for it. -/
theorem isFlat_getD_scalarValue (node : Node) :
    ((node.scalarValue.toOption).getD .null).IsFlat := by
  cases hvalue : node.scalarValue with
  | error e => exact ⟨by simp [Except.toOption], by simp [Except.toOption]⟩
  | ok value =>
    rw [scalarValue] at hvalue
    split at hvalue
    · cases hvalue
    split at hvalue
    · cases hvalue
    · next text _ _ =>
      cases hresult : Schema.scalarValue? node.tag text with
      | none => simp [hresult] at hvalue
      | some result =>
        rw [hresult] at hvalue
        exact isFlat_scalarValue? (hresult.trans (congrArg some hvalue))

/-- Each shape but that of scalars belongs to one tag, or to one of the two for pairs. -/
theorem shape?_cases {tag : String} {shape : Shape} (h : shape? tag = some shape) :
    shape = .list ∧ tag = Tag.seq ∨ shape = .map ∧ tag = Tag.map ∨ shape = .set ∧ tag = Tag.set ∨
      shape = .pairs ∧ holdsPairs tag = true ∨ shape = .scalar := by
  rw [shape?] at h
  simp only [beq_iff_eq] at h
  split at h
  · next htag => exact .inl ⟨(Option.some.inj h).symm, htag⟩
  split at h
  · next htag => exact .inr (.inl ⟨(Option.some.inj h).symm, htag⟩)
  split at h
  · next htag => exact .inr (.inr (.inl ⟨(Option.some.inj h).symm, htag⟩))
  split at h
  · next htag => exact .inr (.inr (.inr (.inl ⟨(Option.some.inj h).symm, htag⟩)))
  split at h
  · exact .inr (.inr (.inr (.inr (Option.some.inj h).symm)))
  · cases h

/-- Only one tag gives a mapping its shape. -/
theorem tag_eq_of_shape?_eq_map {tag : String} (h : shape? tag = some .map) : tag = Tag.map := by
  simpa using shape?_cases h

/-- Only one tag gives a list its shape. -/
theorem tag_eq_of_shape?_eq_list {tag : String} (h : shape? tag = some .list) : tag = Tag.seq := by
  simpa using shape?_cases h

/-- Lists of pairs have one of their tags. -/
theorem holdsPairs_of_shape?_eq {tag : String} (h : shape? tag = some .pairs) :
    holdsPairs tag = true := by
  simpa using shape?_cases h

/-- A node without issues that is read as a mapping is one, with the tag of mappings, and its
entries have no issues. -/
theorem exists_of_value_eq_map {node : Node} {depth : ℕ} {entries : Entries}
    (hissues : node.issues depth = []) (hvalue : node.value = .map entries) :
    ∃ found line, node = .mapping Tag.map found line ∧
      entries = Entries.ofPairs (entryValues found) ∧ entryIssues (depth + 1) found = [] := by
  cases node with
  | scalar tag text line => exact absurd hvalue ((isFlat_getD_scalarValue _).1 _)
  | within line => exact absurd hvalue ((isFlat_getD_scalarValue (.within line)).1 _)
  | sequence tag items line =>
    rw [value] at hvalue
    split at hvalue
    · cases hvalue
    · exact absurd hvalue ((isFlat_getD_scalarValue _).1 _)
    · cases hvalue
  | mapping tag found line =>
    rw [value] at hvalue
    rw [issues] at hissues
    cases hshape : shape? tag with
    | none => simp [hshape] at hissues
    | some shape =>
      cases shape with
      | scalar =>
        rw [hshape] at hvalue
        exact absurd hvalue ((isFlat_getD_scalarValue _).1 _)
      | map =>
        rw [hshape] at hvalue hissues
        obtain rfl := tag_eq_of_shape?_eq_map hshape
        exact ⟨found, line, rfl, (Value.map.inj hvalue).symm, hissues⟩
      | set => simp [hshape] at hvalue
      | list => simp [hshape] at hissues
      | pairs => simp [hshape] at hissues

/-- The entries of a mapping without issues have none. -/
theorem issues_of_mem {depth : ℕ} {entries : List (Node × Node)}
    (h : entryIssues depth entries = []) {entry : Node × Node} (hentry : entry ∈ entries) :
    entry.2.issues depth = [] := by
  induction entries with
  | nil => cases hentry
  | cons first rest ih =>
    rw [entryIssues, List.append_eq_nil_iff, List.append_eq_nil_iff, List.append_eq_nil_iff] at h
    rcases List.mem_cons.1 hentry with rfl | hrest
    · exact h.1.2
    · exact ih h.2 hrest

/-- What a mapping is read as has under a key that is written in it what the node there is read
as. -/
theorem find?_of_writtenAt? {entries : Entries} (hsound : node.IsSound)
    (hvalue : node.merged.value = .map entries)
    (h : node.writtenAt? key = some (line, child)) :
    child.IsSound ∧ Entries.find? entries key = some child.merged.value := by
  obtain ⟨depth, hissues⟩ := hsound
  obtain ⟨found, start, hmerged, rfl, hfound⟩ := exists_of_value_eq_map hissues hvalue
  obtain ⟨tag, kind, before, after, start', place, rfl, -, hreads, hafter⟩ :=
    writtenAt?_eq_some h
  rw [merged] at hmerged
  obtain ⟨rfl, hentries, -⟩ := Node.mapping.inj hmerged
  rw [if_pos (by decide)] at hentries
  obtain ⟨front, hfront⟩ := exists_mergesFirst_eq
    (before ++ (.scalar kind key place, child) :: after)
  rw [reads, Bool.and_eq_true, Bool.not_eq_true'] at hreads
  -- behind the entry there are only own entries that do not read as the key
  have hsplit : found = (front ++ (before.filter fun entry => !isMerge entry).map ownEntry) ++
      ownEntry (.scalar kind key place, child) ::
        (after.filter fun entry => !isMerge entry).map ownEntry := by
    rw [← hentries, hfront, List.filter_append, List.filter_cons_of_pos (by simp [hreads.1]),
      List.map_append, List.map_cons, List.append_assoc]
  constructor
  · refine ⟨depth + 1, ?_⟩
    have hmem : ownEntry (.scalar kind key place, child) ∈ found := by simp [hsplit]
    have hchild := issues_of_mem hfound hmem
    rwa [ownEntry_snd] at hchild
  · rw [hsplit, entryValues_eq, List.map_append, List.map_cons, ownEntry_snd]
    refine Entries.find?_ofPairs hreads.2 fun pair hpair => ?_
    obtain ⟨own, hown, rfl⟩ := List.mem_map.1 hpair
    obtain ⟨entry, hentry, rfl⟩ := List.mem_map.1 hown
    obtain ⟨hmem, hkept⟩ := List.mem_filter.1 hentry
    have hnot := hafter entry hmem
    rwa [reads, hkept, Bool.true_and] at hnot

/-- The items of a list without issues have none. -/
theorem issues_of_mem_items {depth : ℕ} {items : List Node} (h : itemIssues depth items = [])
    {item : Node} (hitem : item ∈ items) : item.issues depth = [] := by
  induction items with
  | nil => cases hitem
  | cons first rest ih =>
    rw [itemIssues, List.append_eq_nil_iff] at h
    rcases List.mem_cons.1 hitem with rfl | hrest
    · exact h.1
    · exact ih h.2 hrest

/-- Where there are pairs without issues, the first of them is read as a list. -/
theorem exists_pairValues {depth : ℕ} {list item : Node} {rest : List Node}
    (h : pairIssues depth list (item :: rest) = []) :
    ∃ pair others, pairValues (item :: rest) = .list pair :: others := by
  rw [pairIssues.eq_def] at h
  split at h
  · next heq => cases heq
  · next heq =>
    obtain ⟨rfl, rfl⟩ := List.cons.inj heq
    exact ⟨_, _, rfl⟩
  · cases h

/-- With merge keys resolved there are as many pairs as before. -/
theorem exists_mergedPairs (item : Node) (rest : List Node) :
    ∃ first others, mergedPairs (item :: rest) = first :: others := by
  cases item <;> exact ⟨_, _, rfl⟩

/-- The items of a list that is read as one of mappings are read as these. -/
theorem forall₂_of_value_eq_list {tag : String} {items : List Node} {start : ℕ}
    {values : List Value} (hsound : (Node.sequence tag items start).IsSound)
    (hvalue : (Node.sequence tag items start).merged.value = .list values)
    (hmaps : ∀ value ∈ values, ∃ entries, value = .map entries) :
    List.Forall₂ (fun item value => item.IsSound ∧ item.merged.value = value) items values := by
  obtain ⟨depth, hissues⟩ := hsound
  rw [merged, issues] at hissues
  rw [merged, value] at hvalue
  cases hshape : shape? tag with
  | none => simp [hshape] at hissues
  | some shape =>
    cases shape with
    | list =>
      have hitems : holdsPairs tag = false := by rw [tag_eq_of_shape?_eq_list hshape]; decide
      rw [hshape, hitems] at hissues hvalue
      obtain rfl := Value.list.inj hvalue
      rw [if_neg Bool.false_ne_true, mergedItems_eq] at hissues
      rw [if_neg Bool.false_ne_true, mergedItems_eq, itemValues_eq, List.map_map,
        List.forall₂_map_right_iff, List.forall₂_same]
      exact fun item hitem =>
        ⟨⟨_, issues_of_mem_items hissues (List.mem_map_of_mem hitem)⟩, rfl⟩
    | pairs =>
      rw [hshape, holdsPairs_of_shape?_eq hshape, if_pos rfl] at hissues hvalue
      obtain rfl := Value.list.inj hvalue
      cases items with
      | nil => exact .nil
      | cons item rest =>
        -- a pair is read as a list and not as a mapping
        obtain ⟨first, others, hmerged⟩ := exists_mergedPairs item rest
        rw [hmerged] at hissues hmaps
        obtain ⟨pair, others, hpairs⟩ := exists_pairValues hissues
        rw [hpairs] at hmaps
        obtain ⟨entries, hentries⟩ := hmaps _ List.mem_cons_self
        cases hentries
    | scalar =>
      rw [hshape] at hvalue
      exact absurd hvalue ((isFlat_getD_scalarValue _).2 _)
    | map => simp [hshape] at hissues
    | set => simp [hshape] at hissues

/-- A node with a value has no issue. -/
theorem isSound_of_toValue_eq_ok {value : Value} (h : node.toValue = .ok value) :
    node.IsSound ∧ node.merged.value = value := by
  rw [toValue] at h
  split at h
  · cases h
  · next hnone => exact ⟨⟨0, firstIssue?_eq_none hnone⟩, Except.ok.inj h⟩

end Yaml.Node

end FlowCheck
