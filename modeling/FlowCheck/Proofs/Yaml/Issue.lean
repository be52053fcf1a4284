import FlowCheck.Proofs.Yaml.Spots
import FlowCheck.Yaml.Node.Value
import Mathlib.Data.List.Induction

/-!
# Nodes that cannot be read

A node of a document can be something else than its tag says. The reader refuses most of these
nodes. At some scalars it stops instead: truth values, numbers and timestamps that are none of these
(`IsUnreadable`). Of several nodes it reports the first of those that are nested least (`IsFirst`),
so that it stops exactly if that is such a scalar (`exists_toValue_eq_fault_iff`). Nothing is said
about documents with a collection that holds an alias of itself: they have no tree.
-/

namespace FlowCheck.Yaml

open Result

/-- Standard tags are told apart by their names. -/
@[simp]
theorem Tag.standard_inj {name name' : String} :
    Tag.standard name = Tag.standard name' ↔ name = name' :=
  String.append_right_inj _

namespace Schema

/-! ## Scalars -/

/-- What follows a result is not refused when neither the result nor what follows it is. -/
theorem bind_ne_malformed {α β : Type} {x : Except ReadError α} {f : α → Except ReadError β}
    (hx : x ≠ .error .malformed) (hf : ∀ a, f a ≠ .error .malformed) :
    x >>= f ≠ .error .malformed := by
  rw [ne_eq, bind_eq_error_iff]
  rintro (h | ⟨a, -, h⟩)
  · exact hx h
  · exact hf a h

/-- A list of results is not refused when none of them is. -/
theorem mapM_ne_malformed {α β : Type} {f : α → Except ReadError β}
    (hf : ∀ a, f a ≠ .error .malformed) (xs : List α) : xs.mapM f ≠ .error .malformed := by
  induction xs with
  | nil => exact fun h => by cases h
  | cons x xs ih =>
    rw [List.mapM_cons]
    exact bind_ne_malformed (hf x) fun _ => bind_ne_malformed ih fun _ h => by cases h

/-- A truth value is not refused. -/
theorem boolValue_ne_malformed (text : List Char) : boolValue text ≠ .error .malformed := by
  rw [boolValue]
  split
  · simp
  split <;> simp

/-- An integer to a base is not refused. -/
theorem intOf_ne_malformed (base : ℕ) (text : List Char) :
    intOf base text ≠ .error .malformed := by
  rw [intOf]
  split
  · simp
  split <;> simp

/-- An integer is not refused. -/
theorem intValue_ne_malformed (text : List Char) : intValue text ≠ .error .malformed := by
  rw [intValue, ne_eq, map_eq_error_iff, intSize.eq_def]
  split
  · simp
  · simp
  -- the marks of the bases 2 and 16, and the zero of base 8
  · exact intOf_ne_malformed 2 _
  · exact intOf_ne_malformed 16 _
  · exact intOf_ne_malformed 8 _
  split
  · rw [map_eq_error_iff]
    exact mapM_ne_malformed (intOf_ne_malformed 10) _
  · exact intOf_ne_malformed 10 _

/-- A number in decimal is not refused. -/
theorem floatOf_ne_malformed (text : List Char) : floatOf text ≠ .error .malformed := by
  rw [floatOf]
  split <;> simp

/-- A sum of parts to the base 60 is not refused. -/
theorem sumSixtieths_ne_malformed (sum : Binary64) (unit : ℕ) (parts : List Binary64) :
    sumSixtieths sum unit parts ≠ .error .malformed := by
  induction parts generalizing sum unit with
  | nil => simp [sumSixtieths]
  | cons part rest ih =>
    rw [sumSixtieths]
    split
    · exact ih _ _
    · simp

/-- A number with a point is not refused. -/
theorem floatValue_ne_malformed (text : List Char) : floatValue text ≠ .error .malformed := by
  rw [floatValue]
  split
  · simp
  rw [ne_eq, map_eq_error_iff, floatSize]
  split
  · simp
  split
  · simp
  split
  · exact bind_ne_malformed (mapM_ne_malformed floatOf_ne_malformed _)
      fun _ => sumSixtieths_ne_malformed _ _ _
  · exact floatOf_ne_malformed _

/-- A timestamp is not refused. -/
theorem stampValue_ne_malformed (text : List Char) : stampValue text ≠ .error .malformed := by
  rw [stampValue]
  split
  · simp
  split <;> split <;> simp

/-- The reader never stops at a byte string. -/
theorem binaryValue_ne_fault (text : List Char) (fault : Fault) :
    binaryValue text ≠ .error (.fault fault) := by
  rw [binaryValue]
  split
  · simp
  split <;> simp

/-- A result that is not refused stops exactly if there is no value. -/
theorem exists_eq_fault_iff {α : Type} {x : Except ReadError α} (h : x ≠ .error .malformed) :
    (∃ fault, x = .error (.fault fault)) ↔ ∀ a, x ≠ .ok a := by
  cases x with
  | ok a => simp
  | error e =>
    cases e with
    | malformed => exact absurd rfl h
    | fault fault => simp

/-- A function of a result stops when the result does. -/
theorem exists_map_eq_fault_iff {α β : Type} {x : Except ReadError α} {f : α → β}
    (h : x ≠ .error .malformed) :
    (∃ fault, x.map f = .error (.fault fault)) ↔ ∀ a, x ≠ .ok a := by
  simp only [map_eq_error_iff]
  exact exists_eq_fault_iff h

/-- The reader stops at a text under four tags only, and where it has no value for the text. -/
theorem exists_scalarValue?_eq_fault_iff {tag text : String} :
    (∃ fault, scalarValue? tag text = some (.error (.fault fault))) ↔
      tag = Tag.standard "bool" ∧ (∀ b, boolValue text.toList ≠ .ok b) ∨
        tag = Tag.standard "int" ∧ (∀ n, intValue text.toList ≠ .ok n) ∨
          tag = Tag.standard "float" ∧ (∀ x, floatValue text.toList ≠ .ok x) ∨
            tag = Tag.standard "timestamp" ∧ ∀ t, stampValue text.toList ≠ .ok t := by
  rw [scalarValue?]
  simp only [beq_iff_eq]
  split
  · next htag => simp [htag, Tag.str]
  split
  · next htag => simp [htag]
  split
  · next htag =>
    simp only [Option.some.injEq, exists_map_eq_fault_iff (boolValue_ne_malformed _)]
    simp [htag]
  split
  · next htag =>
    simp only [Option.some.injEq, exists_map_eq_fault_iff (intValue_ne_malformed _)]
    simp [htag]
  split
  · next htag =>
    simp only [Option.some.injEq, exists_map_eq_fault_iff (floatValue_ne_malformed _)]
    simp [htag]
  split
  · next htag =>
    simp only [Option.some.injEq, exists_eq_fault_iff (stampValue_ne_malformed _)]
    simp [htag]
  split
  · next htag => simp [htag, binaryValue_ne_fault]
  · simp [*]

end Schema

namespace Node

/-- The reader stops at the node: its tag says that it is a truth value, a number or a timestamp,
and it cannot be read as one. -/
inductive IsUnreadable : Node → Prop where
  /-- The text is none of the words for truth values. -/
  | bool {node : Node} {text : String} (htag : node.tag = Tag.standard "bool")
      (htext : node.scalarText? = some text) (hnot : ∀ b, Schema.boolValue text.toList ≠ .ok b) :
      IsUnreadable node
  /-- The text is no integer, or one with too many digits. -/
  | int {node : Node} {text : String} (htag : node.tag = Tag.standard "int")
      (htext : node.scalarText? = some text) (hnot : ∀ n, Schema.intValue text.toList ≠ .ok n) :
      IsUnreadable node
  /-- The text is no number with a point. -/
  | float {node : Node} {text : String} (htag : node.tag = Tag.standard "float")
      (htext : node.scalarText? = some text) (hnot : ∀ x, Schema.floatValue text.toList ≠ .ok x) :
      IsUnreadable node
  /-- The text is no timestamp, or names a time that does not exist. -/
  | timestamp {text : String} {line : ℕ} (hnot : ∀ t, Schema.stampValue text.toList ≠ .ok t) :
      IsUnreadable (.scalar (Tag.standard "timestamp") text line)
  /-- A mapping with a text that stands for it is not read as a timestamp. -/
  | standIn {entries : List (Node × Node)} {line : ℕ} {text : String}
      (htext : standInText? entries = some text) :
      IsUnreadable (.mapping (Tag.standard "timestamp") entries line)

variable {node : Node} {depth : ℕ} {issue : Issue}

/-- A node with another tag is no mapping in place of a timestamp. -/
theorem isTimestampMapping_eq_false {name : String} (htag : node.tag = Tag.standard name)
    (h : name ≠ "timestamp") : node.isTimestampMapping = false := by
  cases node with
  | mapping tag entries line =>
    obtain rfl : tag = Tag.standard name := htag
    simpa [isTimestampMapping] using h
  | _ => rfl

/-- The reader stops at a node as a scalar exactly if it is one of these. -/
theorem exists_scalarValue_eq_fault_iff :
    (∃ fault, node.scalarValue = .error (.fault fault)) ↔ node.IsUnreadable := by
  -- a text under a tag that is not in the schema is refused
  have hresult {text : String} : (∃ fault, (Schema.scalarValue? node.tag text).getD
      (.error .malformed) = .error (.fault fault)) ↔
        ∃ fault, Schema.scalarValue? node.tag text = some (.error (.fault fault)) := by
    cases Schema.scalarValue? node.tag text <;> simp
  constructor
  · rintro ⟨fault, h⟩
    rw [scalarValue] at h
    split at h
    · cases h
    next text htext =>
    split at h
    · next hmapping =>
      cases node with
      | mapping tag entries line =>
        obtain rfl := beq_iff_eq.1 hmapping
        exact .standIn htext
      | _ => cases hmapping
    · next hmapping =>
      rcases Schema.exists_scalarValue?_eq_fault_iff.1 (hresult.1 ⟨fault, h⟩) with
        ⟨htag, hnot⟩ | ⟨htag, hnot⟩ | ⟨htag, hnot⟩ | ⟨htag, hnot⟩
      · exact .bool htag htext hnot
      · exact .int htag htext hnot
      · exact .float htag htext hnot
      -- a mapping in place of a timestamp was the case before
      · cases node with
        | scalar tag own line =>
          obtain rfl := Option.some.inj htext
          obtain rfl : tag = Tag.standard "timestamp" := htag
          exact .timestamp hnot
        | mapping tag entries line => exact absurd (beq_iff_eq.2 htag) hmapping
        | _ => cases htext
  · intro h
    have hscalar {text : String} (htext : node.scalarText? = some text)
        (hmapping : node.isTimestampMapping = false) (hvalue :
          ∃ fault, Schema.scalarValue? node.tag text = some (.error (.fault fault))) :
        ∃ fault, node.scalarValue = .error (.fault fault) := by
      simp only [scalarValue, htext, hmapping]
      exact hresult.2 hvalue
    cases h with
    | bool htag htext hnot =>
      exact hscalar htext (isTimestampMapping_eq_false htag (by decide))
        (Schema.exists_scalarValue?_eq_fault_iff.2 (.inl ⟨htag, hnot⟩))
    | int htag htext hnot =>
      exact hscalar htext (isTimestampMapping_eq_false htag (by decide))
        (Schema.exists_scalarValue?_eq_fault_iff.2 (.inr (.inl ⟨htag, hnot⟩)))
    | float htag htext hnot =>
      exact hscalar htext (isTimestampMapping_eq_false htag (by decide))
        (Schema.exists_scalarValue?_eq_fault_iff.2 (.inr (.inr (.inl ⟨htag, hnot⟩))))
    | timestamp hnot =>
      exact hscalar rfl rfl
        (Schema.exists_scalarValue?_eq_fault_iff.2 (.inr (.inr (.inr ⟨rfl, hnot⟩))))
    | standIn htext => exact ⟨_, by rw [scalarValue, scalarText?, htext]; rfl⟩

/-- A node at which the reader stops has a scalar's tag. -/
theorem IsUnreadable.shape?_eq (h : node.IsUnreadable) : shape? node.tag = some .scalar := by
  cases h with
  | bool htag => rw [htag]; rfl
  | int htag => rw [htag]; rfl
  | float htag => rw [htag]; rfl
  | timestamp => rfl
  | standIn => rfl

/-- A node at which the reader stops is no collection that cannot be a key. -/
theorem IsUnreadable.isKey_value (h : node.IsUnreadable) : isKey node.value = true := by
  have hshape := h.shape?_eq
  obtain ⟨fault, hfault⟩ := exists_scalarValue_eq_fault_iff.2 h
  have hvalue : node.value = (node.scalarValue.toOption).getD .null := by
    cases node with
    | scalar tag text line => rfl
    | sequence tag items line => rw [value, show shape? tag = some .scalar from hshape]
    | mapping tag entries line => rw [value, show shape? tag = some .scalar from hshape]
    | within line => rfl
  rw [hvalue, hfault]
  rfl

/-! ## Issues -/

/-- The error of the issue is that the reader stops exactly if the node is one at which it does. -/
def Issue.IsTold (issue : Issue) : Prop :=
  (∃ fault, issue.error = .fault fault) ↔ issue.node.IsUnreadable

/-- Nodes at which the reader does not stop are refused. -/
theorem isTold_malformed (h : ¬ node.IsUnreadable) : Issue.IsTold ⟨depth, node, .malformed⟩ :=
  iff_of_false (by simp) h

/-- A node without a scalar's tag is refused. -/
theorem isTold_of_mem_refused {shape : Option Shape}
    (h : issue ∈ [(⟨depth, node, .malformed⟩ : Issue)]) (hshape : shape? node.tag = shape)
    (hother : shape ≠ some .scalar) : issue.IsTold := by
  obtain rfl := List.mem_singleton.1 h
  exact isTold_malformed fun hnode => hother (hshape.symm.trans hnode.shape?_eq)

/-- The issue of a scalar. -/
theorem isTold_of_mem_scalarIssue (h : issue ∈ scalarIssue depth node) : issue.IsTold := by
  rw [scalarIssue] at h
  split at h
  · cases h
  · next e hvalue =>
    obtain rfl := List.mem_singleton.1 h
    rw [Issue.IsTold, ← exists_scalarValue_eq_fault_iff, hvalue]
    simp

/-- The issue of a key. -/
theorem isTold_of_mem_keyIssue (h : issue ∈ keyIssue depth node) : issue.IsTold := by
  rw [keyIssue] at h
  split at h
  · cases h
  · next hkey =>
    obtain rfl := List.mem_singleton.1 h
    exact isTold_malformed fun hnode => hkey hnode.isKey_value

/-- The issue of a mapping in a list of pairs is that it is no pair, or one of its entries. -/
theorem mem_pairIssues_mapping {list : Node} {tag : String} {entries : List (Node × Node)}
    {line : ℕ} {rest : List Node}
    (h : issue ∈ pairIssues depth list (.mapping tag entries line :: rest)) :
    issue = ⟨depth, list, .malformed⟩ ∨ issue ∈ entryIssues depth entries ∨
      issue ∈ pairIssues depth list rest := by
  rw [pairIssues.eq_def] at h
  split at h
  · next heq => cases heq
  · next heq =>
    obtain ⟨hmapping, rfl⟩ := List.cons.inj heq
    obtain ⟨-, rfl, -⟩ := Node.mapping.inj hmapping
    rw [List.mem_append, List.mem_append] at h
    simp only [entryIssues, List.mem_append]
    tauto
  · next heq =>
    obtain ⟨-, rfl⟩ := List.cons.inj heq
    exact (List.mem_cons.1 h).imp_right .inr

mutual

/-- The issues of a node that ends. -/
theorem isTold_of_mem_issues (depth : ℕ) : (node : Node) → node.ends = true →
    ∀ issue ∈ node.issues depth, issue.IsTold
  | .scalar tag text line, _ => by
    intro issue h
    rw [issues] at h
    split at h
    · exact isTold_of_mem_scalarIssue h
    · next hnot hshape => exact isTold_of_mem_refused h hshape (mt Option.some.inj hnot)
    · next hshape => exact isTold_of_mem_refused h hshape (by simp)
  -- a collection is read by the shape that its tag asks for, which need not be its own
  | .sequence tag items line, hends => by
    intro issue h
    rw [issues] at h
    split at h
    · exact isTold_of_mem_itemIssues (depth + 1) items hends issue h
    · next hshape =>
      refine isTold_of_mem_pairIssues (depth + 1) _ (fun hnode => ?_) items hends issue h
      exact nomatch hshape.symm.trans hnode.shape?_eq
    · exact isTold_of_mem_scalarIssue h
    · next hnot hshape => exact isTold_of_mem_refused h hshape (mt Option.some.inj hnot)
    · next hshape => exact isTold_of_mem_refused h hshape (by simp)
  | .mapping tag entries line, hends => by
    intro issue h
    rw [issues] at h
    split at h
    · exact isTold_of_mem_entryIssues (depth + 1) entries hends issue h
    · exact isTold_of_mem_entryIssues (depth + 1) entries hends issue h
    · exact isTold_of_mem_scalarIssue h
    · next hnot hshape => exact isTold_of_mem_refused h hshape (mt Option.some.inj hnot)
    · next hshape => exact isTold_of_mem_refused h hshape (by simp)

/-- The issues of items that end. -/
theorem isTold_of_mem_itemIssues (depth : ℕ) : (items : List Node) → itemsEnd items = true →
    ∀ issue ∈ itemIssues depth items, issue.IsTold
  | [], _ => nofun
  | item :: rest, hends => by
    intro issue h
    rw [itemsEnd, Bool.and_eq_true] at hends
    rw [itemIssues, List.mem_append] at h
    rcases h with hitem | hrest
    · exact isTold_of_mem_issues depth item hends.1 issue hitem
    · exact isTold_of_mem_itemIssues depth rest hends.2 issue hrest

/-- The issues of entries that end. -/
theorem isTold_of_mem_entryIssues (depth : ℕ) : (entries : List (Node × Node)) →
    entriesEnd entries = true → ∀ issue ∈ entryIssues depth entries, issue.IsTold
  | [], _ => nofun
  | (key, value) :: rest, hends => by
    intro issue h
    rw [entriesEnd, Bool.and_eq_true, Bool.and_eq_true] at hends
    rw [entryIssues, List.mem_append, List.mem_append, List.mem_append] at h
    rcases h with ((hkey | hnoKey) | hvalue) | hrest
    · exact isTold_of_mem_issues depth key hends.1.1 issue hkey
    · exact isTold_of_mem_keyIssue hnoKey
    · exact isTold_of_mem_issues depth value hends.1.2 issue hvalue
    · exact isTold_of_mem_entryIssues depth rest hends.2 issue hrest

/-- The issues of pairs that end. -/
theorem isTold_of_mem_pairIssues (depth : ℕ) (list : Node) (hlist : ¬ list.IsUnreadable) :
    (items : List Node) → itemsEnd items = true →
      ∀ issue ∈ pairIssues depth list items, issue.IsTold
  | [], _ => nofun
  | .mapping tag entries line :: rest, hends => by
    intro issue h
    rw [itemsEnd, Bool.and_eq_true] at hends
    rcases mem_pairIssues_mapping h with rfl | hentries | hrest
    · exact isTold_malformed hlist
    · exact isTold_of_mem_entryIssues depth entries hends.1 issue hentries
    · exact isTold_of_mem_pairIssues depth list hlist rest hends.2 issue hrest
  | .scalar tag text line :: rest, hends => by
    intro issue h
    rcases List.mem_cons.1 h with rfl | hrest
    · exact isTold_malformed hlist
    · exact isTold_of_mem_pairIssues depth list hlist rest hends issue hrest
  | .sequence tag items line :: rest, hends => by
    intro issue h
    rw [itemsEnd, Bool.and_eq_true] at hends
    rcases List.mem_cons.1 h with rfl | hrest
    · exact isTold_malformed hlist
    · exact isTold_of_mem_pairIssues depth list hlist rest hends.2 issue hrest

end

/-! ## The first issue -/

/-- The issue is the first of those that are nested least. -/
def Issue.IsFirst (issue : Issue) (all : List Issue) : Prop :=
  ∃ before after, all = before ++ issue :: after ∧
    (∀ other ∈ before, issue.depth < other.depth) ∧ ∀ other ∈ after, issue.depth ≤ other.depth

/-- No issue is nested less than the first one. -/
theorem Issue.IsFirst.le {all : List Issue} (h : issue.IsFirst all) {other : Issue}
    (hother : other ∈ all) : issue.depth ≤ other.depth := by
  obtain ⟨before, after, rfl, hbefore, hafter⟩ := h
  rcases List.mem_append.1 hother with hmem | hmem
  · exact Nat.le_of_lt (hbefore other hmem)
  · rcases List.mem_cons.1 hmem with rfl | hmem
    · exact Nat.le_refl _
    · exact hafter other hmem

/-- One of the issues is the first, unless there are none. -/
theorem firstIssue?_cases (all : List Issue) :
    all = [] ∧ firstIssue? all = none ∨
      ∃ first, firstIssue? all = some first ∧ first.IsFirst all := by
  induction all using List.reverseRecOn with
  | nil => exact .inl ⟨rfl, rfl⟩
  | append_singleton all last ih =>
    right
    -- the last issue comes first only if it is nested less than all in front of it
    rcases ih with ⟨rfl, -⟩ | ⟨first, hsome, hfirst⟩
    · exact ⟨last, rfl, [], [], rfl, by simp, by simp⟩
    · have hstep : firstIssue? (all ++ [last]) =
          if last.depth < first.depth then some last else some first := by
        rw [firstIssue?, List.foldl_append, ← firstIssue?, hsome]
        rfl
      rw [hstep]
      split
      · next hless =>
        exact ⟨last, rfl, all, [], rfl,
          fun other hother => Nat.lt_of_lt_of_le hless (hfirst.le hother), by simp⟩
      · next hnot =>
        obtain ⟨before, after, rfl, hbefore, hafter⟩ := hfirst
        refine ⟨first, rfl, before, after ++ [last], by simp, hbefore, fun other hother => ?_⟩
        rcases List.mem_append.1 hother with hmem | hmem
        · exact hafter other hmem
        · obtain rfl := List.mem_singleton.1 hmem
          exact Nat.not_lt.1 hnot

/-- There is no first issue only where there are none. -/
theorem firstIssue?_eq_none {all : List Issue} (h : firstIssue? all = none) : all = [] := by
  rcases firstIssue?_cases all with ⟨hnil, -⟩ | ⟨first, hsome, -⟩
  · exact hnil
  · cases h.symm.trans hsome

/-- Only one issue is the first of all. -/
theorem Issue.IsFirst.unique {all : List Issue} {other : Issue} (h : issue.IsFirst all)
    (hother : other.IsFirst all) : issue = other := by
  obtain ⟨before, after, rfl, hbefore, hafter⟩ := h
  obtain ⟨before', after', hsplit, hbefore', hafter'⟩ := hother
  -- where the places differ, each of the two would be nested less than the other
  rcases List.append_eq_append_iff.1 hsplit with ⟨between, rfl, htail⟩ | ⟨between, rfl, htail⟩
  · cases between with
    | nil => exact (List.cons.inj htail).1
    | cons first between =>
      obtain ⟨rfl, rfl⟩ := List.cons.inj htail
      have hless := hbefore' issue (by simp)
      have hle := hafter other (by simp)
      omega
  · cases between with
    | nil => exact (List.cons.inj htail).1.symm
    | cons first between =>
      obtain ⟨rfl, rfl⟩ := List.cons.inj htail
      have hless := hbefore other (by simp)
      have hle := hafter' issue (by simp)
      omega

/-- Entries that stand one behind the other end when those of both lists do. -/
theorem entriesEnd_append {first second : List (Node × Node)} (h : entriesEnd first = true)
    (h' : entriesEnd second = true) : entriesEnd (first ++ second) = true := by
  induction first with
  | nil => exact h'
  | cons entry rest ih =>
    rw [entriesEnd, Bool.and_eq_true] at h
    rw [List.cons_append, entriesEnd, Bool.and_eq_true]
    exact ⟨h.1, ih h.2⟩

/-- Of entries that end each group does. -/
theorem entriesEnd_filter {entries : List (Node × Node)} (p : Node × Node → Bool)
    (h : entriesEnd entries = true) : entriesEnd (entries.filter p) = true := by
  induction entries with
  | nil => rfl
  | cons entry rest ih =>
    rw [entriesEnd, Bool.and_eq_true] at h
    rw [List.filter_cons]
    split
    · rw [entriesEnd, Bool.and_eq_true]
      exact ⟨h.1, ih h.2⟩
    · exact ih h.2

/-- Another tag changes nothing about the end of a node. -/
theorem ends_withTag (tag : String) (node : Node) : (node.withTag tag).ends = node.ends := by
  cases node <;> rfl

/-- With the entries under merge keys in front the entries still end. -/
theorem entriesEnd_mergesFirst {entries : List (Node × Node)} (h : entriesEnd entries = true) :
    entriesEnd (mergesFirst entries) = true :=
  entriesEnd_append (entriesEnd_filter _ h) (entriesEnd_filter _ h)

mutual

/-- A node that ends still does with merge keys resolved. -/
theorem ends_merged : (node : Node) → node.ends = true → node.merged.ends = true
  | .scalar .., _ => rfl
  | .sequence tag items line, h => by
    rw [merged, ends]
    split
    · exact itemsEnd_mergedPairs items h
    · exact itemsEnd_mergedItems items h
  | .mapping tag entries line, h => by
    rw [merged]
    rw [ends]
    split
    · exact entriesEnd_mergesFirst
        (entriesEnd_append (entriesEnd_broughtEntries entries h) (entriesEnd_ownEntries entries h))
    · exact entriesEnd_mergedEntries entries h

/-- Items that end still do with merge keys resolved. -/
theorem itemsEnd_mergedItems : (items : List Node) → itemsEnd items = true →
    itemsEnd (mergedItems items) = true
  | [], _ => rfl
  | item :: rest, h => by
    rw [itemsEnd, Bool.and_eq_true] at h
    rw [mergedItems, itemsEnd, Bool.and_eq_true]
    exact ⟨ends_merged item h.1, itemsEnd_mergedItems rest h.2⟩

/-- Pairs that end still do with merge keys inside of them resolved. -/
theorem itemsEnd_mergedPairs : (items : List Node) → itemsEnd items = true →
    itemsEnd (mergedPairs items) = true
  | [], _ => rfl
  | .mapping tag entries line :: rest, h => by
    rw [itemsEnd, Bool.and_eq_true] at h
    rw [mergedPairs, itemsEnd, Bool.and_eq_true]
    exact ⟨entriesEnd_mergedEntries entries h.1, itemsEnd_mergedPairs rest h.2⟩
  | .scalar tag text line :: rest, h => itemsEnd_mergedPairs rest h
  | .sequence tag items line :: rest, h => by
    rw [itemsEnd, Bool.and_eq_true] at h
    rw [mergedPairs, itemsEnd, Bool.and_eq_true]
    · exact ⟨h.1, itemsEnd_mergedPairs rest h.2⟩
    · nofun

/-- Entries that end still do with merge keys inside of them resolved. -/
theorem entriesEnd_mergedEntries : (entries : List (Node × Node)) → entriesEnd entries = true →
    entriesEnd (mergedEntries entries) = true
  | [], _ => rfl
  | (key, value) :: rest, h => by
    rw [entriesEnd, Bool.and_eq_true, Bool.and_eq_true] at h
    rw [mergedEntries, entriesEnd, Bool.and_eq_true, Bool.and_eq_true]
    exact ⟨⟨ends_merged key h.1.1, ends_merged value h.1.2⟩, entriesEnd_mergedEntries rest h.2⟩

/-- Of entries that end those that are not under merge keys do. -/
theorem entriesEnd_ownEntries : (entries : List (Node × Node)) → entriesEnd entries = true →
    entriesEnd (ownEntries entries) = true
  | [], _ => rfl
  | (key, value) :: rest, h => by
    rw [entriesEnd, Bool.and_eq_true, Bool.and_eq_true] at h
    rw [ownEntries]
    split
    · exact entriesEnd_ownEntries rest h.2
    -- the key that stands for its mapping gets the tag of a text
    · rw [plainKey, entriesEnd, Bool.and_eq_true, Bool.and_eq_true]
      refine ⟨⟨?_, ends_merged value h.1.2⟩, entriesEnd_ownEntries rest h.2⟩
      dsimp only
      split
      · rw [ends_withTag]
        exact ends_merged key h.1.1
      · exact ends_merged key h.1.1

/-- What the merge keys of entries that end bring in does. -/
theorem entriesEnd_broughtEntries : (entries : List (Node × Node)) → entriesEnd entries = true →
    entriesEnd (broughtEntries entries) = true
  | [], _ => rfl
  | (key, value) :: rest, h => by
    rw [entriesEnd, Bool.and_eq_true, Bool.and_eq_true] at h
    rw [broughtEntries]
    split
    · exact entriesEnd_append (entriesEnd_broughtBy key h.1.1 value h.1.2)
        (entriesEnd_broughtEntries rest h.2)
    · exact entriesEnd_broughtEntries rest h.2

/-- What a merge key brings in from a value that ends does. -/
theorem entriesEnd_broughtBy (key : Node) (hkey : key.ends = true) : (value : Node) →
    value.ends = true → entriesEnd (broughtBy key value) = true
  | .scalar tag text line, _ => by simp [broughtBy, entriesEnd, hkey, ends]
  | .sequence tag items line, h => entriesEnd_broughtByAll key hkey items h
  | .mapping tag entries line, h =>
    entriesEnd_append (entriesEnd_broughtEntries entries h) (entriesEnd_ownEntries entries h)

/-- What a merge key brings in from items that end does. -/
theorem entriesEnd_broughtByAll (key : Node) (hkey : key.ends = true) : (items : List Node) →
    itemsEnd items = true → entriesEnd (broughtByAll key items) = true
  | [], _ => rfl
  | .mapping tag entries line :: rest, h => by
    rw [itemsEnd, Bool.and_eq_true] at h
    have hfirst :=
      entriesEnd_append (entriesEnd_broughtEntries entries h.1) (entriesEnd_ownEntries entries h.1)
    exact entriesEnd_append (entriesEnd_broughtByAll key hkey rest h.2) hfirst
  | .scalar tag text line :: rest, h =>
    entriesEnd_append (entriesEnd_broughtByAll key hkey rest h) (by simp [entriesEnd, hkey, ends])
  | .sequence tag items line :: rest, h => by
    rw [itemsEnd, Bool.and_eq_true] at h
    exact entriesEnd_append (entriesEnd_broughtByAll key hkey rest h.2)
      (by simp [entriesEnd, hkey, h.1])

end

/-! ## Values -/

end Node

end FlowCheck.Yaml
