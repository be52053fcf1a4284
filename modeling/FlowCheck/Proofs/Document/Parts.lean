import FlowCheck.Proofs.Document.Kept

/-!
# What is kept of the parts of a step

A step keeps the entries that it does not know, but its parts do not: parameters, request bodies and
conditions for success have no place for other entries than their fields, and a reference to a
reusable parameter has fields of its own. `Document.toValue_parts` says, key by key, what of the
parts of an accepted document is written. An action keeps everything, unless it has the type of a
reference; then it is written without its name and its type.
-/

namespace FlowCheck

namespace Entries

/-- The keys under which a text is needed, so that any other value is written as its text. -/
def textKeys : List String := ["name", "type", "condition", "reference"]

/-- The value that was read under a key is written there, or its text is, where that is needed. -/
def Keeps (written : Entries) (key value : Value) : Prop :=
  Found key value written ∨
    key.IsKeyOf textKeys ∧ ∃ text, value.text = .ok text ∧ Found key (.str text) written

/-- All that was read is written, except for nulls. -/
def KeepsAll (read written : Entries) : Prop :=
  ∀ key value, Found key value read → value.isNull = false → Keeps written key value

/-- What was read under some keys is written, except for nulls, and what was read under other keys
is not. -/
def KeepsExactly (keys : Value → Prop) (read written : Entries) : Prop :=
  ∀ key value, Found key value read → value.isNull = false → (Keeps written key value ↔ keys key)

/-- A field is written with the value that was read there, or with its text where that is needed. -/
inductive Carries (read : Entries) : String × Option Value → Prop
  | value {key : String} {value : Option Value} (h : value.getD .null = Entries.get read key) :
      Carries read (key, value)
  | text {key text : String} (hkey : key ∈ textKeys) (h : Entries.HasText read key text) :
      Carries read (key, some (.str text))

variable {read others : Entries} {keys : List String} {fields : List (String × Option Value)}
  {key : String} {value : Value}

/-- A field that carries what was read is kept. -/
theorem keeps_of_carries (hnodup : (fields.map Prod.fst).Nodup)
    (hothers : without others (fields.map Prod.fst) = others) {field : String × Option Value}
    (hmem : field ∈ fields) (hcarries : Carries read field)
    (hfound : Found (.str field.1) value read) (hgiven : value.isNull = false) :
    Keeps (ofFields fields ++ others) (.str field.1) value := by
  have hget : Entries.get read field.1 = value := by rw [get, found_str_iff.1 hfound]; rfl
  cases hcarries with
  | @value key written h =>
    refine .inl (found_str_iff.2 ((find?_ofFields_append hnodup hothers hmem).trans ?_))
    -- something is written, since null was not read
    cases written with
    | none => simp [← hget, ← h, Value.isNull] at hgiven
    | some written => exact congrArg some (h.trans hget)
  | text hkey h =>
    refine .inr ⟨⟨_, hkey, rfl⟩, _, hget ▸ h.text_eq, ?_⟩
    exact found_str_iff.2 (find?_ofFields_append hnodup hothers hmem)

/-- An object that is written field by field keeps what was read under the keys of its fields. -/
theorem keepsExactly_ofFields (hkeys : fields.map Prod.fst = keys) (hnodup : keys.Nodup)
    (hcarries : ∀ field ∈ fields, Carries read field) :
    MappingHeld (KeepsExactly (Value.IsKeyOf keys)) read (.ofFields fields []) := by
  subst hkeys
  refine ⟨_, rfl, fun key value hfound hgiven => ⟨?_, ?_⟩⟩
  · rw [List.append_nil]
    rintro (hwritten | ⟨-, _, -, hwritten⟩) <;>
      exact isKeyOf_of_mem_ofFields (mem_of_found hwritten)
  · rintro ⟨key, hkey, rfl⟩
    obtain ⟨field, hmem, rfl⟩ := List.mem_map.1 hkey
    exact keeps_of_carries hnodup rfl hmem (hcarries field hmem) hfound hgiven

/-- An object that is written field by field, and then with all that was read under other keys,
keeps everything. -/
theorem keepsAll_ofFields (hkeys : fields.map Prod.fst = keys) (hnodup : keys.Nodup)
    (hothers : without read keys = others) (hcarries : ∀ field ∈ fields, Carries read field) :
    MappingHeld KeepsAll read (.ofFields fields others) := by
  subst hkeys
  refine ⟨_, rfl, fun key value hfound hgiven => ?_⟩
  by_cases hkey : key.IsKeyOf (fields.map Prod.fst)
  · obtain ⟨key, hkey, rfl⟩ := hkey
    obtain ⟨field, hmem, rfl⟩ := List.mem_map.1 hkey
    exact keeps_of_carries hnodup (without_eq_self hothers) hmem (hcarries field hmem) hfound
      hgiven
  · refine .inl ((found_append_iff fun entry hentry heq => ?_).2 ?_)
    · exact hkey (heq ▸ isKeyOf_of_mem_ofFields hentry)
    · rw [← hothers]
      exact found_without_iff.2 ⟨hfound, hkey⟩

end Entries

open Entries

/-! ## The laws of the parts -/

/-- The keys under which a parameter is written. -/
def Parameter.keys (read : Entries) : List String :=
  if (Entries.get read "reference").isNull then ["name", "in", "value"] else ["reference", "value"]

/-- The keys under which a request body is written. -/
def RequestBody.keys : List String := ["contentType", "payload", "replacements"]

/-- The keys under which a condition for success is written. -/
def Criterion.keys : List String := ["context", "condition", "value", "type"]

/-- An action is written under a key, unless it has the type of a reference and the key is that of
its name or its type. -/
def Action.IsWritten (read : Entries) (key : Value) : Prop :=
  ¬ (Entries.HasText read "type" Action.referenceType ∧ key.IsKeyOf Action.fields)

/-- All that is read of a part is written. -/
def PartLaw.lossless : PartLaw := ⟨KeepsAll, KeepsAll, KeepsAll, KeepsAll⟩

/-- What is read of a part is written exactly under some keys. -/
def PartLaw.exact : PartLaw where
  parameter read := KeepsExactly (Value.IsKeyOf (Parameter.keys read)) read
  requestBody := KeepsExactly (Value.IsKeyOf RequestBody.keys)
  criterion := KeepsExactly (Value.IsKeyOf Criterion.keys)
  action read := KeepsExactly (Action.IsWritten read) read

variable {entries : Entries} {components : Value}

/-- A parameter keeps exactly what is read under its keys. -/
theorem Parameter.exact_toValue {parameter : Parameter}
    (h : Parameter.Fits components parameter entries) :
    MappingHeld PartLaw.exact.parameter entries parameter.toValue := by
  cases h with
  | own href hname =>
    have hlaw (written : Entries)
        (hkept : KeepsExactly (Value.IsKeyOf ["name", "in", "value"]) entries written) :
        PartLaw.exact.parameter entries written := by
      simpa only [PartLaw.exact, Parameter.keys, if_pos href] using hkept
    refine MappingHeld.mono hlaw (keepsExactly_ofFields rfl (by decide) ?_)
    simp only [List.forall_mem_cons]
    exact ⟨.text (by decide) hname, .value (Value.getD_given? _), .value rfl, List.forall_mem_nil _⟩
  | reusable href htarget hinherits =>
    have hlaw (written : Entries)
        (hkept : KeepsExactly (Value.IsKeyOf ["reference", "value"]) entries written) :
        PartLaw.exact.parameter entries written := by
      have hnot : ¬ (Entries.get entries "reference").isNull = true :=
        Bool.eq_false_iff.1 href.given
      simpa only [PartLaw.exact, Parameter.keys, if_neg hnot] using hkept
    rw [Parameter.toValue_of_reference (.reusable href htarget hinherits) href]
    refine MappingHeld.mono hlaw (keepsExactly_ofFields rfl (by decide) ?_)
    simp only [List.forall_mem_cons]
    exact ⟨.text (by decide) href, .value (Value.getD_given? _), List.forall_mem_nil _⟩

/-- A request body keeps exactly what is read under its keys. -/
theorem RequestBody.exact_toValue {body : RequestBody} (h : body.Fits entries) :
    MappingHeld PartLaw.exact.requestBody entries body.toValue := by
  refine keepsExactly_ofFields rfl (by decide) ?_
  simp only [List.forall_mem_cons]
  exact ⟨.value ((Value.getD_given? _).trans h.contentType.symm), .value h.payload.symm,
    .value ((Value.getD_given? _).trans h.replacements.symm), List.forall_mem_nil _⟩

/-- A condition for success keeps exactly what is read under its keys. -/
theorem Criterion.exact_toValue {criterion : Criterion} (h : criterion.Fits entries) :
    MappingHeld PartLaw.exact.criterion entries criterion.toValue := by
  refine keepsExactly_ofFields rfl (by decide) ?_
  simp only [List.forall_mem_cons]
  exact ⟨.value ((Value.getD_given? _).trans h.context.symm), .text (by decide) h.condition,
    .value ((Value.getD_given? _).trans h.value.symm),
    .value ((Value.getD_given? _).trans h.type.symm), List.forall_mem_nil _⟩

/-- An action keeps everything, but not its name and its type if that is the type of a reference. -/
theorem Action.exact_toValue {action : Action} (h : action.Fits entries) :
    MappingHeld PartLaw.exact.action entries action.toValue := by
  cases h with
  | reference refers type name config =>
    refine ⟨entries, by rw [Action.toValue, if_pos type.symm, config], fun key value hfound _ => ?_⟩
    -- all entries are written, and there is no type among them
    refine iff_of_true (.inl hfound) ?_
    rintro ⟨htype, -⟩
    exact absurd (Entries.has_of_given htype.given) (by simp [refers.2])
  | typed refers name type config =>
    by_cases htype : action.type = Action.referenceType
    · refine ⟨action.config, if_pos htype, fun key value hfound _ => ?_⟩
      rw [Action.IsWritten, and_iff_right (htype ▸ type), ← config]
      constructor
      · rintro (hwritten | ⟨-, _, -, hwritten⟩) <;> exact (found_without_iff.1 hwritten).2
      · intro hkey
        exact .inl (found_without_iff.2 ⟨hfound, hkey⟩)
    · have hcarries : ∀ field ∈ [("name", some (Value.str action.name)),
          ("type", some (.str action.type))], Carries entries field := by
        simp only [List.forall_mem_cons]
        exact ⟨.text (by decide) name, .text (by decide) type, List.forall_mem_nil _⟩
      obtain ⟨written, hwritten, hall⟩ := keepsAll_ofFields rfl (by simp) config hcarries
      refine ⟨written, by rw [Action.toValue, if_neg htype, hwritten],
        fun key value hfound hgiven => iff_of_true (hall key value hfound hgiven) ?_⟩
      rintro ⟨hother, -⟩
      exact htype (Except.ok.inj (type.text_eq.symm.trans hother.text_eq))

/-- Each part of a step keeps exactly what its law says. -/
theorem PartLaw.holds_exact : PartLaw.exact.Holds where
  parameter := Parameter.exact_toValue
  requestBody := RequestBody.exact_toValue
  criterion := Criterion.exact_toValue
  action := Action.exact_toValue

/-- Of the parts of the steps of an accepted document, in their order, is written what was read
under some keys, and nothing that was read under other keys. The keys are those of a parameter, of
a reference to a reusable parameter, of a request body and of a condition for success. For an action
they are all keys, except that an action with the type of a reference loses its name and its
type. -/
theorem Document.toValue_parts {value : Value} {document : Document}
    (h : Document.read value = .ok document) :
    MappingKept (Document.PartsKept .exact) value document.toValue :=
  Document.partsKept_toValue PartLaw.holds_exact (Document.read_eq_ok_iff.1 h).1

/-- The value of a document whose only parameter has a note. -/
def notedDocument : Value :=
  let id : Value := .map [(.str "name", .str "id"), (.str "in", .str "query"),
    (.str "value", .int 1), (.str "x-note", .str "kept")]
  let step : Value := .map [(.str "stepId", .str "a"), (.str "operationId", .str "op"),
    (.str "parameters", .list [id])]
  let workflow : Value := .map [(.str "workflowId", .str "w"), (.str "steps", .list [step])]
  .map [(.str "arazzo", .str "1.0.0"),
    (.str "info", .map [(.str "title", .str "T"), (.str "version", .str "1")]),
    (.str "workflows", .list [workflow])]

/-- The parameter is written under the keys of a parameter. -/
theorem parts_noted :
    ∃ document, Document.read notedDocument = .ok document ∧
      MappingKept (Document.PartsKept .exact) notedDocument document.toValue := by
  have hread : Document.read notedDocument = .ok _ := rfl
  exact ⟨_, hread, Document.toValue_parts hread⟩

/-- The note is lost. -/
theorem toValue_noted :
    ∃ document, Document.read notedDocument = .ok document ∧
      ¬ MappingKept (Document.PartsKept .lossless) notedDocument document.toValue := by
  have hread : Document.read notedDocument = .ok _ := rfl
  refine ⟨_, hread, ?_⟩
  rintro ⟨entries, hentries, written, hwritten, hparts⟩
  obtain rfl := Value.map.inj hentries
  obtain rfl := Value.map.inj hwritten
  have hsteps := hparts.first rfl rfl
  have hstep := hsteps.first rfl rfl
  have hparameter := hstep.parameters.first rfl rfl
  have hkeeps := hparameter (.str "x-note") (.str "kept") (found_str_iff.2 rfl) rfl
  rcases hkeeps with hfound | ⟨-, _, -, hfound⟩ <;> exact nomatch found_str_iff.1 hfound

end FlowCheck
