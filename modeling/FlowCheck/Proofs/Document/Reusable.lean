import FlowCheck.Proofs.Document.Grammar
import FlowCheck.Proofs.Document.Numbered
import FlowCheck.Proofs.Document.Rereading

/-!
# Parameters that refer to reusable ones

A parameter of a step may be written as a reference to a reusable parameter, with or without a value
of its own. It takes its name and its location from there, and its value unless it has its own
(`Parameter.TakenFrom`). It is written as the reference and its own value, so that another value of
the reusable parameter in what is written reaches exactly the parameters without their own
(`Document.takenFrom_reusable`).
-/

namespace FlowCheck

/-- The parameter is what some entries with a reference make of the reusable parameter. It has
inherited its value if there is one there and none in the entries. -/
structure Parameter.TakenFrom (parameter : Parameter) (entries target : Entries) : Prop where
  name : Entries.HasText target "name" parameter.name
  location : parameter.location = Entries.get target "in"
  value : parameter.value =
    if (Entries.get entries "value").isNull then Entries.get target "value"
    else Entries.get entries "value"
  inherited : parameter.inherited = true ↔
    Entries.get entries "value" = .null ∧ Entries.get target "value" ≠ .null

/-- The value with a new one put in under keys, which lead from mapping to mapping. -/
def Value.putUnder : Value → List String → Value → Value
  | _, [], new => new
  | .map entries, key :: keys, new =>
    .map (Entries.insert entries (.str key) ((Entries.get entries key).putUnder keys new))
  | other, _ :: _, _ => other

/-- The keys of the value of a reusable parameter in a document. -/
def reusableValueKeys (key : String) : List String :=
  ["components", "parameters", key, "value"]

variable {value new components : Value} {document : Document} {parameter : Parameter}
  {entries target : Entries} {key other : String} {keys : List String} {i j k : Nat}

/-- A parameter with a reference is taken from the reusable parameter that the reference names. -/
theorem Parameter.Fits.exists_takenFrom (h : Parameter.Fits components parameter entries)
    (href : Entries.HasText entries "reference" (Parameter.reusableStart ++ key)) :
    ∃ target, reusable? components key = some target ∧ parameter.TakenFrom entries target := by
  cases h with
  | own hnull => exact absurd hnull (Bool.eq_false_iff.1 href.given)
  | @reusable _ target reference name inherits hother htarget hinherits =>
    obtain rfl := Except.ok.inj (hother.text_eq.symm.trans href.text_eq)
    obtain ⟨⟨other, hkey, hfound⟩, hname⟩ := htarget
    obtain rfl : key = other := by simpa using hkey
    refine ⟨target, hfound, hname, rfl, ?_, ?_⟩
    · cases hown : (Entries.get entries "value").isNull with
      | false => simp [hinherits, hown]
      | true =>
        cases htargetNull : (Entries.get target "value").isNull with
        | false => simp [hinherits, hown, htargetNull]
        | true =>
          simp [hinherits, Value.isNull_iff.1 hown, Value.isNull_iff.1 htargetNull]
    · simp [hinherits, ← Value.isNull_iff]

/-! ## Another value of a reusable parameter -/

/-- A new value of a reusable parameter changes the entries of this parameter only. -/
theorem reusable?_putUnder (h : reusable? components key = some target) (new : Value)
    (other : String) :
    reusable? (components.putUnder ["parameters", key, "value"] new) other =
      if other = key then some (Entries.insert target (.str "value") new)
      else reusable? components other := by
  obtain ⟨parts, rfl, parameters, hparameters, htarget⟩ := reusable?_eq_some_iff.1 h
  simp only [Value.putUnder, hparameters, htarget, reusable?, mappingUnder?, Option.bind_some,
    Entries.get_insert_self]
  by_cases hother : other = key
  · rw [if_pos hother, hother, Entries.get_insert_self]
  · rw [if_neg hother, Entries.get_insert_of_ne _ _ hother]

/-- A new value of a reusable parameter changes no names and no locations. -/
theorem keepsReusable_putUnder (h : reusable? components key = some target) (new : Value) :
    KeepsReusable components (components.putUnder ["parameters", key, "value"] new) := by
  intro other found hfound
  rw [reusable?_putUnder h]
  by_cases hother : other = key
  · obtain rfl := hother
    obtain rfl := Option.some.inj (h.symm.trans hfound)
    rw [if_pos rfl]
    exact ⟨_, rfl, Entries.get_insert_of_ne _ _ (by decide),
      Entries.get_insert_of_ne _ _ (by decide)⟩
  · rw [if_neg hother]
    exact ⟨found, hfound, rfl, rfl⟩

/-- What is put in under the key of the last field of a mapping is put into its value. -/
theorem Value.putUnder_ofFields (fields : List (String × Option Value)) {others : Entries}
    (h : key ∉ fields.map Prod.fst) (old : Value) :
    (Value.ofFields (fields ++ [(key, some old)]) others).putUnder (key :: keys) new =
      .ofFields (fields ++ [(key, some (old.putUnder keys new))]) others := by
  have hget : Entries.get (Entries.ofFields (fields ++ [(key, some old)]) ++ others) key = old := by
    rw [Entries.get, Entries.ofFields, List.filterMap_append, List.append_assoc,
      Entries.find?_append, ← Entries.ofFields, Entries.find?_ofFields_of_notMem h]
    simp [Entries.find?_cons, Value.isStr]
  rw [Value.ofFields, Value.putUnder, hget, Entries.insert_ofFields_append h, Value.ofFields]

/-- To change the reusable parts in what is written is to write the document with the changed
parts. -/
theorem Document.putUnder_toValue (hcomponents : document.components ≠ .null)
    (hnew : document.components.putUnder keys new ≠ .null) :
    document.toValue.putUnder ("components" :: keys) new =
      { document with components := document.components.putUnder keys new : Document }.toValue := by
  have hgiven {value : Value} (hvalue : value ≠ .null) : value.given? = some value :=
    if_neg (mt Value.isNull_iff.1 hvalue)
  rw [Document.toValue, Document.toValue, hgiven hcomponents, hgiven hnew]
  exact Value.putUnder_ofFields [("arazzo", _), ("info", _), ("sourceDescriptions", _),
    ("workflows", _)] (by simp) _

/-- The reusable parts do not matter for what the value of a document has under some numbers. -/
theorem Value.parameterAt?_putUnder (value : Value) :
    (value.putUnder ("components" :: keys) new).parameterAt? i j k =
      value.parameterAt? i j k := by
  have hworkflows : (value.putUnder ("components" :: keys) new).itemsUnder "workflows" =
      value.itemsUnder "workflows" := by
    cases value with
    | map entries => exact congrArg Value.listItems (Entries.get_insert_of_ne _ _ (by decide))
    | _ => rfl
  rw [Value.parameterAt?, hworkflows]
  rfl

/-- What is written of a parameter with a reference holds parameters with the same reference and the
same value of their own. -/
theorem Parameter.exists_shows_reference {again : Parameter} {others : Value} {reference : String}
    (h : Parameter.Fits components parameter entries)
    (href : Entries.HasText entries "reference" reference)
    (hagain : MappingHeld (Parameter.Fits others) again parameter.toValue) :
    ∃ written, Parameter.Fits others again written ∧
      Entries.HasText written "reference" reference ∧
      Entries.get written "value" = Entries.get entries "value" := by
  rw [Parameter.toValue_of_reference h href] at hagain
  obtain ⟨written, hshows, hfits⟩ := hagain.exists_shows ["reference", "value"] rfl (by decide) rfl
  have hget := hshows.get_field
  simp only [List.forall_mem_cons, Value.getD_given?, Option.getD_some] at hget
  exact ⟨written, hfits, Entries.hasText_of_get hget.1, hget.2.1⟩

/-- To change the value of a reusable parameter in what is written is to write the document with
this change. -/
theorem Document.putUnder_reusable (h : reusable? document.components key = some target)
    (new : Value) :
    document.toValue.putUnder (reusableValueKeys key) new =
      { document with components := document.components.putUnder ["parameters", key, "value"] new :
        Document }.toValue := by
  obtain ⟨parts, hparts, -⟩ := reusable?_eq_some_iff.1 h
  exact Document.putUnder_toValue (by simp [hparts]) (by simp [hparts, Value.putUnder])

/-- When what is written gets another value of a reusable parameter and is read again, a parameter
that refers to it has its own value, or else the new one. -/
theorem Document.exists_parameterAt?_reread {reread : Document} (hheld : document.HeldBy value)
    (hparameter : document.parameterAt? i j k = some parameter)
    (hfits : Parameter.Fits document.components parameter entries)
    (href : Entries.HasText entries "reference" (Parameter.reusableStart ++ key))
    (htarget : reusable? document.components key = some target)
    (hreread : Document.read (document.toValue.putUnder (reusableValueKeys key) new) =
      .ok reread) :
    ∃ again, reread.parameterAt? i j k = some again ∧
      again.value = if (Entries.get entries "value").isNull then new
        else Entries.get entries "value" := by
  obtain ⟨hrereadHeld, -⟩ := Document.read_eq_ok_iff.1 hreread
  have hwritten := Document.parameterAt?_toValue hheld hparameter
  rw [← Value.parameterAt?_putUnder] at hwritten
  obtain ⟨again, hagain, hagainHeld⟩ := hrereadHeld.exists_parameterAt? hwritten
  obtain ⟨written, hagainFits, hagainReference, hown⟩ :=
    Parameter.exists_shows_reference hfits href hagainHeld
  -- the parameter is again taken from the reusable one, which now has the new value
  obtain ⟨found, hfound, hagainTaken⟩ := hagainFits.exists_takenFrom hagainReference
  obtain ⟨_, -, hdocument⟩ := hheld
  rw [Document.putUnder_reusable htarget] at hrereadHeld
  rw [(Document.held_workflows hdocument hrereadHeld).1, reusable?_putUnder htarget, if_pos rfl]
    at hfound
  obtain rfl := Option.some.inj hfound
  have hvalue := hagainTaken.value
  rw [hown, Entries.get_insert_self] at hvalue
  exact ⟨again, hagain, hvalue⟩

/-- In an accepted document, a parameter with a reference is taken from the reusable parameter that
the reference names. It is written as the reference and its own value. When the reusable parameter
gets another value in what is written, the document can be read again if its actions have the
references that they should have, and the value of the parameter changes exactly if it has none of
its own. -/
theorem Document.takenFrom_reusable (h : Document.read value = .ok document)
    (hat : value.parameterAt? i j k = some (.map entries))
    (href : Entries.HasText entries "reference" (Parameter.reusableStart ++ key)) :
    ∃ parameter target, document.parameterAt? i j k = some parameter ∧
      mappingUnder? value "components" = some document.components ∧
      reusable? document.components key = some target ∧
      parameter.TakenFrom entries target ∧
      document.toValue.parameterAt? i j k =
        some (.ofFields [("reference", some (.str (Parameter.reusableStart ++ key))),
          ("value", (Entries.get entries "value").given?)] []) ∧
      ∀ new, let changed := document.toValue.putUnder (reusableValueKeys key) new
        ((∃ reread, Document.read changed = .ok reread) ↔ document.HasReferences) ∧
        ∀ reread, Document.read changed = .ok reread →
          ∃ again, reread.parameterAt? i j k = some again ∧
            again.value = (if (Entries.get entries "value").isNull then new
              else Entries.get entries "value") ∧
            (new ≠ Entries.get target "value" →
              (again.value ≠ parameter.value ↔ Entries.get entries "value" = .null)) := by
  obtain ⟨hheld, hvalid⟩ := Document.read_eq_ok_iff.1 h
  obtain ⟨parameter, hparameter, _, hentries, hfits⟩ := hheld.exists_parameterAt? hat
  obtain rfl := Value.map.inj hentries
  obtain ⟨target, htarget, htaken⟩ := hfits.exists_takenFrom href
  have hunder : mappingUnder? value "components" = some document.components := by
    obtain ⟨_, rfl, hdocument⟩ := hheld
    exact congrArg some hdocument.components
  refine ⟨parameter, target, hparameter, hunder, htarget, htaken, ?_, fun new => ⟨?_, ?_⟩⟩
  · rw [Document.parameterAt?_toValue hheld hparameter, Parameter.toValue_of_reference hfits href]
  · rw [Document.putUnder_reusable htarget]
    exact Document.exists_read_toValue_iff hheld hvalid (keepsReusable_putUnder htarget new)
  · intro reread hreread
    obtain ⟨again, hagain, hvalue⟩ :=
      Document.exists_parameterAt?_reread hheld hparameter hfits href htarget hreread
    refine ⟨again, hagain, hvalue, fun hnew => ?_⟩
    rw [hvalue, htaken.value, ← Value.isNull_iff]
    split
    · next hnull => exact iff_of_true hnew hnull
    · next hnull => exact iff_of_false (not_not_intro rfl) hnull

/-- The value of a document with one step, which takes its page twice from a reusable parameter:
with the page 0 of its own, and without one. -/
def pagedDocument : Value :=
  let reference : Value × Value := (.str "reference", .str "$components.parameters.page")
  let step : Value := .map [(.str "stepId", .str "list"), (.str "operationId", .str "listPets"),
    (.str "parameters", .list [.map [reference, (.str "value", .int 0)], .map [reference]])]
  let workflow : Value := .map [(.str "workflowId", .str "pets"), (.str "steps", .list [step])]
  let page : Value := .map [(.str "name", .str "page"), (.str "in", .str "query"),
    (.str "value", .int 1)]
  .map [(.str "arazzo", .str "1.0.0"),
    (.str "info", .map [(.str "title", .str "Pets"), (.str "version", .str "1")]),
    (.str "workflows", .list [workflow]),
    (.str "components", .map [(.str "parameters", .map [(.str "page", page)])])]

/-- When the reusable parameter gets the page 2, the page 0 stays and the inherited one changes. -/
theorem takenFrom_reusable_paged :
    ∃ document own inherited reread ownAgain inheritedAgain,
      Document.read pagedDocument = .ok document ∧
      document.parameterAt? 0 0 0 = some own ∧ own.value = .int 0 ∧ own.inherited = false ∧
      document.parameterAt? 0 0 1 = some inherited ∧ inherited.value = .int 1 ∧
      inherited.inherited = true ∧
      Document.read (document.toValue.putUnder (reusableValueKeys "page") (.int 2)) =
        .ok reread ∧
      reread.parameterAt? 0 0 0 = some ownAgain ∧ ownAgain.value = .int 0 ∧
      reread.parameterAt? 0 0 1 = some inheritedAgain ∧ inheritedAgain.value = .int 2 := by
  have hrun : ∃ document own inherited, Document.read pagedDocument = .ok document ∧
      document.HasReferences ∧
      document.parameterAt? 0 0 0 = some own ∧ own.value = .int 0 ∧ own.inherited = false ∧
      document.parameterAt? 0 0 1 = some inherited ∧ inherited.value = .int 1 ∧
      inherited.inherited = true := by
    refine ⟨_, _, _, rfl, fun workflow hworkflow step hstep action haction => ?_, rfl, rfl, rfl,
      rfl, rfl, rfl⟩
    obtain rfl := List.mem_singleton.1 hworkflow
    obtain rfl := List.mem_singleton.1 hstep
    exact absurd haction List.not_mem_nil
  obtain ⟨document, own, inherited, hread, hreferences, hown, hownValue, hownInherited, hinherited,
    hinheritedValue, hinheritedInherited⟩ := hrun
  have hpage (entries : Entries)
      (hget : Entries.get entries "reference" = .str "$components.parameters.page") :
      Entries.HasText entries "reference" (Parameter.reusableStart ++ "page") :=
    Entries.hasText_of_get (hget.trans (congrArg Value.str (by decide)))
  obtain ⟨_, _, -, -, -, -, -, hownAgain⟩ :=
    Document.takenFrom_reusable (i := 0) (j := 0) (k := 0) hread rfl (hpage _ rfl)
  obtain ⟨_, _, -, -, -, -, -, hinheritedAgain⟩ :=
    Document.takenFrom_reusable (i := 0) (j := 0) (k := 1) hread rfl (hpage _ rfl)
  obtain ⟨reread, hreread⟩ := (hownAgain (.int 2)).1.2 hreferences
  obtain ⟨ownAgain, hownAt, hownAgainValue, -⟩ := (hownAgain (.int 2)).2 reread hreread
  obtain ⟨inheritedAgain, hinheritedAt, hinheritedAgainValue, -⟩ :=
    (hinheritedAgain (.int 2)).2 reread hreread
  exact ⟨document, own, inherited, reread, ownAgain, inheritedAgain, hread, hown, hownValue,
    hownInherited, hinherited, hinheritedValue, hinheritedInherited, hreread, hownAt,
    hownAgainValue, hinheritedAt, hinheritedAgainValue⟩

end FlowCheck
