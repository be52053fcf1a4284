import FlowCheck.Proofs.Document.RoundTrip

/-!
# Parameters by their numbers

A parameter stands in a step of a workflow, and is found by three numbers, both in the value of a
document and in the document. The parameter of an accepted document is the one that the value holds
under the same numbers (`Document.HeldBy.exists_parameterAt?`), and it is written there again
(`Document.parameterAt?_toValue`).
-/

namespace FlowCheck

open Result

namespace Value

/-- The items of a list. -/
def listItems : Value → List Value
  | .list items => items
  | _ => []

/-- The items of the list under a field of a mapping. -/
def itemsUnder (value : Value) (field : String) : List Value :=
  match value with
  | .map entries => (Entries.get entries field).listItems
  | _ => []

/-- The value of the parameter with a number, in the step with a number, in the workflow with a
number. -/
def parameterAt? (value : Value) (workflow step parameter : Nat) : Option Value := do
  let workflow ← (value.itemsUnder "workflows")[workflow]?
  let step ← (workflow.itemsUnder "steps")[step]?
  (step.itemsUnder "parameters")[parameter]?

end Value

/-- The parameter with a number, in the step with a number, in the workflow with a number. -/
def Document.parameterAt? (document : Document) (workflow step parameter : Nat) :
    Option Parameter := do
  let workflow ← document.workflows[workflow]?
  let step ← workflow.steps[step]?
  step.parameters[parameter]?

variable {α : Type} {Held : α → Value → Prop} {write : α → Value} {xs : List α} {value item : Value}
  {document : Document} {parameter : Parameter} {i j k : Nat}

/-- Each item of a list that is held holds the element with its number. -/
theorem ListHeld.exists_getElem? (h : ListHeld Held xs value)
    (hitem : value.listItems[i]? = some item) : ∃ x, xs[i]? = some x ∧ Held x item := by
  obtain ⟨items, rfl | ⟨rfl, rfl⟩, h⟩ := h
  · exact exists_getElem?_of_forall₂ h hitem
  · exact absurd hitem (by simp [Value.listItems])

/-- The items that are written are the values of the elements. -/
theorem Value.listItems_ofItems? :
    ((Value.ofItems? write xs).getD .null).listItems = xs.map write := by
  cases xs <;> rfl

/-- Under a field stand the items that are written there. -/
theorem Value.itemsUnder_ofFields (keys : List String) {fields : List (String × Option Value)}
    {others : Entries} (hkeys : fields.map Prod.fst = keys) (hnodup : keys.Nodup)
    (hothers : Entries.without others keys = others) {field : String} (written : Option Value)
    (hmem : (field, written) ∈ fields) :
    (Value.ofFields fields others).itemsUnder field = (written.getD .null).listItems :=
  congrArg Value.listItems ((Entries.shows_ofFields hkeys hnodup hothers).get_field _ hmem)

/-- What a value has under some numbers holds the parameter that the document has there. -/
theorem Document.HeldBy.exists_parameterAt? (h : document.HeldBy value)
    (hat : value.parameterAt? i j k = some item) :
    ∃ parameter, document.parameterAt? i j k = some parameter ∧
      MappingHeld (Parameter.Fits document.components) parameter item := by
  obtain ⟨entries, rfl, h⟩ := h
  obtain ⟨workflowValue, hworkflowValue, hat⟩ := Option.bind_eq_some_iff.1 hat
  obtain ⟨stepValue, hstepValue, hitem⟩ := Option.bind_eq_some_iff.1 hat
  obtain ⟨workflow, hworkflow, _, rfl, hworkflowFits⟩ := h.workflows.exists_getElem? hworkflowValue
  obtain ⟨step, hstep, _, rfl, hstepFits⟩ := hworkflowFits.steps.exists_getElem? hstepValue
  obtain ⟨parameter, hparameter, hheld⟩ := hstepFits.parameters.exists_getElem? hitem
  refine ⟨parameter, ?_, hheld⟩
  simp only [Document.parameterAt?, Option.bind_eq_bind, hworkflow, Option.bind_some, hstep,
    hparameter]

/-- A parameter is written under its numbers. -/
theorem Document.parameterAt?_toValue (h : document.HeldBy value)
    (hat : document.parameterAt? i j k = some parameter) :
    document.toValue.parameterAt? i j k = some parameter.toValue := by
  obtain ⟨entries, -, h⟩ := h
  obtain ⟨workflow, hworkflow, hat⟩ := Option.bind_eq_some_iff.1 hat
  obtain ⟨step, hstep, hparameter⟩ := Option.bind_eq_some_iff.1 hat
  obtain ⟨_, hworkflowFits⟩ := h.workflows.exists_fits (List.mem_of_getElem? hworkflow)
  obtain ⟨_, hstepFits⟩ := hworkflowFits.steps.exists_fits (List.mem_of_getElem? hstep)
  have hworkflows : document.toValue.itemsUnder "workflows" =
      document.workflows.map Workflow.toValue :=
    Value.itemsUnder_ofFields Document.fields rfl (by decide)
      (Entries.without_eq_self h.extensions)
      (some (.ofList Workflow.toValue document.workflows)) (by simp)
  have hsteps : workflow.toValue.itemsUnder "steps" = workflow.steps.map Step.toValue :=
    Value.itemsUnder_ofFields Workflow.fields rfl (by decide)
      (Entries.without_eq_self hworkflowFits.extensions)
      (some (.ofList Step.toValue workflow.steps)) (by simp)
  have hparameters : step.toValue.itemsUnder "parameters" =
      step.parameters.map Parameter.toValue :=
    (Value.itemsUnder_ofFields Step.fields rfl (by decide)
      (Entries.without_eq_self hstepFits.extensions)
      (Value.ofItems? Parameter.toValue step.parameters) (by simp)).trans Value.listItems_ofItems?
  simp only [Value.parameterAt?, Option.bind_eq_bind, hworkflows, List.getElem?_map, hworkflow,
    Option.map_some, Option.bind_some, hsteps, hstep, hparameters, hparameter]

end FlowCheck
