import FlowCheck.Proofs.Document.RoundTrip

/-!
# Reading with other values of reusable parameters

A document that is written can be changed before it is read again. If reusable parameters get other
values and keep their names and locations (`KeepsReusable`), what is read is again a document that
satisfies the rules, with the same exception as without the change: an action that has a name and
the type of a reference is written without both, so it cannot be read without a reference
(`Document.exists_read_toValue_iff`).
-/

namespace FlowCheck

open Result

/-- Each reusable parameter stands among the other reusable parts too, with the same name and the
same location. -/
def KeepsReusable (components others : Value) : Prop :=
  ∀ key target, reusable? components key = some target →
    ∃ other, reusable? others key = some other ∧
      Entries.get other "name" = Entries.get target "name" ∧
      Entries.get other "in" = Entries.get target "in"

/-- An action with the type of a reference has one, and it reads as a text. -/
def Action.HasReference (action : Action) : Prop :=
  action.type = Action.referenceType →
    Entries.has action.config "reference" = true ∧
      ∃ reference, (Entries.get action.config "reference").text = .ok reference

/-- Every action of the document has a reference, if it should have one. -/
def Document.HasReferences (document : Document) : Prop :=
  ∀ workflow ∈ document.workflows, ∀ step ∈ workflow.steps, ∀ action ∈ step.actions,
    action.HasReference

/-! ## Lists -/

variable {α β : Type} {Held : β → Value → Prop} {write : α → Value} {xs : List α} {ys : List β}
  {x : α}

/-- What the value of a list holds has an element for each that was written. -/
theorem ListHeld.exists_of_mem_ofList (h : ListHeld Held ys (.ofList write xs)) (hx : x ∈ xs) :
    ∃ y ∈ ys, Held y (write x) := by
  obtain ⟨items, hitems | ⟨hnull, -⟩, h⟩ := h
  · obtain rfl := Value.list.inj hitems
    exact exists_of_mem_forall₂ h (List.mem_map_of_mem hx)
  · exact absurd hnull nofun

/-- The value of a list holds a list if the value of each element holds something. -/
theorem exists_listHeld_ofList {R : α → β → Prop}
    (h : ∀ x ∈ xs, ∃ y, Held y (write x) ∧ R x y) :
    ∃ ys, ListHeld Held ys (.ofList write xs) ∧ List.Forall₂ R xs ys := by
  obtain ⟨ys, hys⟩ := exists_forall₂_iff.2 h
  refine ⟨ys, ⟨xs.map write, .inl rfl, ?_⟩, hys.imp fun _ _ => And.right⟩
  rw [List.forall₂_map_right_iff]
  exact (hys.imp fun _ _ => And.left).flip

/-- The same holds where the empty list is not written. -/
theorem exists_listHeld_ofItems? {R : α → β → Prop}
    (h : ∀ x ∈ xs, ∃ y, Held y (write x) ∧ R x y) :
    ∃ ys, ListHeld Held ys ((Value.ofItems? write xs).getD .null) ∧ List.Forall₂ R xs ys := by
  cases xs with
  | nil => exact ⟨[], ⟨[], .inr ⟨rfl, rfl⟩, .nil⟩, .nil⟩
  | cons => exact exists_listHeld_ofList h

/-- Elements with the same ids, one by one, have the same ids as a list. -/
theorem map_id_eq {id : α → String} {other : β → String}
    (h : List.Forall₂ (fun x y => other y = id x) xs ys) : xs.map id = ys.map other := by
  rw [← List.forall₂_eq_eq_eq, List.forall₂_map_left_iff, List.forall₂_map_right_iff]
  exact h.imp fun _ _ => Eq.symm

/-! ## Parts of steps -/

variable {components others : Value} {entries : Entries} {allowed : List String}
  {actions again : Option (List Action)} {value : Value}

/-- If the value of an action holds anything, the action has a reference, if it should have one. -/
theorem Action.hasReference_of_held {action again : Action} (h : action.Fits entries)
    (hagain : MappingHeld Action.Fits again action.toValue) : action.HasReference := by
  intro htype
  rw [Action.mappingHeld_toValue_iff htype, Action.fits_iff_of_noType (Action.has_type_config h)]
    at hagain
  obtain ⟨hhas, -, ⟨reference, htext, -⟩, -⟩ := hagain
  exact ⟨hhas, reference, htext⟩

/-- The value of an action that has a reference, if it should have one, holds an action of the same
type. -/
theorem Action.HasReference.exists_held {action : Action} (hreference : action.HasReference)
    (h : action.Fits entries) :
    ∃ again, MappingHeld Action.Fits again action.toValue ∧ again.type = action.type := by
  by_cases htype : action.type = Action.referenceType
  · -- the name is read again as the last part of the reference
    obtain ⟨hhas, reference, htext⟩ := hreference htype
    refine ⟨{ action with name := lastPart reference }, ?_, rfl⟩
    rw [Action.mappingHeld_toValue_iff htype, Action.fits_iff_of_noType (Action.has_type_config h)]
    exact ⟨hhas, htype, ⟨reference, htext, rfl⟩, rfl⟩
  · exact ⟨action, Action.held_toValue h htype, rfl⟩

/-- If the value of some actions holds anything, each of them has a reference, if it should have
one. -/
theorem Action.hasReference_of_optionHeld
    (h : OptionHeld (ListHeld (MappingHeld Action.Fits)) actions value)
    (hagain : OptionHeld (ListHeld (MappingHeld Action.Fits)) again
      ((actions.map (.ofList Action.toValue)).getD .null)) :
    ∀ action ∈ actions.getD [], action.HasReference := by
  cases actions with
  | none => exact fun _ hmem => absurd hmem List.not_mem_nil
  | some actions =>
    cases again with
    | none => exact absurd hagain nofun
    | some again =>
      intro action hmem
      obtain ⟨_, hfits⟩ := h.2.exists_fits hmem
      obtain ⟨_, -, hheld⟩ := hagain.2.exists_of_mem_ofList hmem
      exact Action.hasReference_of_held hfits hheld

/-- The value of allowed actions that have references, if they should have them, holds allowed
actions. -/
theorem Action.exists_optionHeld
    (h : OptionHeld (ListHeld (MappingHeld Action.Fits)) actions value)
    (hallowed : ∀ action ∈ actions.getD [], Action.MayBe allowed action.type)
    (hreferences : ∀ action ∈ actions.getD [], action.HasReference) :
    ∃ again, OptionHeld (ListHeld (MappingHeld Action.Fits)) again
        ((actions.map (.ofList Action.toValue)).getD .null) ∧
      ∀ action ∈ again.getD [], Action.MayBe allowed action.type := by
  cases actions with
  | none => exact ⟨none, rfl, fun _ hmem => absurd hmem List.not_mem_nil⟩
  | some actions =>
    have hactions : ∀ action ∈ actions, ∃ again, MappingHeld Action.Fits again action.toValue ∧
        Action.MayBe allowed again.type := by
      intro action hmem
      obtain ⟨_, hfits⟩ := h.2.exists_fits hmem
      obtain ⟨again, hheld, htype⟩ := (hreferences action hmem).exists_held hfits
      exact ⟨again, hheld, htype ▸ hallowed action hmem⟩
    obtain ⟨again, hheld, hrel⟩ := exists_listHeld_ofList hactions
    exact ⟨some again, ⟨rfl, hheld⟩, forall_mem_of_forall₂ hrel fun _ _ h => h⟩

/-- With other values of reusable parameters, the value of a parameter holds one with the same
location. -/
theorem Parameter.exists_held_toValue {parameter : Parameter}
    (h : Parameter.Fits components parameter entries) (hothers : KeepsReusable components others) :
    ∃ again, MappingHeld (Parameter.Fits others) again parameter.toValue ∧
      again.location = parameter.location := by
  cases h with
  | own href hname => exact ⟨_, Parameter.held_toValue (.own href hname), rfl⟩
  | reusable href htarget hinherits =>
    obtain ⟨⟨key, rfl, hfound⟩, hname⟩ := htarget
    obtain ⟨other, hother, hsame, hlocation⟩ := hothers key _ hfound
    have hname' : Entries.HasText other "name" _ :=
      ⟨by rw [Entries.Given, hsame]; exact hname.given, by rw [hsame]; exact hname.text_eq⟩
    have hagain := Parameter.Fits.reusable href ⟨⟨key, rfl, hother⟩, hname'⟩ rfl
    have hheld := Parameter.held_toValue hagain
    rw [Parameter.toValue_of_reference hagain href] at hheld
    rw [Parameter.toValue_of_reference (.reusable href ⟨⟨key, rfl, hfound⟩, hname⟩ hinherits) href]
    exact ⟨_, hheld, hlocation⟩

/-! ## Steps, workflows and documents -/

/-- If the value of a step holds anything, each of its actions has a reference, if it should have
one. -/
theorem Step.hasReference_of_held {step again : Step}
    (h : Step.Fits (Parameter.Fits components) step entries)
    (hagain : MappingHeld (Step.Fits (Parameter.Fits others)) again step.toValue) :
    ∀ action ∈ step.actions, action.HasReference := by
  obtain ⟨hsuccess, hfailure⟩ := Step.held_actions h hagain
  rw [Step.actions, List.forall_mem_append]
  exact ⟨Action.hasReference_of_optionHeld h.onSuccess hsuccess,
    Action.hasReference_of_optionHeld h.onFailure hfailure⟩

/-- With other values of reusable parameters, the value of a step holds one with the same id that
satisfies the rules. -/
theorem Step.Valid.exists_held_toValue {step : Step} (hvalid : step.Valid)
    (h : Step.Fits (Parameter.Fits components) step entries)
    (hothers : KeepsReusable components others)
    (hreferences : ∀ action ∈ step.actions, action.HasReference) :
    ∃ again, MappingHeld (Step.Fits (Parameter.Fits others)) again step.toValue ∧
      again.id = step.id ∧ again.Valid := by
  rw [Step.actions, List.forall_mem_append] at hreferences
  obtain ⟨onSuccess, hsuccess, hsuccessTypes⟩ :=
    Action.exists_optionHeld h.onSuccess hvalid.onSuccess hreferences.1
  obtain ⟨onFailure, hfailure, hfailureTypes⟩ :=
    Action.exists_optionHeld h.onFailure hvalid.onFailure hreferences.2
  have hparameters : ∀ parameter ∈ step.parameters, ∃ again,
      MappingHeld (Parameter.Fits others) again parameter.toValue ∧ again.location.IsLocation := by
    intro parameter hmem
    obtain ⟨_, hfits⟩ := h.parameters.exists_fits hmem
    obtain ⟨again, hheld, hlocation⟩ := Parameter.exists_held_toValue hfits hothers
    exact ⟨again, hheld, hlocation ▸ hvalid.parameters parameter hmem⟩
  obtain ⟨parameters, hheld, hlocations⟩ := exists_listHeld_ofItems? hparameters
  exact ⟨{ step with parameters, onSuccess, onFailure },
    Step.held_toValue_with h hheld hsuccess hfailure, rfl, hvalid.target,
    forall_mem_of_forall₂ hlocations fun _ _ h => h, hsuccessTypes, hfailureTypes⟩

/-- With other values of reusable parameters, the value of a workflow holds one with the same id
that satisfies the rules. -/
theorem Workflow.Valid.exists_held_toValue {workflow : Workflow} (hvalid : workflow.Valid)
    (h : Workflow.Fits (Parameter.Fits components) workflow entries)
    (hothers : KeepsReusable components others)
    (hreferences : ∀ step ∈ workflow.steps, ∀ action ∈ step.actions, action.HasReference) :
    ∃ again, MappingHeld (Workflow.Fits (Parameter.Fits others)) again workflow.toValue ∧
      again.id = workflow.id ∧ again.Valid := by
  have hsteps : ∀ step ∈ workflow.steps, ∃ again,
      MappingHeld (Step.Fits (Parameter.Fits others)) again step.toValue ∧
        again.id = step.id ∧ again.Valid := by
    intro step hmem
    obtain ⟨_, hfits⟩ := h.steps.exists_fits hmem
    exact (hvalid.steps step hmem).exists_held_toValue hfits hothers (hreferences step hmem)
  obtain ⟨steps, hheld, hrel⟩ := exists_listHeld_ofList hsteps
  exact ⟨{ workflow with steps }, Workflow.held_toValue_with h hheld, rfl,
    map_id_eq (hrel.imp fun _ _ => And.left) ▸ hvalid.nodup,
    forall_mem_of_forall₂ hrel fun _ _ => And.right⟩

/-- A document that is written, and whose reusable parameters then get other values, can be read
again exactly if each of its actions with the type of a reference has one. -/
theorem Document.exists_read_toValue_iff {document : Document} (hheld : document.HeldBy value)
    (hvalid : document.Valid) (hothers : KeepsReusable document.components others) :
    (∃ reread, Document.read { document with components := others : Document }.toValue =
      .ok reread) ↔ document.HasReferences := by
  obtain ⟨entries, -, h⟩ := hheld
  simp only [Document.read_eq_ok_iff]
  constructor
  · rintro ⟨again, hagain, -⟩ workflow hworkflow
    obtain ⟨_, hworkflowFits⟩ := h.workflows.exists_fits hworkflow
    have hworkflows := (Document.held_workflows h hagain).2
    obtain ⟨_, -, hworkflowHeld⟩ := hworkflows.exists_of_mem_ofList hworkflow
    intro step hstep
    obtain ⟨_, hstepFits⟩ := hworkflowFits.steps.exists_fits hstep
    obtain ⟨_, -, hstepHeld⟩ :=
      (Workflow.held_steps hworkflowFits hworkflowHeld).exists_of_mem_ofList hstep
    exact Step.hasReference_of_held hstepFits hstepHeld
  · intro hreferences
    have hworkflows : ∀ workflow ∈ document.workflows, ∃ again,
        MappingHeld (Workflow.Fits (Parameter.Fits others)) again workflow.toValue ∧
          again.id = workflow.id ∧ again.Valid := by
      intro workflow hmem
      obtain ⟨_, hfits⟩ := h.workflows.exists_fits hmem
      exact (hvalid.workflows workflow hmem).exists_held_toValue hfits hothers
        (hreferences workflow hmem)
    obtain ⟨workflows, hworkflowsHeld, hrel⟩ := exists_listHeld_ofList hworkflows
    exact ⟨_, Document.held_toValue_with h hworkflowsHeld, hvalid.version,
      map_id_eq (hrel.imp fun _ _ => And.left) ▸ hvalid.nodup,
      forall_mem_of_forall₂ hrel fun _ _ => And.right⟩

end FlowCheck
