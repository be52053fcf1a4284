import FlowCheck.Document.Rules
import FlowCheck.Proofs.Value.Display

/-!
# How reading a document ends

Reading a workflow document looks entries up only in mappings, so that all it can stop at is an
integer with too many digits that is to become a text. `Ends` lists the ways in which a part of the
reading may end, with what then holds of the part that was read, and is carried from the fields to
the whole (`Document.ends_read`).
-/

namespace FlowCheck

/-- How reading may end, where integers may be long only if `long` holds. -/
inductive Ends {α : Type} (long : Prop) (Q : α → Prop) : Except LoadError α → Prop
  /-- Something is read for which `Q` holds. -/
  | value {x : α} : Q x → Ends long Q (.ok x)
  /-- The document is refused. -/
  | refusal (reason : Rejection) : Ends long Q (LoadError.refuse reason)
  /-- An integer has too many digits. -/
  | tooLong : long → Ends long Q (.error (.fault .numberTooLong))

/-- The integers of the value are short, unless they may be long. -/
def Value.ShortUnless (long : Prop) (value : Value) : Prop :=
  long ∨ value.ShortInts

variable {long : Prop} {α β : Type}

namespace Value.ShortUnless

/-- What stands under a key of a mapping is as short as the mapping. -/
theorem get {entries : Entries} (h : (Value.map entries).ShortUnless long) (key : String) :
    (Entries.get entries key).ShortUnless long :=
  h.imp_right fun h => shortInts_get h key

/-- The items of a list are as short as the list. -/
theorem item {items : List Value} (h : (Value.list items).ShortUnless long) :
    ∀ item ∈ items, item.ShortUnless long := by
  intro item hmem
  exact h.imp_right fun h => shortInts_list_iff.1 h item hmem

end Value.ShortUnless

/-! ## Parts that follow one another -/

namespace Ends

variable {Q : α → Prop} {R : β → Prop}

/-- What follows a part ends as it does after something for which the part's property holds. -/
theorem bind {x : Except LoadError α} {f : α → Except LoadError β} (h : Ends long Q x)
    (hf : ∀ a, Q a → Ends long R (f a)) : Ends long R (x >>= f) := by
  cases h with
  | value ha => exact hf _ ha
  | refusal reason => exact .refusal reason
  | tooLong h => exact .tooLong h

/-- A function of what is read does not change how reading ends. -/
theorem map {x : Except LoadError α} {f : α → β} (h : Ends long Q x) (hf : ∀ a, Q a → R (f a)) :
    Ends long R (x.map f) := by
  cases h with
  | value ha => exact .value (hf _ ha)
  | refusal reason => exact .refusal reason
  | tooLong h => exact .tooLong h

/-- The items of a list are handled one after the other. -/
theorem mapM {f : α → Except LoadError β} {xs : List α} (h : ∀ x ∈ xs, Ends long R (f x)) :
    Ends long (fun ys => ∀ y ∈ ys, R y) (xs.mapM f) := by
  induction xs with
  | nil => exact .value (by simp)
  | cons x xs ih =>
    rw [List.mapM_cons]
    refine (h x List.mem_cons_self).bind fun y hy => ?_
    refine (ih fun x hx => h x (List.mem_cons_of_mem _ hx)).bind fun ys hys => ?_
    exact .value (List.forall_mem_cons.2 ⟨hy, hys⟩)

/-- Checks of the items of a list follow one another. -/
theorem forM {f : α → Except LoadError Unit} {xs : List α}
    (h : ∀ x ∈ xs, Ends long (fun _ => True) (f x)) : Ends long (fun _ => True) (xs.forM f) := by
  induction xs with
  | nil => exact .value trivial
  | cons x xs ih =>
    change Ends long _ (f x >>= fun _ => xs.forM f)
    refine (h x List.mem_cons_self).bind fun _ _ => ?_
    exact ih fun x hx => h x (List.mem_cons_of_mem _ hx)

end Ends

/-! ## Fields, mappings and lists -/

/-- A value becomes a text, unless one of its integers is long. -/
theorem ends_textOf {value : Value} (h : value.ShortUnless long) :
    Ends long (fun _ => True) (textOf value) := by
  cases htext : value.text with
  | ok text =>
    rw [textOf, htext]
    exact .value trivial
  | error fault =>
    obtain rfl := Value.text_eq_error htext
    rw [textOf, htext]
    -- a value with short integers has a text
    refine .tooLong (h.resolve_right fun hshort => ?_)
    obtain ⟨text, hok⟩ := Value.exists_text hshort
    rw [htext] at hok
    cases hok

section Entries

variable {entries : Entries} (h : (Value.map entries).ShortUnless long) (field place : String)
include h

/-- A required field is there, or the document is refused. -/
theorem ends_required : Ends long (·.ShortUnless long) (required entries field place) := by
  rw [required]
  split
  · exact .refusal _
  · exact .value (h.get field)

/-- A required field becomes a text. -/
theorem ends_requiredText : Ends long (fun _ => True) (requiredText entries field place) :=
  (ends_required h field place).bind fun _ hvalue => ends_textOf hvalue

end Entries

/-- The way a reader ends, at any place, on a value that is short enough. -/
abbrev ReaderEnds (long : Prop) (Q : α → Prop) (read : Value → String → Except LoadError α) :
    Prop :=
  ∀ value place, value.ShortUnless long → Ends long Q (read value place)

/-- A value is a mapping, or the document is refused. -/
theorem readerEnds_mappingAt :
    ReaderEnds long (fun entries => (Value.map entries).ShortUnless long) mappingAt := by
  intro value place h
  cases value with
  | map entries => exact .value h
  | _ => exact .refusal _

/-- A value is a list or null, or the document is refused. -/
theorem readerEnds_listAt :
    ReaderEnds long (fun items => ∀ item ∈ items, item.ShortUnless long) listAt := by
  intro value place h
  cases value with
  | null => exact .value (by simp)
  | list items => exact .value h.item
  | _ => exact .refusal _

variable {Q : α → Prop} {read : Value → String → Except LoadError α}

/-- Reading a list ends as reading its items does. -/
theorem ReaderEnds.list (h : ReaderEnds long Q read) :
    ReaderEnds long (fun xs => ∀ x ∈ xs, Q x) (readList read) := by
  intro value place hvalue
  -- the places differ from item to item, but the items end in the same ways at all places
  have hitems (items : List Value) (hshort : ∀ item ∈ items, item.ShortUnless long) (index : ℕ) :
      Ends long (fun xs => ∀ x ∈ xs, Q x) (readItems read place index items) := by
    induction items generalizing index with
    | nil => exact .value (by simp)
    | cons item rest ih =>
      rw [List.forall_mem_cons] at hshort
      refine (h item _ hshort.1).bind fun x hx => ?_
      refine (ih hshort.2 (index + 1)).bind fun xs hxs => ?_
      exact .value (List.forall_mem_cons.2 ⟨hx, hxs⟩)
  exact (readerEnds_listAt value place hvalue).bind fun items hshort => hitems items hshort 0

/-- Reading a value that may be null ends as reading the value does. -/
theorem ReaderEnds.optional (h : ReaderEnds long Q read) :
    ReaderEnds long (fun _ => True) (readOptional read) := by
  intro value place hvalue
  rw [readOptional]
  split
  · exact .value trivial
  · exact (h value place hvalue).map fun _ _ => trivial

/-! ## The parts of a document -/

/-- Reading a parameter. -/
theorem Parameter.readerEnds :
    ReaderEnds long (fun parameter => parameter.location.ShortUnless long) Parameter.ofValue := by
  intro value place h
  refine (readerEnds_mappingAt value place h).bind fun entries hentries => ?_
  dsimp only
  split
  · refine (ends_requiredText hentries _ _).bind fun _ _ => ?_
    exact .value (hentries.get "in")
  · refine (ends_textOf (hentries.get "reference")).bind fun _ _ => ?_
    exact .value (.inr trivial)

/-- Reading a request body. -/
theorem RequestBody.readerEnds : ReaderEnds long (fun _ => True) RequestBody.ofValue := by
  intro value place h
  exact (readerEnds_mappingAt value place h).bind fun entries _ => .value trivial

/-- Reading a condition for success. -/
theorem Criterion.readerEnds : ReaderEnds long (fun _ => True) Criterion.ofValue := by
  intro value place h
  refine (readerEnds_mappingAt value place h).bind fun entries hentries => ?_
  exact (ends_requiredText hentries _ _).bind fun _ _ => .value trivial

/-- Reading an action. -/
theorem Action.readerEnds : ReaderEnds long (fun _ => True) Action.ofValue := by
  intro value place h
  refine (readerEnds_mappingAt value place h).bind fun entries hentries => ?_
  split
  next reference hreference _ =>
    -- the text is made of the entry itself, which is what stands under the key
    have hget : Entries.get entries "reference" = reference := by
      rw [Entries.get, hreference, Option.getD_some]
    exact (ends_textOf (hget ▸ hentries.get "reference")).bind fun _ _ => .value trivial
  next =>
    refine (ends_requiredText hentries _ _).bind fun _ _ => ?_
    exact (ends_requiredText hentries _ _).bind fun _ _ => .value trivial

/-- The locations of the parameters of a step are short, unless they may be long. -/
def Step.LocationsShort (long : Prop) (step : Step) : Prop :=
  ∀ parameter ∈ step.parameters, parameter.location.ShortUnless long

/-- Reading a step. -/
theorem Step.readerEnds : ReaderEnds long (Step.LocationsShort long) Step.ofValue := by
  intro value place h
  refine (readerEnds_mappingAt value place h).bind fun entries hentries => ?_
  refine (ends_requiredText hentries _ _).bind fun id _ => ?_
  refine (readerEnds_mappingAt.optional _ _ (hentries.get "outputs")).bind fun _ _ => ?_
  refine (Parameter.readerEnds.list _ _ (hentries.get "parameters")).bind
    fun parameters hparameters => ?_
  refine (RequestBody.readerEnds.optional _ _ (hentries.get "requestBody")).bind fun _ _ => ?_
  refine (Criterion.readerEnds.list.optional _ _ (hentries.get "successCriteria")).bind
    fun _ _ => ?_
  refine (Action.readerEnds.list.optional _ _ (hentries.get "onSuccess")).bind fun _ _ => ?_
  refine (Action.readerEnds.list.optional _ _ (hentries.get "onFailure")).bind fun _ _ => ?_
  exact .value hparameters

/-- The locations of all parameters of a workflow are short, unless they may be long. -/
def Workflow.LocationsShort (long : Prop) (workflow : Workflow) : Prop :=
  ∀ step ∈ workflow.steps, step.LocationsShort long

/-- Reading a workflow. -/
theorem Workflow.readerEnds : ReaderEnds long (Workflow.LocationsShort long) Workflow.ofValue := by
  intro value place h
  refine (readerEnds_mappingAt value place h).bind fun entries hentries => ?_
  refine (ends_requiredText hentries _ _).bind fun id _ => ?_
  refine (readerEnds_mappingAt.optional _ _ (hentries.get "outputs")).bind fun _ _ => ?_
  refine (ends_required hentries "steps" _).bind fun rawSteps hrawSteps => ?_
  refine (Step.readerEnds.list rawSteps _ hrawSteps).bind fun steps hsteps => ?_
  refine (Criterion.readerEnds.list.optional _ _ (hentries.get "successCriteria")).bind
    fun _ _ => ?_
  exact .value hsteps

/-! ## Reusable parameters -/

/-- A reusable parameter is as short as the components. -/
theorem shortUnless_reusable {components : Value} (h : components.ShortUnless long)
    {name : String} {target : Entries} (htarget : reusable? components name = some target) :
    (Value.map target).ShortUnless long := by
  -- the parameter stands two levels down
  have hunder {value found : Value} {key : String} (hvalue : value.ShortUnless long)
      (hfound : mappingUnder? value key = some found) : found.ShortUnless long := by
    cases value with
    | map entries => exact Option.some.inj hfound ▸ hvalue.get key
    | _ => cases hfound
  rw [reusable?] at htarget
  split at htarget
  next entries hfound =>
    obtain ⟨parameters, hparameters, hname⟩ := Option.bind_eq_some_iff.1 hfound
    exact Option.some.inj htarget ▸ hunder (hunder h hparameters) hname
  next => cases htarget

section Resolve

variable {components : Value} (hcomponents : components.ShortUnless long)
include hcomponents

/-- Following the reference of a parameter. -/
theorem Parameter.ends_resolve {parameter : Parameter} {place : String}
    (h : parameter.location.ShortUnless long) :
    Ends long (fun parameter => parameter.location.ShortUnless long)
      (parameter.resolve components place) := by
  rw [Parameter.resolve]
  split
  · exact .value h
  split
  · exact .refusal _
  split
  · exact .refusal _
  next target htarget =>
    have hshort := shortUnless_reusable hcomponents htarget
    exact (ends_requiredText hshort _ _).bind fun _ _ => .value (hshort.get "in")

/-- Following the references of a step. -/
theorem Step.ends_resolve {step : Step} {workflow : String} (h : step.LocationsShort long) :
    Ends long (Step.LocationsShort long) (step.resolve components workflow) := by
  refine (Ends.mapM fun parameter hmem => ?_).bind fun parameters hparameters => .value hparameters
  exact Parameter.ends_resolve hcomponents (h parameter hmem)

/-- Following the references of a workflow. -/
theorem Workflow.ends_resolve {workflow : Workflow} (h : workflow.LocationsShort long) :
    Ends long (Workflow.LocationsShort long) (workflow.resolve components) := by
  refine (Ends.mapM fun step hmem => ?_).bind fun steps hsteps => .value hsteps
  exact Step.ends_resolve hcomponents (h step hmem)

end Resolve

/-! ## The rules -/

end FlowCheck
