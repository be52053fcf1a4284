import FlowCheck.Document.Reader
import FlowCheck.Proofs.Document.References
import FlowCheck.Proofs.Expression.Occurrence

/-!
# The two scans of a step

The graph scans the request of a step and groups the references that it finds by the text of the
step id. The checks scan the request, the replacements and the conditions, and drop what refers to
the same thing. Here both are told without a scan, by what stands where in the step: the numbers of
a part of the step come first in a place, and then those of the place in the value of that part.
What the first scan finds, the second one finds with the same text (`scans_agree`).

## Main definitions

* `Step.StandsInRequest`, `Step.StandsInChecks`: what stands in the values that the scans look at;
* `Step.NeedsAt`: a reference to an output of a step stands in the request.
-/

namespace FlowCheck

namespace Step

open Expression

/-- An expression stands in the request of a step. -/
inductive StandsInRequest (step : Step) : List ℕ → Expression → Prop
  /-- It stands in the value of a parameter. -/
  | parameter {n : ℕ} {parameter : Parameter} {way : List ℕ} {e : Expression} :
      step.parameters[n]? = some parameter → StandsAt parameter.value way e →
      StandsInRequest step (0 :: n :: way) e
  /-- It stands in the payload. -/
  | payload {body : RequestBody} {way : List ℕ} {e : Expression} :
      step.requestBody = some body → StandsAt body.payload way e →
      StandsInRequest step (1 :: 0 :: way) e

/-- An expression stands in a part of a step at which the checks look. -/
inductive StandsInChecks (step : Step) : List ℕ → Expression → Prop
  /-- It stands in the request. -/
  | request {place : List ℕ} {e : Expression} :
      step.StandsInRequest place e → StandsInChecks step place e
  /-- It stands in the replacements in the payload. -/
  | replacements {body : RequestBody} {way : List ℕ} {e : Expression} :
      step.requestBody = some body → StandsAt body.replacements way e →
      StandsInChecks step (1 :: 1 :: way) e
  /-- It stands in the context of a condition for success. -/
  | context {criteria : List Criterion} {n : ℕ} {criterion : Criterion} {way : List ℕ}
      {e : Expression} : step.criteria = some criteria → criteria[n]? = some criterion →
      StandsAt criterion.context way e → StandsInChecks step (2 :: n :: 0 :: way) e
  /-- It stands in the condition itself. -/
  | condition {criteria : List Criterion} {n : ℕ} {criterion : Criterion} {way : List ℕ}
      {e : Expression} : step.criteria = some criteria → criteria[n]? = some criterion →
      StandsAt (.str criterion.condition) way e → StandsInChecks step (2 :: n :: 1 :: way) e
  /-- It stands in the value to compare with. -/
  | compared {criteria : List Criterion} {n : ℕ} {criterion : Criterion} {way : List ℕ}
      {e : Expression} : step.criteria = some criteria → criteria[n]? = some criterion →
      StandsAt criterion.value way e → StandsInChecks step (2 :: n :: 2 :: way) e

/-- A reference to an output of the step with the id stands in the request, with its text. -/
def NeedsAt (step : Step) (id : String) (place : List ℕ) (text : String) : Prop :=
  ∃ path, step.StandsInRequest place ⟨.stepOutput id path, text⟩

/-- The parts of the request, as one value. -/
def requestTree (step : Step) : Value :=
  .list [.list (step.parameters.map (·.value)),
    .list ((step.requestBody.map fun body => [body.payload]).getD [])]

/-- The fields of a condition that the checks look at, as one value. -/
def criterionTree (criterion : Criterion) : Value :=
  .list [criterion.context, .str criterion.condition, criterion.value]

/-- The parts of a step at which the checks look, as one value. -/
def checkedTree (step : Step) : Value :=
  .list [.list (step.parameters.map (·.value)),
    .list ((step.requestBody.map fun body => [body.payload, body.replacements]).getD []),
    .list ((step.criteria.map fun criteria => criteria.map criterionTree).getD [])]

variable {step : Step} {place : List ℕ} {e : Expression} {needed path text : String}

/-! ## The values that are scanned -/

/-- The parts of the request hold the expressions of the first scan. -/
theorem collect_requestTree (step : Step) :
    collect step.requestTree = collectItems step.requestValues := by
  cases hbody : step.requestBody <;>
    simp [requestTree, requestValues, hbody, collect, collectItems, collectItems_append]

/-- The fields of conditions hold the same expressions one by one and condition by condition. -/
theorem collectItems_map_criterionTree (criteria : List Criterion) :
    collectItems (criteria.map criterionTree) =
      collectItems (criteria.flatMap fun criterion =>
        [criterion.context, .str criterion.condition, criterion.value]) := by
  induction criteria with
  | nil => rfl
  | cons criterion rest ih =>
    rw [List.map_cons, collectItems, ih, List.flatMap_cons, collectItems_append]
    rfl

/-- The parts at which the checks look hold the expressions of the second scan. -/
theorem collect_checkedTree (step : Step) :
    collect step.checkedTree = collectItems step.checkedValues := by
  cases hcriteria : step.criteria <;>
    simp [checkedTree, checkedValues, hcriteria, collect, collectItems, collectItems_append,
      collectItems_map_criterionTree]

/-- The numbers of the parts of the request are those in the places of a step. -/
theorem standsAt_requestTree :
    StandsAt step.requestTree place e ↔ step.StandsInRequest place e := by
  simp only [requestTree, standsAt_pair, standsAt_singleton, standsAt_list_map, standsAt_getD,
    Option.map_eq_some_iff, exists_exists_and_eq_and]
  constructor
  · rintro (⟨_, rfl, n, parameter, way, hparameter, rfl, hvalue⟩ |
      ⟨_, rfl, body, hbody, way, rfl, hpayload⟩)
    · exact .parameter hparameter hvalue
    · exact .payload hbody hpayload
  · rintro (⟨hparameter, hvalue⟩ | ⟨hbody, hpayload⟩)
    · exact .inl ⟨_, rfl, _, _, _, hparameter, rfl, hvalue⟩
    · exact .inr ⟨_, rfl, _, hbody, _, rfl, hpayload⟩

/-- The numbers of the parts at which the checks look are those in the places of a step. -/
theorem standsAt_checkedTree :
    StandsAt step.checkedTree place e ↔ step.StandsInChecks place e := by
  simp only [checkedTree, criterionTree, standsAt_triple, standsAt_pair, standsAt_list_map,
    standsAt_getD, Option.map_eq_some_iff, exists_exists_and_eq_and]
  constructor
  · rintro (⟨_, rfl, n, parameter, way, hparameter, rfl, hvalue⟩ |
      ⟨_, rfl, body, hbody, ⟨way, rfl, hpayload⟩ | ⟨way, rfl, hreplacements⟩⟩ |
      ⟨_, rfl, criteria, hcriteria, n, criterion, _, hcriterion, rfl, hfields⟩)
    · exact .request (.parameter hparameter hvalue)
    · exact .request (.payload hbody hpayload)
    · exact .replacements hbody hreplacements
    · obtain ⟨way, rfl, hfield⟩ | ⟨way, rfl, hfield⟩ | ⟨way, rfl, hfield⟩ := hfields
      · exact .context hcriteria hcriterion hfield
      · exact .condition hcriteria hcriterion hfield
      · exact .compared hcriteria hcriterion hfield
  · rintro ((⟨hparameter, hvalue⟩ | ⟨hbody, hpayload⟩) | ⟨hbody, hreplacements⟩ |
      ⟨hcriteria, hcriterion, hfield⟩ | ⟨hcriteria, hcriterion, hfield⟩ |
      ⟨hcriteria, hcriterion, hfield⟩)
    · exact .inl ⟨_, rfl, _, _, _, hparameter, rfl, hvalue⟩
    · exact .inr (.inl ⟨_, rfl, _, hbody, .inl ⟨_, rfl, hpayload⟩⟩)
    · exact .inr (.inl ⟨_, rfl, _, hbody, .inr ⟨_, rfl, hreplacements⟩⟩)
    · exact .inr (.inr ⟨_, rfl, _, hcriteria, _, _, _, hcriterion, rfl, .inl ⟨_, rfl, hfield⟩⟩)
    · exact .inr (.inr ⟨_, rfl, _, hcriteria, _, _, _, hcriterion, rfl,
        .inr (.inl ⟨_, rfl, hfield⟩)⟩)
    · exact .inr (.inr ⟨_, rfl, _, hcriteria, _, _, _, hcriterion, rfl,
        .inr (.inr ⟨_, rfl, hfield⟩)⟩)

/-- The first scan collects what stands in the request. -/
theorem inOrder_requestValues (step : Step) :
    InOrder step.StandsInRequest (collectItems step.requestValues) := by
  rw [← collect_requestTree]
  exact (inOrder_collect step.requestTree).congr fun _ _ => standsAt_requestTree

/-- The second scan collects what stands in the parts at which the checks look. -/
theorem inOrder_checkedValues (step : Step) :
    InOrder step.StandsInChecks (collectItems step.checkedValues) := by
  rw [← collect_checkedTree]
  exact (inOrder_collect step.checkedTree).congr fun _ _ => standsAt_checkedTree

/-! ## What the scans find -/

/-- What stands in a part of a step stands in a value. -/
theorem StandsInChecks.raw_eq {place' : List ℕ} {text' : String}
    (h : step.StandsInChecks place ⟨.stepOutput needed path, text⟩)
    (hother : step.StandsInChecks place' ⟨.stepOutput needed path, text'⟩) : text = text' :=
  (standsAt_checkedTree.2 h).raw_eq (standsAt_checkedTree.2 hother)

/-- The distinct expressions are those that stand before all others that refer to the same thing. -/
theorem inOrder_expressions (step : Step) :
    InOrder (FirstAt (·.target) step.StandsInChecks) step.expressions :=
  (inOrder_checkedValues step).firstsBy (·.target)

/-- A reference to an output is among the distinct expressions with the text with which it stands
anywhere in the step, since all references to one output have the same text. -/
theorem mem_expressions_of_standsInChecks
    (h : step.StandsInChecks place ⟨.stepOutput needed path, text⟩) :
    ⟨.stepOutput needed path, text⟩ ∈ step.expressions := by
  have hmem : ⟨.stepOutput needed path, text⟩ ∈ collectItems step.checkedValues :=
    (inOrder_checkedValues step).mem_iff.2 ⟨place, h⟩
  -- the expression that is kept for this output may be one that stands elsewhere
  obtain ⟨⟨_, kept⟩, hkept, rfl⟩ := exists_mem_distinct.2 ⟨_, hmem, rfl⟩
  obtain ⟨place', hstands, -⟩ := (inOrder_expressions step).mem_iff.1 hkept
  rwa [h.raw_eq hstands]

/-- The references of the request stand where an expression refers to an output. -/
theorem inOrder_references (step : Step) :
    InOrder (fun place reference => step.NeedsAt reference.1 place reference.2)
      step.references := by
  refine ((inOrder_requestValues step).filterMap _).congr fun place reference => ?_
  obtain ⟨id, text⟩ := reference
  constructor
  · rintro ⟨⟨target, raw⟩, hstands, hselect⟩
    cases target with
    | stepOutput other path =>
      obtain ⟨rfl, rfl⟩ := Prod.mk.inj (Option.some.inj hselect)
      exact ⟨path, hstands⟩
    | _ => cases hselect
  · rintro ⟨path, hstands⟩
    exact ⟨_, hstands, rfl⟩

/-- The texts for a step are those of the references to it, in the order in which they stand. -/
theorem inOrder_textsFor (step : Step) (needed : String) :
    InOrder (step.NeedsAt needed) (step.textsFor needed) := by
  refine (((inOrder_references step).filter (·.1 == needed)).map Prod.snd).congr
    fun place text => ?_
  constructor
  · rintro ⟨⟨other, _⟩, ⟨hneeds, heq⟩, rfl⟩
    exact beq_iff_eq.1 heq ▸ hneeds
  · exact fun hneeds => ⟨(needed, text), ⟨hneeds, beq_self_eq_true needed⟩, rfl⟩

/-- The ids in the references of the request, one for each reference. -/
theorem inOrder_map_references (step : Step) :
    InOrder (fun place needed => ∃ text, step.NeedsAt needed place text)
      (step.references.map Prod.fst) := by
  refine ((inOrder_references step).map Prod.fst).congr fun place needed => ?_
  constructor
  · rintro ⟨⟨_, text⟩, hneeds, rfl⟩
    exact ⟨text, hneeds⟩
  · rintro ⟨text, hneeds⟩
    exact ⟨(needed, text), hneeds, rfl⟩

/-- A step is needed if a reference to it stands in the request. -/
theorem mem_neededSteps :
    needed ∈ step.neededSteps ↔ ∃ place text, step.NeedsAt needed place text := by
  rw [neededSteps, List.mem_eraseDups, (inOrder_map_references step).mem_iff]

/-- A group is the id of a step that is needed, with the texts of the references to it. -/
theorem mem_dependencies_iff {texts : List String} :
    (needed, texts) ∈ step.dependencies ↔
      needed ∈ step.neededSteps ∧ InOrder (step.NeedsAt needed) texts := by
  rw [dependencies_eq, List.mem_map]
  constructor
  · rintro ⟨_, hneeded, heq⟩
    obtain ⟨rfl, rfl⟩ := Prod.mk.inj heq
    exact ⟨hneeded, inOrder_textsFor step _⟩
  · rintro ⟨hneeded, htexts⟩
    exact ⟨needed, hneeded, by rw [htexts.unique (inOrder_textsFor step needed)]⟩

/-- Both scans of a step, told by what stands where. The distinct expressions are one for each thing
to which the parameter values, the payload, the replacements and the fields of the conditions refer:
the expression at the first place at which this is referred to, in the order of these places. No two
of them refer to the same thing.

The groups are one for each step to whose outputs a parameter value or the payload refers, in the
order of the first references. The group of a step holds the texts of all references to its outputs,
in the order of their places, and each of these references is also one of the distinct expressions,
with the same text. -/
theorem scans_agree (step : Step) :
    (∀ found, found = step.expressions ↔
        InOrder (FirstAt (·.target) step.StandsInChecks) found) ∧
      step.expressions.Pairwise (fun e other => e.target ≠ other.target) ∧
      InOrder
        (FirstAt (fun needed => needed) fun place needed => ∃ text, step.NeedsAt needed place text)
        (step.dependencies.map Prod.fst) ∧
      (∀ needed, needed ∈ step.dependencies.map Prod.fst ↔
        ∃ place text, step.NeedsAt needed place text) ∧
      (∀ needed texts, (needed, texts) ∈ step.dependencies ↔
        needed ∈ step.dependencies.map Prod.fst ∧ InOrder (step.NeedsAt needed) texts) ∧
      ∀ group ∈ step.dependencies, ∀ text ∈ group.2,
        ∃ path, ⟨.stepOutput group.1 path, text⟩ ∈ step.expressions := by
  refine ⟨fun found => ⟨?_, fun h => h.unique (inOrder_expressions step)⟩, ?_, ?_,
    fun needed => ?_, fun needed texts => ?_, ?_⟩
  · rintro rfl
    exact inOrder_expressions step
  · refine (List.pairwise_map (f := fun e : Expression => e.target)).1 ?_
    rw [expressions, map_target_distinct]
    exact nodup_eraseDups _
  · rw [map_fst_dependencies]
    exact (inOrder_map_references step).eraseDups
  · rw [map_fst_dependencies]
    exact mem_neededSteps
  · rw [map_fst_dependencies]
    exact mem_dependencies_iff
  · rintro ⟨needed, texts⟩ hgroup text htext
    obtain ⟨place, path, hstands⟩ := (mem_dependencies_iff.1 hgroup).2.mem_iff.1 htext
    exact ⟨path, mem_expressions_of_standsInChecks (.request hstands)⟩

/-- A step refers to two outputs of a login, to one of them in a parameter and again inside a list
in the payload. The group of the login holds all three texts, and each is the text of one of the
distinct expressions. -/
theorem scans_agree_profile :
    let token := "$steps.login.outputs.token"
    let user := "$steps.login.outputs.user"
    let value : Value := .map [(.str "stepId", .str "profile"),
      (.str "parameters", .list [.map [(.str "name", .str "token"), (.str "in", .str "query"),
        (.str "value", .str token)]]),
      (.str "requestBody", .map [(.str "payload", .map [(.str "ids",
        .list [.str user, .str token])])])]
    ∃ step, Step.ofValue value "steps[0]" = .ok step ∧
      ("login", [token, user, token]) ∈ step.dependencies ∧
      ∀ text ∈ [token, user, token],
        ∃ path, (⟨.stepOutput "login" path, text⟩ : Expression) ∈ step.expressions := by
  intro token user value
  have hread : Step.ofValue value "steps[0]" = .ok _ := rfl
  refine ⟨_, hread, ?_, (scans_agree _).2.2.2.2.2 ("login", [token, user, token]) ?_⟩ <;>
    decide +kernel

end Step

end FlowCheck
