import FlowCheck.Document.References
import FlowCheck.Proofs.Distinct

/-!
# The references of a step

Two scans collect the expressions of a step. The first looks at the request and groups what it
finds by the step that is referred to; the groups stand in the order of the first references to
their steps (`dependencies_eq`). The second scan looks also at the replacements and the conditions
and drops repetitions. Whatever the first finds, the second finds (`exists_mem_expressions`).
-/

namespace FlowCheck

namespace Expression

/-- The expressions inside the items of a list are those inside one of them. -/
theorem mem_collectItems {e : Expression} {items : List Value} :
    e ∈ collectItems items ↔ ∃ item ∈ items, e ∈ collect item := by
  induction items with
  | nil => simp [collectItems]
  | cons item rest ih => simp [collectItems, ih]

mutual

/-- An expression inside a value is inside a text. -/
theorem exists_mem_embedded {e : Expression} :
    (value : Value) → e ∈ collect value → ∃ text, e ∈ embedded text
  | .str text, h => ⟨text, h⟩
  | .list items, h => exists_mem_embedded_items items h
  | .map entries, h => exists_mem_embedded_entries entries h

/-- An expression inside the items of a list is inside a text. -/
theorem exists_mem_embedded_items {e : Expression} :
    (items : List Value) → e ∈ collectItems items → ∃ text, e ∈ embedded text
  | item :: rest, h =>
    (List.mem_append.1 h).elim (exists_mem_embedded item) (exists_mem_embedded_items rest)

/-- An expression inside the values of a mapping is inside a text. -/
theorem exists_mem_embedded_entries {e : Expression} :
    (entries : List (Value × Value)) → e ∈ collectEntries entries → ∃ text, e ∈ embedded text
  | (_, value) :: rest, h =>
    (List.mem_append.1 h).elim (exists_mem_embedded value) (exists_mem_embedded_entries rest)

end

/-- Distinct expressions refer to everything that is referred to, once and in the same order. -/
theorem map_target_distinct (found : List Expression) :
    (distinct found).map (·.target) = (found.map (·.target)).eraseDups :=
  map_firstsBy (fun e : Expression => e.target) found

/-- Among distinct expressions everything that is referred to is still referred to. -/
theorem exists_mem_distinct {target : Reference} {found : List Expression} :
    (∃ e ∈ distinct found, e.target = target) ↔ ∃ e ∈ found, e.target = target := by
  rw [← List.mem_map, map_target_distinct, List.mem_eraseDups, List.mem_map]

end Expression

/-- Texts under names, grouped by name: the names in the order of their first occurrences, each with
its texts in order. -/
def groupsOf (texts : List (String × String)) : Groups :=
  (texts.map Prod.fst).eraseDups.map fun name =>
    (name, (texts.filter (·.1 == name)).map Prod.snd)

/-- A text is added to the group of its name, which comes last if it is new. -/
theorem addToGroup_map {names : List String} (hnodup : names.Nodup) (name text : String)
    (group : String → List String) :
    addToGroup name text (names.map fun other => (other, group other)) =
      if name ∈ names then
        names.map fun other => (other, if other = name then group other ++ [text] else group other)
      else (names.map fun other => (other, group other)) ++ [(name, [text])] := by
  induction names with
  | nil => rfl
  | cons first rest ih =>
    rw [List.nodup_cons] at hnodup
    rw [List.map_cons, addToGroup]
    by_cases hfirst : first = name
    · -- the name does not come again after the first group
      subst hfirst
      have hrest : (rest.map fun other =>
            (other, if other = first then group other ++ [text] else group other)) =
          rest.map fun other => (other, group other) :=
        List.map_congr_left fun other hother => by
          have hne : other ≠ first := ne_of_mem_of_not_mem hother hnodup.1
          rw [if_neg hne]
      simp [hrest]
    · rw [ih hnodup.2]
      by_cases hrest : name ∈ rest <;> simp [hfirst, Ne.symm hfirst, hrest]

/-- A text that is added to the groups of others is one more text under its name. -/
theorem addToGroup_groupsOf (texts : List (String × String)) (name text : String) :
    addToGroup name text (groupsOf texts) = groupsOf (texts ++ [(name, text)]) := by
  have hfilter (other : String) : (texts ++ [(name, text)]).filter (·.1 == other) =
      texts.filter (·.1 == other) ++ if name = other then [(name, text)] else [] := by
    simp [List.filter_cons]
  rw [groupsOf, addToGroup_map (nodup_eraseDups _), groupsOf, List.map_append, List.map_singleton,
    eraseDups_concat]
  simp only [List.mem_eraseDups, hfilter, List.map_append]
  by_cases hname : name ∈ texts.map Prod.fst
  · rw [if_pos hname, if_pos hname]
    refine List.map_congr_left fun other _ => ?_
    by_cases heq : other = name <;> simp [heq, Ne.symm]
  · rw [if_neg hname, if_neg hname, List.map_append, List.map_singleton]
    congr 1
    · refine List.map_congr_left fun other hother => ?_
      have hne : name ≠ other := fun heq => hname (heq ▸ List.mem_eraseDups.1 hother)
      simp [hne]
    · -- no text was there under the new name
      have hnone : texts.filter (·.1 == name) = [] := by
        refine List.filter_eq_nil_iff.2 fun entry hentry => ?_
        rw [beq_iff_eq]
        exact fun heq => hname (heq ▸ List.mem_map_of_mem hentry)
      simp [hnone]

namespace Step

variable {step : Step} {id : String}

/-- The references of the request to outputs of steps, in order: the step and the text of each. -/
def references (step : Step) : List (String × String) :=
  (Expression.collectItems step.requestValues).filterMap fun e => e.target.step?.map (·, e.raw)

/-- The steps to whose outputs the request refers, each once and in the order of the first
references. -/
def neededSteps (step : Step) : List String :=
  (step.references.map Prod.fst).eraseDups

/-- The texts by which the request refers to outputs of a step, in order. -/
def textsFor (step : Step) (id : String) : List String :=
  (step.references.filter (·.1 == id)).map Prod.snd

/-- The texts for a step are those of the references to it. -/
theorem mem_textsFor {text : String} : text ∈ step.textsFor id ↔ (id, text) ∈ step.references := by
  simp [textsFor]

/-- The steps that a request needs are those that it refers to, each with the texts by which it does
so. -/
theorem dependencies_eq (step : Step) :
    step.dependencies = step.neededSteps.map fun id => (id, step.textsFor id) := by
  change (Expression.collectItems step.requestValues).foldl addReference [] =
    groupsOf step.references
  rw [references]
  -- over the fold, the groups are those of the references so far
  induction Expression.collectItems step.requestValues using List.reverseRecOn with
  | nil => rfl
  | append_singleton found e ih =>
    rw [List.foldl_append, ih, List.foldl_cons, List.foldl_nil, addReference,
      List.filterMap_append]
    cases htarget : e.target <;> simp [htarget, Reference.step?, addToGroup_groupsOf]

/-- The names of the groups are the steps that are needed. -/
theorem map_fst_dependencies (step : Step) :
    step.dependencies.map Prod.fst = step.neededSteps := by
  simp [dependencies_eq, Function.comp_def]

/-- The steps that a request needs are those that its expressions refer to. -/
theorem mem_dependencies :
    id ∈ step.dependencies.map Prod.fst ↔
      ∃ e ∈ Expression.collectItems step.requestValues, e.target.step? = some id := by
  rw [map_fst_dependencies, neededSteps, List.mem_eraseDups, references, List.map_filterMap]
  simp [List.mem_filterMap]

/-- The checks look at the whole request. -/
theorem requestValues_subset_checkedValues (step : Step) :
    step.requestValues ⊆ step.checkedValues := by
  intro value hvalue
  rcases List.mem_append.1 hvalue with hparameter | hbody
  · exact List.mem_append_left _ (List.mem_append_left _ hparameter)
  · refine List.mem_append_left _ (List.mem_append_right _ ?_)
    cases hrequest : step.requestBody with
    | none => simp [hrequest] at hbody
    | some body => simp_all

/-- A step that the request needs is referred to by one of the distinct expressions. -/
theorem exists_mem_expressions (h : id ∈ step.dependencies.map Prod.fst) :
    ∃ e ∈ step.expressions, e.target.step? = some id := by
  obtain ⟨e, he, htarget⟩ := mem_dependencies.1 h
  obtain ⟨value, hvalue, hmem⟩ := Expression.mem_collectItems.1 he
  have hchecked : e ∈ Expression.collectItems step.checkedValues :=
    Expression.mem_collectItems.2 ⟨value, step.requestValues_subset_checkedValues hvalue, hmem⟩
  obtain ⟨kept, hkept, heq⟩ := Expression.exists_mem_distinct.2 ⟨e, hchecked, rfl⟩
  exact ⟨kept, hkept, heq ▸ htarget⟩

end Step

end FlowCheck
