import FlowCheck.Proofs.Document.References
import FlowCheck.Proofs.Expression.Form
import Mathlib.Data.List.Basic

/-!
# Expressions inside a text

The search for expressions inside a text cuts tokens out of it: ASCII letters, digits and a few
signs after a dollar sign, without the points at the end. A text that is a reference to an output of
a step as a whole can hold other characters, and then the search does not see the reference
(`exists_mem_embedded_iff`).
-/

namespace FlowCheck

namespace Text

variable {p : Char → Bool} {text rest : List Char}

/-- Dropping at the end stops before a character that is kept. -/
theorem dropEndWhile_append (h : ∃ c ∈ rest, p c = false) :
    dropEndWhile p (text ++ rest) = text ++ dropEndWhile p rest := by
  obtain ⟨c, hc, hkeep⟩ := h
  have hne : rest.reverse.dropWhile p ≠ [] := by
    rw [ne_eq, List.dropWhile_eq_nil_iff]
    exact fun hall => by simp [hall c (List.mem_reverse.2 hc)] at hkeep
  rw [dropEndWhile, dropEndWhile, List.reverse_append, List.dropWhile_append,
    if_neg (mt List.isEmpty_iff.1 hne), List.reverse_append, List.reverse_reverse]

/-- Characters at the end that are dropped can be left out before. -/
theorem dropEndWhile_append_of_all (h : ∀ c ∈ rest, p c = true) :
    dropEndWhile p (text ++ rest) = dropEndWhile p text := by
  have hall : ∀ c ∈ rest.reverse, p c = true := fun c hc => h c (List.mem_reverse.1 hc)
  rw [dropEndWhile, dropEndWhile, List.reverse_append, List.dropWhile_append_of_pos hall]

/-- All characters are dropped at the end if each of them may be. -/
theorem dropEndWhile_eq_nil_iff : dropEndWhile p text = [] ↔ ∀ c ∈ text, p c = true := by
  simp [dropEndWhile]

/-- Dropping at the end does not make a text longer. -/
theorem length_dropEndWhile_le (p : Char → Bool) (text : List Char) :
    (dropEndWhile p text).length ≤ text.length := by
  rw [dropEndWhile, List.length_reverse, ← @List.length_reverse _ text]
  exact (List.dropWhile_sublist p).length_le

/-- What is left after dropping at the end is part of the text. -/
theorem mem_of_mem_dropEndWhile {c : Char} (h : c ∈ dropEndWhile p text) : c ∈ text :=
  List.mem_reverse.1 ((List.dropWhile_sublist p).mem (List.mem_reverse.1 h))

end Text

namespace Expression

/-- Before the first dollar sign no token starts. -/
theorem tokens_append {start : List Char} (h : '$' ∉ start) (rest : List Char) :
    tokens (start ++ rest) = tokens rest := by
  induction start with
  | nil => rfl
  | cons c start ih =>
    rw [List.mem_cons, not_or] at h
    rw [List.cons_append, tokens, if_neg (by simp [Ne.symm h.1]), ih h.2]

/-- A token starts at a dollar sign before a letter. -/
theorem tokens_dollar {c : Char} (h : isLetter c = true) (rest : List Char) :
    tokens ('$' :: c :: rest) =
      ('$' :: Text.dropEndWhile (· == '.') ((c :: rest).takeWhile isTokenChar)) ::
        tokens (c :: rest) := by
  rw [tokens, if_pos (by simp [h])]

/-- Every token is a dollar sign and token characters. -/
theorem isTokenChar_of_mem_tokens {text token : List Char} (h : token ∈ tokens text) :
    ∃ rest, token = '$' :: rest ∧ ∀ c ∈ rest, isTokenChar c = true := by
  induction text with
  | nil => cases h
  | cons c rest ih =>
    rw [tokens] at h
    split at h
    · next hstart =>
      rcases List.mem_cons.1 h with rfl | hmem
      · rw [Bool.and_eq_true, decide_eq_true_eq] at hstart
        refine ⟨_, by rw [hstart.1], fun d hd => ?_⟩
        exact List.mem_takeWhile_imp (Text.mem_of_mem_dropEndWhile hd)
      · exact ih hmem
    · exact ih h

/-- All characters of the text can stand in a token. -/
def IsTokenText (text : String) : Prop :=
  ∀ c ∈ text.toList, isTokenChar c = true

/-- What a token holds of the text is more than points. -/
def EntersToken (text : String) : Prop :=
  ∃ c ∈ text.toList.takeWhile isTokenChar, c ≠ '.'

variable {text id path : String}

/-- An expression inside a text names a step if a token has the form of a reference to it. -/
theorem exists_mem_embedded_iff_tokens :
    (∃ e ∈ embedded text, e.target.step? = some id) ↔
      ∃ token ∈ tokens text.toList, ∃ path, Reference.IsStepOutput token id path := by
  have hstep (target : Reference) :
      target.step? = some id ↔ ∃ path, target = .stepOutput id path := by
    cases target <;> simp [Reference.step?]
  simp [embedded, hstep, Reference.ofText_eq_stepOutput_iff]

/-- What stands between the dollar sign and the path of a reference to an output of a step. -/
def stepFrame (id : String) : List Char :=
  "steps.".toList ++ id.toList ++ ".outputs.".toList

/-- The parts of a text in the frame. -/
theorem stepFrame_append (id : String) (path : List Char) :
    stepFrame id ++ path = "steps.".toList ++ (id.toList ++ (".outputs.".toList ++ path)) :=
  -- the lists are given, as a search for appended ones would open the fixed texts
  (List.append_assoc ("steps.".toList ++ id.toList) ".outputs.".toList path).trans
    (List.append_assoc "steps.".toList id.toList (".outputs.".toList ++ path))

/-- A text is a reference to an output of a step if it is a path in the frame of its id. -/
theorem text_eq_stepFrame {text : List Char} (h : Reference.IsStepOutput text id path) :
    text = '$' :: (stepFrame id ++ path.toList) := by
  rw [stepFrame_append]
  exact h.text_eq

/-- The frame can stand in a token if the id can. -/
theorem isTokenChar_of_mem_stepFrame (hid : IsTokenText id) :
    ∀ c ∈ stepFrame id, isTokenChar c = true := by
  have hsteps : ∀ c ∈ "steps.".toList, isTokenChar c = true := List.all_eq_true.1 (by decide)
  have houtputs : ∀ c ∈ ".outputs.".toList, isTokenChar c = true := List.all_eq_true.1 (by decide)
  exact List.forall_mem_append.2 ⟨List.forall_mem_append.2 ⟨hsteps, hid⟩, houtputs⟩

/-- The tokens of a reference to an output of a step whose id can stand in a token. -/
theorem tokens_of_isStepOutput (h : Reference.IsStepOutput text.toList id path)
    (hid : IsTokenText id) :
    tokens text.toList =
      ('$' :: Text.dropEndWhile (· == '.')
        (stepFrame id ++ path.toList.takeWhile isTokenChar)) :: tokens path.toList := by
  have hframe := isTokenChar_of_mem_stepFrame hid
  have hdollar : '$' ∉ stepFrame id := fun hmem => absurd (hframe _ hmem) (by decide)
  rw [text_eq_stepFrame h, ← List.takeWhile_append_of_pos hframe,
    ← tokens_append hdollar path.toList]
  exact tokens_dollar (c := 's') (by decide) _

/-- A token that was cut out of a reference to an output of a step is such a reference if it holds
more of the path than points. -/
theorem exists_isStepOutput_stepFrame_iff (h : Reference.IsStepOutput text.toList id path)
    {run : List Char} :
    (∃ rest, Reference.IsStepOutput
        ('$' :: Text.dropEndWhile (· == '.') (stepFrame id ++ run)) id rest) ↔
      ∃ c ∈ run, c ≠ '.' := by
  constructor
  · rintro ⟨rest, hrest⟩
    by_contra! hpoints
    -- without a path the token is no longer than the frame
    obtain ⟨-, heq⟩ := List.cons.inj (text_eq_stepFrame hrest)
    rw [Text.dropEndWhile_append_of_all fun c hc => beq_iff_eq.2 (hpoints c hc)] at heq
    have hle := Text.length_dropEndWhile_le (· == '.') (stepFrame id)
    rw [heq, List.length_append] at hle
    have hnil : rest.toList = [] := List.length_eq_zero_iff.1 (by omega)
    exact hrest.path_ne (String.toList_eq_nil_iff.1 hnil)
  · rintro ⟨c, hc, hne⟩
    have hkeep : ∃ c ∈ run, (c == '.') = false := ⟨c, hc, beq_false_of_ne hne⟩
    obtain ⟨rest, hrest⟩ : ∃ rest : String, rest.toList = Text.dropEndWhile (· == '.') run :=
      ⟨String.ofList _, String.toList_ofList⟩
    have htoken : Text.dropEndWhile (· == '.') (stepFrame id ++ run) =
        "steps.".toList ++ (id.toList ++ (".outputs.".toList ++ rest.toList)) :=
      calc Text.dropEndWhile (· == '.') (stepFrame id ++ run)
        _ = stepFrame id ++ rest.toList := hrest ▸ Text.dropEndWhile_append hkeep
        _ = "steps.".toList ++ (id.toList ++ (".outputs.".toList ++ rest.toList)) :=
          stepFrame_append id rest.toList
    refine ⟨rest, congrArg (List.cons '$') htoken, h.id_ne, ?_, h.stepChars⟩
    rw [ne_eq, ← String.toList_eq_nil_iff, hrest, Text.dropEndWhile_eq_nil_iff]
    exact fun hall => hne (beq_iff_eq.1 (hall c hc))

/-- No token names a step whose id cannot stand in a token. -/
theorem isTokenText_of_mem_tokens {text token : List Char} (hmem : token ∈ tokens text)
    (h : Reference.IsStepOutput token id path) : IsTokenText id := by
  obtain ⟨rest, rfl, hrest⟩ := isTokenChar_of_mem_tokens hmem
  obtain ⟨-, hframe⟩ := List.cons.inj (text_eq_stepFrame h)
  intro c hc
  have hmem : c ∈ stepFrame id := List.mem_append_left _ (List.mem_append_right _ hc)
  exact hrest c (hframe ▸ List.mem_append_left _ hmem)

/-- The search inside a reference to an output of a step finds that step exactly if the id can
stand in a token and either the token holds some of the path or the path names the step again. -/
theorem exists_mem_embedded_iff (h : Reference.IsStepOutput text.toList id path) :
    (∃ e ∈ embedded text, e.target.step? = some id) ↔
      IsTokenText id ∧ (EntersToken path ∨ ∃ e ∈ embedded path, e.target.step? = some id) := by
  rw [exists_mem_embedded_iff_tokens, exists_mem_embedded_iff_tokens]
  by_cases hid : IsTokenText id
  · simp only [tokens_of_isStepOutput h hid, List.exists_mem_cons_iff,
      exists_isStepOutput_stepFrame_iff h, hid, true_and, EntersToken]
  · refine iff_of_false ?_ fun hright => hid hright.1
    rintro ⟨token, hmem, rest, htoken⟩
    exact hid (isTokenText_of_mem_tokens hmem htoken)

/-- The search inside a text that is an expression as a whole. A reference to an output of a step is
found if the id can stand in a token and the token holds some of the path, or the path names the
step again. Then both scans of a step with that value see the reference. -/
theorem search_stepOutput {raw : String} (h : ofText? text = some ⟨.stepOutput id path, raw⟩) :
    ((∃ e ∈ embedded text, e.target.step? = some id) ↔
        IsTokenText id ∧ (EntersToken path ∨ ∃ e ∈ embedded path, e.target.step? = some id)) ∧
      ∀ step : Step, .str text ∈ step.requestValues →
        (∃ e ∈ embedded text, e.target.step? = some id) →
          id ∈ step.dependencies.map Prod.fst ∧
            ∃ e ∈ step.expressions, e.target.step? = some id := by
  have htarget : Reference.ofText text.toList = .stepOutput id path := by
    rw [ofText?] at h
    split at h
    · exact congrArg Expression.target (Option.some.inj h)
    · cases h
  refine ⟨exists_mem_embedded_iff (Reference.ofText_eq_stepOutput_iff.1 htarget), ?_⟩
  rintro step hvalue ⟨e, he, hstep⟩
  have hdependency : id ∈ step.dependencies.map Prod.fst :=
    Step.mem_dependencies.2 ⟨e, mem_collectItems.2 ⟨_, hvalue, he⟩, hstep⟩
  exact ⟨hdependency, Step.exists_mem_expressions hdependency⟩

/-- A step id of ASCII letters is found. -/
theorem search_login :
    ofText? "$steps.login.outputs.token" =
        some ⟨.stepOutput "login" "token", "$steps.login.outputs.token"⟩ ∧
      ∃ e ∈ embedded "$steps.login.outputs.token", e.target.step? = some "login" := by
  have hwhole : ofText? "$steps.login.outputs.token" =
      some ⟨.stepOutput "login" "token", "$steps.login.outputs.token"⟩ := by decide
  exact ⟨hwhole, (search_stepOutput hwhole).1.2
    ⟨List.all_eq_true.1 (by decide), .inl ⟨'t', by decide, by decide⟩⟩⟩

/-- A colon ends the token inside the step id, and the step is not found. -/
theorem search_login_colon :
    ofText? "$steps.login:2.outputs.token" =
        some ⟨.stepOutput "login:2" "token", "$steps.login:2.outputs.token"⟩ ∧
      ¬∃ e ∈ embedded "$steps.login:2.outputs.token", e.target.step? = some "login:2" := by
  decide

end Expression

end FlowCheck
