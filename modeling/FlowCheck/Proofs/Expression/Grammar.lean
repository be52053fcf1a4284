import FlowCheck.Proofs.Expression.Form

/-!
# The grammar of expressions

Every known reference has a form that its text is written in. No text has two of these forms, and a
text that starts with a dollar sign and has none of them is an unknown expression
(`ofText?_grammar`). The beginnings of the forms tell them apart, so that the readers can be tried
one after the other.
-/

namespace FlowCheck

namespace Reference

/-- The text is written in the form of a reference to the target. Unknown expressions have no form
of their own. -/
def HasForm (text : String) : Reference → Prop
  | .statusCode => text = "$statusCode"
  | .input path => text = "$inputs." ++ path ∧ path ≠ ""
  | .stepOutput id path => IsStepOutput text.toList id path
  | .responseBody path =>
    (text = "$response.body." ++ path ∧ path ≠ "") ∨
      (text = "$response.body" ++ path ∧ path.toList.head? = some '#') ∨
        path = "" ∧ (text = "$response.body" ∨ text = "$response.body\n")
  | .responseHeader name => text = "$response.header." ++ name ∧ name ≠ ""
  | .unknown _ => False

variable {text path : String} {target : Reference}

/-- What follows a fixed beginning, as an equation of texts. -/
theorem tail?_toList_eq_some_iff {start : String} :
    tail? start text.toList = some path ↔ text = start ++ path ∧ path ≠ "" := by
  rw [tail?_eq_some_iff, ← String.toList_append, String.toList_inj]

/-- The form of a reference to the response body, by what follows the fixed beginning. -/
theorem hasForm_responseBody_iff :
    HasForm text (.responseBody path) ↔
      ∃ rest, text.toList = "$response.body".toList ++ rest ∧
        ((rest = '.' :: path.toList ∧ path ≠ "") ∨
          (rest = path.toList ∧ path.toList.head? = some '#') ∨
            path = "" ∧ (rest = [] ∨ rest = ['\n'])) := by
  have hpath : text = "$response.body." ++ path ↔
      text.toList = "$response.body".toList ++ '.' :: path.toList := by
    have hpoint : "$response.body.".toList = "$response.body".toList ++ ['.'] := by decide
    rw [← String.toList_inj, String.toList_append, hpoint, List.append_assoc, List.singleton_append]
  have hpointer : text = "$response.body" ++ path ↔
      text.toList = "$response.body".toList ++ path.toList := by
    rw [← String.toList_inj, String.toList_append]
  have hbare : text = "$response.body" ↔ text.toList = "$response.body".toList ++ [] := by
    rw [← String.toList_inj, List.append_nil]
  have hline : text = "$response.body\n" ↔ text.toList = "$response.body".toList ++ ['\n'] := by
    rw [← String.toList_inj]
    rfl
  rw [HasForm, hpath, hpointer, hbare, hline]
  constructor
  · rintro (⟨htext, hne⟩ | ⟨htext, hhead⟩ | ⟨hempty, htext | htext⟩)
    · exact ⟨'.' :: path.toList, htext, .inl ⟨rfl, hne⟩⟩
    · exact ⟨path.toList, htext, .inr (.inl ⟨rfl, hhead⟩)⟩
    · exact ⟨[], htext, .inr (.inr ⟨hempty, .inl rfl⟩)⟩
    · exact ⟨['\n'], htext, .inr (.inr ⟨hempty, .inr rfl⟩)⟩
  · rintro ⟨rest, htext, ⟨rfl, hne⟩ | ⟨rfl, hhead⟩ | ⟨hempty, rfl | rfl⟩⟩
    · exact .inl ⟨htext, hne⟩
    · exact .inr (.inl ⟨htext, hhead⟩)
    · exact .inr (.inr ⟨hempty, .inl htext⟩)
    · exact .inr (.inr ⟨hempty, .inr htext⟩)

/-- A response body is read from a text of its form only. -/
theorem responseBody?_eq_some_iff :
    responseBody? text.toList = some target ↔
      ∃ path, target = .responseBody path ∧ HasForm text (.responseBody path) := by
  simp only [hasForm_responseBody_iff]
  constructor
  · intro h
    rw [responseBody?] at h
    split at h
    · next hafter =>
      exact ⟨"", (Option.some.inj h).symm, [], after?_eq_some_iff.1 hafter, .inr (.inr (by simp))⟩
    · next hafter =>
      exact ⟨"", (Option.some.inj h).symm, _, after?_eq_some_iff.1 hafter, .inr (.inr (by simp))⟩
    · next c rest hafter =>
      refine ⟨_, (Option.some.inj h).symm, _, after?_eq_some_iff.1 hafter, .inl ?_⟩
      rw [String.toList_ofList, ne_eq, ← String.toList_eq_nil_iff, String.toList_ofList]
      exact ⟨rfl, List.cons_ne_nil c rest⟩
    · next rest hafter =>
      refine ⟨_, (Option.some.inj h).symm, _, after?_eq_some_iff.1 hafter, .inr (.inl ?_)⟩
      rw [String.toList_ofList]
      exact ⟨rfl, rfl⟩
    · cases h
  · rintro ⟨path, rfl, rest, htext, hrest⟩
    rw [responseBody?, after?_eq_some_iff.2 htext]
    obtain ⟨rfl, hne⟩ | ⟨rfl, hhead⟩ | ⟨rfl, rfl | rfl⟩ := hrest
    · rw [ne_eq, ← String.toList_eq_nil_iff] at hne
      obtain ⟨c, rest, hcons⟩ := List.exists_cons_of_ne_nil hne
      rw [hcons, ← @String.ofList_toList path, hcons]
      rfl
    · obtain ⟨rest, hcons⟩ := List.head?_eq_some_iff.1 hhead
      rw [hcons, ← @String.ofList_toList path, hcons]
      rfl
    · rfl
    · rfl

/-- Each reader gives references whose form the text has. -/
theorem hasForm_of_read
    (h : (input? text.toList).or ((stepOutput? text.toList).or
      ((responseBody? text.toList).or (responseHeader? text.toList))) = some target) :
    HasForm text target := by
  simp only [Option.or_eq_some_iff] at h
  obtain hinput | ⟨-, hstep | ⟨-, hbody | ⟨-, hheader⟩⟩⟩ := h
  · obtain ⟨path, hpath, rfl⟩ := Option.map_eq_some_iff.1 hinput
    exact tail?_toList_eq_some_iff.1 hpath
  · obtain ⟨id, path, rfl, hform⟩ := stepOutput?_eq_some_iff.1 hstep
    exact hform
  · obtain ⟨path, rfl, hform⟩ := responseBody?_eq_some_iff.1 hbody
    exact hform
  · obtain ⟨name, hname, rfl⟩ := Option.map_eq_some_iff.1 hheader
    exact tail?_toList_eq_some_iff.1 hname

/-- A text has the form of what it refers to, unless that is unknown. -/
theorem hasForm_ofText (text : String) :
    HasForm text (ofText text.toList) ∨ ofText text.toList = .unknown text := by
  rw [ofText]
  split
  · next hstatus => exact .inl (String.toList_inj.1 hstatus)
  · cases hread : (input? text.toList).or ((stepOutput? text.toList).or
        ((responseBody? text.toList).or (responseHeader? text.toList))) with
    | none => exact .inr (congrArg unknown String.ofList_toList)
    | some target => exact .inl (hasForm_of_read hread)

/-- A text refers to the target whose form it has. The readers before the one for that form fail,
since their beginnings are other texts. -/
theorem HasForm.ofText_eq (h : HasForm text target) : ofText text.toList = target := by
  -- the forms that are tried before this one start in another way
  cases target with
  | statusCode =>
    rw [h]
    rfl
  | input path =>
    have hread : input? text.toList = some (.input path) :=
      Option.map_eq_some_iff.2 ⟨path, tail?_toList_eq_some_iff.2 h, rfl⟩
    have hstatus : text.toList ≠ "$statusCode".toList := by
      rw [h.1]
      simp
    rw [ofText, if_neg hstatus, hread]
    rfl
  | stepOutput id path => exact ofText_eq_stepOutput_iff.2 h
  | responseBody path =>
    have hread : responseBody? text.toList = some (.responseBody path) :=
      responseBody?_eq_some_iff.2 ⟨path, rfl, h⟩
    obtain ⟨rest, htext, -⟩ := hasForm_responseBody_iff.1 h
    have hstatus : text.toList ≠ "$statusCode".toList := by
      rw [htext]
      simp
    have hbefore : input? text.toList = none ∧ stepOutput? text.toList = none := by
      rw [htext]
      exact ⟨rfl, rfl⟩
    rw [ofText, if_neg hstatus, hbefore.1, hbefore.2, hread]
    rfl
  | responseHeader name =>
    have hread : responseHeader? text.toList = some (.responseHeader name) :=
      Option.map_eq_some_iff.2 ⟨name, tail?_toList_eq_some_iff.2 h, rfl⟩
    have hstatus : text.toList ≠ "$statusCode".toList := by
      rw [h.1]
      simp
    have hbefore : input? text.toList = none ∧ stepOutput? text.toList = none ∧
        responseBody? text.toList = none := by
      rw [h.1, String.toList_append]
      exact ⟨rfl, rfl, rfl⟩
    rw [ofText, if_neg hstatus, hbefore.1, hbefore.2.1, hbefore.2.2, hread]
    rfl
  | unknown rest => exact h.elim

/-- No text has the forms of two references. -/
theorem HasForm.unique {other : Reference} (h : HasForm text target) (hother : HasForm text other) :
    target = other :=
  h.ofText_eq.symm.trans hother.ofText_eq

/-- What a text refers to is decided by its form. -/
theorem ofText_eq_iff :
    ofText text.toList = target ↔
      HasForm text target ∨ target = .unknown text ∧ ∀ other, ¬HasForm text other := by
  constructor
  · rintro rfl
    obtain hform | hunknown := hasForm_ofText text
    · exact .inl hform
    · refine .inr ⟨hunknown, fun other hother => ?_⟩
      -- a text with a form refers to a target that is not unknown
      rw [← hother.ofText_eq, hunknown] at hother
      exact hother
  · rintro (hform | ⟨rfl, hnone⟩)
    · exact hform.ofText_eq
    · exact (hasForm_ofText text).resolve_left (hnone _)

/-- A text with the form of a reference starts with a dollar sign. -/
theorem HasForm.head?_eq (h : HasForm text target) : text.toList.head? = some '$' := by
  cases target with
  | statusCode =>
    rw [h]
    rfl
  | input path =>
    rw [h.1, String.toList_append]
    rfl
  | stepOutput id path =>
    rw [h.text_eq]
    rfl
  | responseBody path =>
    obtain ⟨rest, htext, -⟩ := hasForm_responseBody_iff.1 h
    rw [htext]
    rfl
  | responseHeader name =>
    rw [h.1, String.toList_append]
    rfl
  | unknown rest => exact h.elim

end Reference

namespace Expression

open Reference

/-- A text that starts with a dollar sign is an expression. -/
theorem isExpression_iff {text : String} :
    isExpression text = true ↔ text.toList.head? = some '$' :=
  beq_iff_eq

/-- A text is an expression exactly if it starts with a dollar sign, and the expression holds the
text. It refers to the one target whose form the text has; if there is none, it is unknown. -/
theorem ofText?_grammar (text : String) :
    (ofText? text = none ↔ text.toList.head? ≠ some '$') ∧
      (∀ target raw, ofText? text = some ⟨target, raw⟩ ↔
        raw = text ∧ (HasForm text target ∨
          target = .unknown text ∧ text.toList.head? = some '$' ∧ ∀ other, ¬HasForm text other)) ∧
      ∀ target other, HasForm text target → HasForm text other → target = other := by
  refine ⟨?_, fun target raw => ?_, fun _ _ h hother => h.unique hother⟩
  · rw [ofText?, ne_eq, ← isExpression_iff]
    split <;> simp_all
  · by_cases hstart : text.toList.head? = some '$'
    · rw [ofText?, if_pos (isExpression_iff.2 hstart), Option.some_inj, Expression.mk.injEq,
        ofText_eq_iff, and_comm, eq_comm (a := text)]
      simp only [hstart, true_and]
    · rw [ofText?, if_neg (mt isExpression_iff.1 hstart)]
      refine iff_of_false nofun ?_
      rintro ⟨-, hform | ⟨-, hhead, -⟩⟩
      · exact hstart hform.head?_eq
      · exact hstart hhead

/-- The step id ends at the first point, so that a later `.outputs.` is part of the path. -/
example : ofText? "$steps.a.outputs.b.outputs.c" =
    some ⟨.stepOutput "a" "b.outputs.c", "$steps.a.outputs.b.outputs.c"⟩ := by decide

end Expression

end FlowCheck
