import FlowCheck.Expression
import FlowCheck.Text.Fold
import Mathlib.Data.List.TakeWhile

/-!
# The form of a reference to an output of a step

A text refers to an output of a step exactly if it is `$steps.`, a step id, `.outputs.` and a path
(`ofText_eq_stepOutput_iff`). The id has no point, so that it ends at the first one.
-/

namespace FlowCheck.Reference

/-- What follows a fixed beginning is the rest of the text. -/
theorem after?_eq_some_iff {start : String} {text rest : List Char} :
    after? start text = some rest ↔ text = start.toList ++ rest :=
  ⟨Text.eq_append_of_isPrefixOf?, fun h => h ▸ Text.isPrefixOf?_append start.toList rest⟩

/-- What follows a fixed beginning is the rest of the text, when that is not empty. -/
theorem tail?_eq_some_iff {start path : String} {text : List Char} :
    tail? start text = some path ↔ text = start.toList ++ path.toList ∧ path ≠ "" := by
  rw [tail?, ne_eq, ← String.toList_eq_nil_iff]
  split
  · next c rest h =>
    rw [after?_eq_some_iff] at h
    rw [Option.some_inj, ← String.toList_inj, String.toList_ofList, h, List.append_cancel_left_eq]
    exact ⟨fun heq => ⟨heq, by simp [← heq]⟩, And.left⟩
  · next h =>
    refine iff_of_false (by simp) fun ⟨htext, hpath⟩ => ?_
    obtain ⟨c, rest, hcons⟩ := List.exists_cons_of_ne_nil hpath
    exact h c rest (after?_eq_some_iff.2 (hcons ▸ htext))

/-- The text is a step id and a path in the frame of a reference to an output of a step. -/
structure IsStepOutput (text : List Char) (id path : String) : Prop where
  text_eq : text = "$steps.".toList ++ (id.toList ++ (".outputs.".toList ++ path.toList))
  id_ne : id ≠ ""
  path_ne : path ≠ ""
  stepChars : ∀ c ∈ id.toList, isStepChar c = true

/-- A step output is read from a text of its form only. -/
theorem stepOutput?_eq_some_iff {text : List Char} {target : Reference} :
    stepOutput? text = some target ↔
      ∃ id path, target = .stepOutput id path ∧ IsStepOutput text id path := by
  constructor
  · intro h
    rw [stepOutput?] at h
    split at h
    · cases h
    · next rest hafter =>
      dsimp only at h
      split at h
      · cases h
      · next hid =>
        obtain ⟨path, hpath, rfl⟩ := Option.map_eq_some_iff.1 h
        obtain ⟨hrest, hne⟩ := tail?_eq_some_iff.1 hpath
        refine ⟨_, path, rfl, ?_, ?_, hne, ?_⟩
        · rw [@String.toList_ofList (rest.takeWhile isStepChar), ← hrest,
            List.takeWhile_append_dropWhile]
          exact after?_eq_some_iff.1 hafter
        · rwa [ne_eq, ← String.toList_eq_nil_iff, String.toList_ofList, ← List.isEmpty_iff]
        · intro c hc
          rw [String.toList_ofList] at hc
          exact List.mem_takeWhile_imp hc
  · rintro ⟨id, path, rfl, h⟩
    have hid : id.toList.isEmpty = false :=
      List.isEmpty_eq_false_iff.2 fun heq => h.id_ne (String.toList_eq_nil_iff.1 heq)
    -- the id ends at the point of what follows it
    have htake : (id.toList ++ (".outputs.".toList ++ path.toList)).takeWhile isStepChar =
        id.toList := by
      rw [List.takeWhile_append_of_pos h.stepChars]
      exact List.append_nil _
    have hdrop : (id.toList ++ (".outputs.".toList ++ path.toList)).dropWhile isStepChar =
        ".outputs.".toList ++ path.toList := by
      rw [List.dropWhile_append_of_pos h.stepChars]
      rfl
    rw [stepOutput?, after?_eq_some_iff.2 h.text_eq]
    dsimp only
    rw [htake, hdrop, hid, tail?_eq_some_iff.2 ⟨rfl, h.path_ne⟩, String.ofList_toList]
    rfl

/-- What a text refers to is read by one of the readers, unless it is the status code or unknown. -/
theorem ofText_cases (text : List Char) :
    ofText text = .statusCode ∨ ofText text = .unknown (String.ofList text) ∨
      ∃ read ∈ [input?, stepOutput?, responseBody?, responseHeader?],
        read text = some (ofText text) := by
  rw [ofText]
  split
  · exact .inl rfl
  · right
    simp only [List.mem_cons, List.not_mem_nil, or_false, exists_eq_or_imp, exists_eq_left]
    cases input? text <;> cases stepOutput? text <;> cases responseBody? text <;>
      cases responseHeader? text <;> simp

/-- A text refers to an output of a step exactly if it has the form. -/
theorem ofText_eq_stepOutput_iff {text : List Char} {id path : String} :
    ofText text = .stepOutput id path ↔ IsStepOutput text id path := by
  constructor
  · intro h
    have hcases := ofText_cases text
    rw [h] at hcases
    rcases hcases with hstatus | hunknown | ⟨read, hread, hsome⟩
    · cases hstatus
    · cases hunknown
    · simp only [List.mem_cons, List.not_mem_nil, or_false] at hread
      -- each reader gives references of one kind
      rcases hread with rfl | rfl | rfl | rfl
      · simp [input?] at hsome
      · obtain ⟨_, _, heq, hform⟩ := stepOutput?_eq_some_iff.1 hsome
        obtain ⟨rfl, rfl⟩ := Reference.stepOutput.inj heq
        exact hform
      · rw [responseBody?] at hsome
        split at hsome <;> simp at hsome
      · simp [responseHeader?] at hsome
  · intro h
    have hstep : stepOutput? text = some (.stepOutput id path) :=
      stepOutput?_eq_some_iff.2 ⟨id, path, rfl, h⟩
    have hstatus : text ≠ "$statusCode".toList := by
      rw [h.text_eq]
      simp
    have hinput : input? text = none := by
      rw [h.text_eq]
      rfl
    rw [ofText, if_neg hstatus, hinput, hstep]
    rfl

end FlowCheck.Reference
