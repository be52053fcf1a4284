import FlowCheck.Catalog
import FlowCheck.Text.Fold
import Mathlib.Data.List.TakeWhile

/-!
# Operation ids that name their source

An operation id names its source exactly if it is `$sourceDescriptions.`, the name of the source, a
point and the bare id (`splitId_eq_some_iff`). The name has no point, so that it ends at the first
one. Every other id is a bare id as it stands.
-/

namespace FlowCheck

/-- The id names a source, and in it an operation by its bare id. -/
structure IsQualified (id source bare : String) : Prop where
  text_eq : id = sourceStart ++ source ++ "." ++ bare
  source_ne : source ≠ ""
  bare_ne : bare ≠ ""
  noPoint : '.' ∉ source.toList

variable {id source bare : String}

/-- An id that names its source is split at the first point after the name. -/
theorem IsQualified.splitId_eq (h : IsQualified id source bare) :
    splitId id = (some source, bare) := by
  have hchars : ∀ c ∈ source.toList, decide (c ≠ '.') = true := fun c hc =>
    decide_eq_true (ne_of_mem_of_not_mem hc h.noPoint)
  have hid : id.toList = sourceStart.toList ++ (source.toList ++ '.' :: bare.toList) := by
    rw [h.text_eq]
    simp
  have htake : (source.toList ++ '.' :: bare.toList).takeWhile (· ≠ '.') = source.toList := by
    rw [List.takeWhile_append_of_pos hchars]
    exact List.append_nil _
  have hdrop : (source.toList ++ '.' :: bare.toList).dropWhile (· ≠ '.') =
      '.' :: bare.toList := by
    rw [List.dropWhile_append_of_pos hchars]
    rfl
  have hsource : source.toList.isEmpty = false :=
    List.isEmpty_eq_false_iff.2 fun heq => h.source_ne (String.toList_eq_nil_iff.1 heq)
  have hbare : bare.toList.isEmpty = false :=
    List.isEmpty_eq_false_iff.2 fun heq => h.bare_ne (String.toList_eq_nil_iff.1 heq)
  rw [splitId, hid, Text.isPrefixOf?_append]
  dsimp only
  rw [htake, hdrop, List.drop_one, List.tail_cons, hsource, hbare]
  simp

/-- What a text leaves after its characters before the first `c` starts with `c`. -/
theorem dropWhile_ne_eq_cons {c : Char} {text : List Char} (h : text.dropWhile (· ≠ c) ≠ []) :
    text.dropWhile (· ≠ c) = c :: (text.dropWhile (· ≠ c)).drop 1 := by
  induction text with
  | nil => exact absurd rfl h
  | cons d rest ih =>
    by_cases hd : d = c
    · simp [hd]
    · have hrest : (d :: rest).dropWhile (· ≠ c) = rest.dropWhile (· ≠ c) :=
        List.dropWhile_cons_of_pos (decide_eq_true hd)
      rw [hrest] at h ⊢
      exact ih h

/-- An id either names its source or stands for itself. -/
theorem splitId_cases (id : String) :
    splitId id = (none, id) ∨
      ∃ source bare, splitId id = (some source, bare) ∧ IsQualified id source bare := by
  rw [splitId]
  split
  · exact .inl rfl
  · next rest hrest =>
    dsimp only
    split
    · exact .inl rfl
    · next hparts =>
      rw [Bool.or_eq_true, not_or] at hparts
      obtain ⟨hsource, hbare⟩ := hparts
      refine .inr ⟨_, _, rfl, ?_, ?_, ?_, ?_⟩
      · -- what follows the name starts with a point, since the bare id follows
        have hpoint : rest.dropWhile (· ≠ '.') = '.' :: (rest.dropWhile (· ≠ '.')).drop 1 := by
          refine dropWhile_ne_eq_cons fun hnil => hbare ?_
          rw [hnil]
          rfl
        rw [← String.toList_inj, Text.eq_append_of_isPrefixOf? hrest]
        simp only [String.toList_append, String.toList_ofList, List.append_assoc]
        rw [show ".".toList ++ (rest.dropWhile (· ≠ '.')).drop 1 = rest.dropWhile (· ≠ '.') from
          hpoint.symm, List.takeWhile_append_dropWhile]
      · rwa [ne_eq, ← String.toList_eq_nil_iff, String.toList_ofList, ← List.isEmpty_iff]
      · rwa [ne_eq, ← String.toList_eq_nil_iff, String.toList_ofList, ← List.isEmpty_iff]
      · rw [String.toList_ofList]
        intro hmem
        simpa using List.mem_takeWhile_imp hmem

/-- An id is split into source and bare id exactly if it has that form. -/
theorem splitId_eq_some_iff : splitId id = (some source, bare) ↔ IsQualified id source bare := by
  refine ⟨fun h => ?_, IsQualified.splitId_eq⟩
  obtain hplain | ⟨_, _, hsplit, hform⟩ := splitId_cases id
  · rw [hplain] at h
    cases h
  · rw [hsplit] at h
    cases h
    exact hform

end FlowCheck
