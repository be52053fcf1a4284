import Mathlib.Data.List.Induction
import Mathlib.Data.List.Nodup

/-!
# Lists without repetitions

Repetitions are dropped so that the first of equal elements stays. What is left has each element
once, in the order of the first occurrences. Elements can also be told apart by a key only
(`firstsBy`); then what is left has each key once.
-/

namespace FlowCheck

variable {α β : Type} [BEq α] [LawfulBEq α] [BEq β] [LawfulBEq β]

/-- An element at the end of a list is kept unless the list has it already. -/
theorem eraseDups_concat (xs : List α) (x : α) :
    (xs ++ [x]).eraseDups = if x ∈ xs then xs.eraseDups else xs.eraseDups ++ [x] := by
  rw [List.eraseDups_append, List.removeAll]
  by_cases hmem : x ∈ xs <;> simp [hmem, List.eraseDups_cons]

/-- Without repetitions every element is there once. -/
theorem nodup_eraseDups (xs : List α) : xs.eraseDups.Nodup := by
  induction xs using List.reverseRecOn with
  | nil => exact List.nodup_nil
  | append_singleton xs x ih =>
    rw [eraseDups_concat]
    split
    · exact ih
    · next hnew =>
      rw [List.nodup_append]
      refine ⟨ih, List.nodup_singleton x, fun y hy z hz => ?_⟩
      rw [List.mem_singleton.1 hz]
      rintro rfl
      exact hnew (List.mem_eraseDups.1 hy)

/-- Where a selection keeps elements apart, they can be selected before or after repetitions are
dropped. -/
theorem filterMap_eraseDups {f : α → Option β} (hf : ∀ x y b, f x = some b → f y = some b → x = y)
    (xs : List α) : xs.eraseDups.filterMap f = (xs.filterMap f).eraseDups := by
  induction xs using List.reverseRecOn with
  | nil => rfl
  | append_singleton xs x ih =>
    rw [eraseDups_concat, List.filterMap_append]
    cases hx : f x with
    | none => split <;> simp [hx, ih]
    | some b =>
      -- the value is there already exactly if the element is
      have hmem : b ∈ xs.filterMap f ↔ x ∈ xs := by
        rw [List.mem_filterMap]
        refine ⟨fun ⟨y, hy, heq⟩ => hf y x b heq hx ▸ hy, fun hmem => ⟨x, hmem, hx⟩⟩
      rw [List.filterMap_cons_some hx, List.filterMap_nil, eraseDups_concat]
      by_cases h : x ∈ xs <;> simp [h, hmem, hx, ih]

/-- The first of every group of elements with the same key, in order. -/
def firstsBy (key : α → β) : List α → List α :=
  List.foldl (fun kept x => if kept.any (key · == key x) then kept else kept ++ [x]) []

section Keys

omit [BEq α] [LawfulBEq α]

variable (key : α → β) (xs : List α)

/-- An element at the end of a list is kept unless one that was kept has its key. -/
theorem firstsBy_concat_eq (x : α) :
    firstsBy key (xs ++ [x]) =
      if key x ∈ (firstsBy key xs).map key then firstsBy key xs else firstsBy key xs ++ [x] := by
  have hany : (firstsBy key xs).any (key · == key x) = true ↔
      key x ∈ (firstsBy key xs).map key := by
    simp only [List.any_eq_true, List.mem_map, beq_iff_eq]
  have hfold : firstsBy key (xs ++ [x]) =
      if (firstsBy key xs).any (key · == key x) then firstsBy key xs
      else firstsBy key xs ++ [x] := List.foldl_append ..
  simp only [hfold, hany]

/-- The elements that are kept have all keys, once and in the same order. -/
theorem map_firstsBy : (firstsBy key xs).map key = (xs.map key).eraseDups := by
  induction xs using List.reverseRecOn with
  | nil => rfl
  | append_singleton xs x ih =>
    rw [firstsBy_concat_eq, List.map_append, List.map_singleton, eraseDups_concat]
    simp only [ih, List.mem_eraseDups]
    split
    · exact ih
    · rw [List.map_append, List.map_singleton, ih]

/-- An element at the end of a list is kept unless one before it has its key. -/
theorem firstsBy_concat (x : α) :
    firstsBy key (xs ++ [x]) =
      if key x ∈ xs.map key then firstsBy key xs else firstsBy key xs ++ [x] := by
  simp only [firstsBy_concat_eq, map_firstsBy, List.mem_eraseDups]

end Keys

end FlowCheck
