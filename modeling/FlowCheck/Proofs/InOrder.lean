import FlowCheck.Proofs.Distinct
import Mathlib.Data.List.Lex

/-!
# Lists in the order of places

A scan of a nested structure collects what stands in it. Where something stands is told by its
place, a list of numbers that leads to it from the outside to the inside. One place comes before
another if it does so at the first number in which they differ. What a scan should collect can be
told without the scan, by what stands where: `InOrder` says that a list holds everything that
stands somewhere, once for each place and in the order of the places. This determines the list
(`InOrder.unique`).
-/

namespace FlowCheck

variable {α β : Type}

/-- The list holds what stands at the places, in the order of the places. -/
def InOrder (stands : List ℕ → α → Prop) (xs : List α) : Prop :=
  ∃ entries : List (List ℕ × α), entries.Pairwise (fun a b => a.1 < b.1) ∧
    (∀ place x, (place, x) ∈ entries ↔ stands place x) ∧ entries.map Prod.snd = xs

/-- The element stands at the place, and what stands at earlier places has other keys. -/
def FirstAt (key : α → β) (stands : List ℕ → α → Prop) (place : List ℕ) (x : α) : Prop :=
  stands place x ∧ ∀ earlier other, earlier < place → stands earlier other → key other ≠ key x

namespace InOrder

variable {stands others : List ℕ → α → Prop} {xs ys : List α}

/-- The list depends on nothing but what stands where. -/
theorem congr (h : InOrder stands xs) (hiff : ∀ place x, stands place x ↔ others place x) :
    InOrder others xs := by
  obtain ⟨entries, hsorted, hmem, rfl⟩ := h
  exact ⟨entries, hsorted, fun place x => (hmem place x).trans (hiff place x), rfl⟩

/-- What stands at the places determines the list. -/
theorem unique (h : InOrder stands xs) (hother : InOrder stands ys) : xs = ys := by
  obtain ⟨entries, hsorted, hmem, rfl⟩ := h
  obtain ⟨entries', hsorted', hmem', rfl⟩ := hother
  have hnodup {entries : List (List ℕ × α)} (h : entries.Pairwise fun a b => a.1 < b.1) :
      entries.Nodup := h.imp fun hlt => by
    rintro rfl
    exact lt_irrefl _ hlt
  -- both have the same members, which the order of the places arranges in one way only
  have hperm : entries.Perm entries' :=
    (List.perm_ext_iff_of_nodup (hnodup hsorted) (hnodup hsorted')).2 fun (place, x) =>
      (hmem place x).trans (hmem' place x).symm
  rw [hperm.eq_of_pairwise (fun a b _ _ hlt hgt => absurd hgt (lt_asymm hlt)) hsorted hsorted']

/-- An element of the list stands somewhere. -/
theorem mem_iff (h : InOrder stands xs) {x : α} : x ∈ xs ↔ ∃ place, stands place x := by
  obtain ⟨entries, -, hmem, rfl⟩ := h
  simp [hmem]

/-- Where nothing stands, the list is empty. -/
theorem nil (h : ∀ place x, ¬ stands place x) : InOrder stands [] :=
  ⟨[], .nil, fun place x => iff_of_false List.not_mem_nil (h place x), rfl⟩

/-- What stands at later places comes after what stands at earlier ones. -/
theorem append (h : InOrder stands xs) (hothers : InOrder others ys)
    (hlt : ∀ place x place' x', stands place x → others place' x' → place < place') :
    InOrder (fun place x => stands place x ∨ others place x) (xs ++ ys) := by
  obtain ⟨entries, hsorted, hmem, rfl⟩ := h
  obtain ⟨entries', hsorted', hmem', rfl⟩ := hothers
  refine ⟨entries ++ entries', List.pairwise_append.2 ⟨hsorted, hsorted', ?_⟩, fun place x => ?_,
    List.map_append⟩
  · intro a ha b hb
    exact hlt _ _ _ _ ((hmem a.1 a.2).1 ha) ((hmem' b.1 b.2).1 hb)
  · rw [List.mem_append, hmem, hmem']

/-- Places inside a part start with the number of the part. -/
theorem under (h : InOrder stands xs) (n : ℕ) :
    InOrder (fun place x => ∃ way, place = n :: way ∧ stands way x) xs := by
  obtain ⟨entries, hsorted, hmem, rfl⟩ := h
  refine ⟨entries.map fun entry => (n :: entry.1, entry.2), List.pairwise_map.2 ?_,
    fun place x => ?_, by simp⟩
  · exact hsorted.imp fun hlt => List.cons_lt_cons_iff.2 (.inr ⟨rfl, hlt⟩)
  · simp only [List.mem_map, Prod.exists, Prod.mk.injEq, hmem]
    constructor
    · rintro ⟨way, _, hx, rfl, rfl⟩
      exact ⟨way, rfl, hx⟩
    · rintro ⟨way, rfl, hx⟩
      exact ⟨way, x, hx, rfl, rfl⟩

/-- A selection from the list holds what is selected at each place. -/
theorem filterMap (h : InOrder stands xs) (f : α → Option β) :
    InOrder (fun place y => ∃ x, stands place x ∧ f x = some y) (xs.filterMap f) := by
  obtain ⟨entries, hsorted, hmem, rfl⟩ := h
  refine ⟨entries.filterMap fun entry => (f entry.2).map (entry.1, ·), ?_, fun place y => ?_, ?_⟩
  · refine List.pairwise_filterMap.2 (hsorted.imp fun hlt b hb b' hb' => ?_)
    obtain ⟨_, -, rfl⟩ := Option.map_eq_some_iff.1 hb
    obtain ⟨_, -, rfl⟩ := Option.map_eq_some_iff.1 hb'
    exact hlt
  · simp only [List.mem_filterMap, Prod.exists, Option.map_eq_some_iff, Prod.mk.injEq, hmem]
    constructor
    · rintro ⟨_, x, hx, _, hy, rfl, rfl⟩
      exact ⟨x, hx, hy⟩
    · rintro ⟨x, hx, hy⟩
      exact ⟨place, x, hx, y, hy, rfl, rfl⟩
  · rw [List.map_filterMap, List.filterMap_map]
    refine List.filterMap_congr fun entry _ => ?_
    simp [Function.comp_def]

/-- The elements that satisfy a condition stand where they stood. -/
theorem filter (h : InOrder stands xs) (p : α → Bool) :
    InOrder (fun place x => stands place x ∧ p x = true) (xs.filter p) := by
  rw [← List.filterMap_eq_filter]
  refine (h.filterMap _).congr fun place x => ?_
  simp only [Option.guard_eq_some_iff]
  constructor
  · rintro ⟨_, hx, rfl, hp⟩
    exact ⟨hx, hp⟩
  · rintro ⟨hx, hp⟩
    exact ⟨x, hx, rfl, hp⟩

/-- What is made of the elements stands where they stood. -/
theorem map (h : InOrder stands xs) (f : α → β) :
    InOrder (fun place y => ∃ x, stands place x ∧ f x = y) (xs.map f) := by
  rw [← List.filterMap_eq_map]
  exact (h.filterMap _).congr fun place y => by simp only [Function.comp_apply, Option.some_inj]

/-- Of entries in the order of their places, those are kept as the first ones of their keys that no
entry with an earlier place and the same key speaks against. -/
theorem map_snd_filter [DecidableEq β] {key : α → β} {entries : List (List ℕ × α)}
    (hsorted : entries.Pairwise fun a b => a.1 < b.1) :
    (entries.filter fun a => ∀ b ∈ entries, b.1 < a.1 → key b.2 ≠ key a.2).map Prod.snd =
      FlowCheck.firstsBy key (entries.map Prod.snd) := by
  induction entries using List.reverseRecOn with
  | nil => rfl
  | append_singleton entries a ih =>
    obtain ⟨hbefore, -, hlast⟩ := List.pairwise_append.1 hsorted
    have hlt : ∀ b ∈ entries, b.1 < a.1 := fun b hb => hlast b hb a (List.mem_singleton_self a)
    -- the last entry speaks against none of those before it
    have hsame : (entries.filter fun c => ∀ b ∈ entries ++ [a], b.1 < c.1 → key b.2 ≠ key c.2) =
        entries.filter fun c => ∀ b ∈ entries, b.1 < c.1 → key b.2 ≠ key c.2 := by
      refine List.filter_congr fun c hc => decide_eq_decide.2 ?_
      rw [List.forall_mem_append, List.forall_mem_singleton]
      exact and_iff_left fun hgt => absurd hgt (lt_asymm (hlt c hc))
    have hnew : (∀ b ∈ entries ++ [a], b.1 < a.1 → key b.2 ≠ key a.2) ↔
        key a.2 ∉ (entries.map Prod.snd).map key := by
      rw [List.forall_mem_append, List.forall_mem_singleton]
      simp only [List.mem_map, not_exists, not_and, exists_exists_and_eq_and, lt_irrefl,
        false_imp_iff, and_true]
      exact forall₂_congr fun b hb => imp_iff_right (hlt b hb)
    rw [List.filter_append, hsame, List.map_append, ih hbefore, List.map_append,
      List.map_singleton, firstsBy_concat]
    split
    · next hold =>
      rw [List.filter_cons_of_neg (by rwa [decide_eq_true_eq, hnew, not_not])]
      exact List.append_nil _
    · next hold =>
      rw [List.filter_cons_of_pos (by rwa [decide_eq_true_eq, hnew])]
      rfl

/-- The first elements of the keys stand where no element with the same key stands before. -/
theorem firstsBy [DecidableEq β] (h : InOrder stands xs) (key : α → β) :
    InOrder (FirstAt key stands) (FlowCheck.firstsBy key xs) := by
  obtain ⟨entries, hsorted, hmem, rfl⟩ := h
  refine ⟨entries.filter fun a => ∀ b ∈ entries, b.1 < a.1 → key b.2 ≠ key a.2,
    hsorted.filter _, fun place x => ?_, map_snd_filter hsorted⟩
  rw [List.mem_filter, hmem, decide_eq_true_eq]
  refine and_congr_right fun _ => ?_
  simp only [Prod.forall, hmem]
  exact ⟨fun h earlier other hlt hother => h earlier other hother hlt,
    fun h earlier other hother hlt => h earlier other hlt hother⟩

/-- Without repetitions every element stands where it does not stand before. -/
theorem eraseDups [DecidableEq α] (h : InOrder stands xs) :
    InOrder (FirstAt id stands) xs.eraseDups := by
  have heq : FlowCheck.firstsBy id xs = xs.eraseDups := by simpa using map_firstsBy id xs
  rw [← heq]
  exact h.firstsBy id

end InOrder

end FlowCheck
