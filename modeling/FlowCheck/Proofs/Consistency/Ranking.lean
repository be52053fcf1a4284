import FlowCheck.Proofs.Consistency.Suggestion
import FlowCheck.Proofs.Distinct
import FlowCheck.Proofs.Text.Similarity
import Mathlib.Data.List.Infix

/-!
# The ranking of names

The names offered for a text are the first of one ranking: all candidates that are similar enough,
by their similarity and then by the names themselves. The estimates that are tried first never
drop a name (`score?_eq`), and names are ranked without ties, so that the ranking depends on the
set of candidates only. A higher bound keeps the first part of the ranking, which is why a lower
limit or a higher bound offers the first of the same names (`suggest_ranking`).
-/

namespace FlowCheck

open Result

namespace Suggestion

variable {reference : String} {bound : Binary64}

/-! ## Similarity to the reference -/

/-- The similarity of a name to the text that was not found. -/
def closeness (reference name : String) : Binary64 :=
  Text.similarity name.toList reference.toList

/-- A name is similar enough exactly if its similarity is, whatever the estimates are. -/
theorem score?_eq (reference : String) (bound : Binary64) (name : String) :
    score? reference bound name =
      if bound.le (closeness reference name) then some (closeness reference name) else none := by
  have hshared := Text.similarity_le_sharedSimilarity name.toList reference.toList
  have hlength := Text.sharedSimilarity_le_lengthSimilarity name.toList reference.toList
  unfold score? closeness
  dsimp only
  split
  · rfl
  · next hestimates =>
    split
    · next hscore =>
      -- a similarity that reaches the bound lies below both estimates
      have hfirst := Binary64.le_trans hscore hshared
      have hsecond := Binary64.le_trans hfirst hlength
      rw [hfirst, hsecond] at hestimates
      exact absurd rfl hestimates
    · rfl

/-! ## The order of names -/

/-- A name with its similarity. -/
def scored (reference name : String) : Binary64 × String :=
  (closeness reference name, name)

/-- A name stands before another in the ranking. -/
def comesBefore (reference a b : String) : Bool :=
  isBefore (scored reference a) (scored reference b)

/-- The similarity of a name has a place in the order of numbers. -/
theorem exists_rank_closeness (reference name : String) :
    ∃ units, (closeness reference name).rank = some units := by
  have hnumber := Text.similarity_ne_nan name.toList reference.toList
  unfold closeness
  cases h : Text.similarity name.toList reference.toList with
  | nan => exact absurd h hnumber
  | infinite => exact ⟨_, rfl⟩
  | finite => exact ⟨_, rfl⟩

/-- Of two names the more similar one comes first, and of names as similar the later one. -/
theorem comesBefore_iff {a b : String} {x y : Int} (ha : (closeness reference a).rank = some x)
    (hb : (closeness reference b).rank = some y) :
    comesBefore reference a b = true ↔ y < x ∨ y = x ∧ b ≤ a := by
  unfold comesBefore isBefore scored Binary64.lt Binary64.same
  dsimp only
  rw [ha, hb]
  simp

/-- The order is transitive. -/
theorem comesBefore_trans (a b c : String) (hab : comesBefore reference a b = true)
    (hbc : comesBefore reference b c = true) : comesBefore reference a c = true := by
  obtain ⟨x, hx⟩ := exists_rank_closeness reference a
  obtain ⟨y, hy⟩ := exists_rank_closeness reference b
  obtain ⟨z, hz⟩ := exists_rank_closeness reference c
  rw [comesBefore_iff hx hy] at hab
  rw [comesBefore_iff hy hz] at hbc
  rw [comesBefore_iff hx hz]
  rcases hab with hab | ⟨rfl, hba⟩
  · left
    omega
  · rcases hbc with hbc | ⟨rfl, hcb⟩
    · exact .inl hbc
    · exact .inr ⟨rfl, String.le_trans hcb hba⟩

/-- Of two names one comes before the other. -/
theorem comesBefore_total (a b : String) :
    (comesBefore reference a b || comesBefore reference b a) = true := by
  obtain ⟨x, hx⟩ := exists_rank_closeness reference a
  obtain ⟨y, hy⟩ := exists_rank_closeness reference b
  rw [Bool.or_eq_true, comesBefore_iff hx hy, comesBefore_iff hy hx]
  rcases Int.lt_trichotomy y x with hlt | rfl | hlt
  · exact .inl (.inl hlt)
  · exact (String.le_total b a).imp (fun h => .inr ⟨rfl, h⟩) (fun h => .inr ⟨rfl, h⟩)
  · exact .inr (.inl hlt)

/-- No two names share a place in the ranking. -/
theorem comesBefore_antisymm {a b : String} (hab : comesBefore reference a b = true)
    (hba : comesBefore reference b a = true) : a = b := by
  obtain ⟨x, hx⟩ := exists_rank_closeness reference a
  obtain ⟨y, hy⟩ := exists_rank_closeness reference b
  rw [comesBefore_iff hx hy] at hab
  rw [comesBefore_iff hy hx] at hba
  rcases hab with hab | ⟨hsame, hle⟩
  · omega
  · rcases hba with hba | ⟨-, hge⟩
    · omega
    · exact String.le_antisymm hge hle

/-- A name before one that is similar enough is similar enough itself. -/
theorem le_closeness_of_comesBefore {a b : String} (h : comesBefore reference a b = true)
    (hb : bound.le (closeness reference b) = true) :
    bound.le (closeness reference a) = true := by
  obtain ⟨x, hx⟩ := exists_rank_closeness reference a
  obtain ⟨y, hy⟩ := exists_rank_closeness reference b
  apply Binary64.le_trans hb
  rw [comesBefore_iff hx hy] at h
  unfold Binary64.le
  rw [hx, hy]
  apply decide_eq_true
  omega

/-! ## The ranking -/

variable {candidates : List String}

/-- The names that have a score are those that are similar enough. -/
theorem filterMap_score? (reference : String) (bound : Binary64) (found : List String) :
    (found.filterMap fun name => (score? reference bound name).map fun score => (score, name)) =
      (found.filter fun name => bound.le (closeness reference name)).map (scored reference) := by
  induction found with
  | nil => rfl
  | cons name rest ih =>
    rw [List.filterMap_cons, List.filter_cons, score?_eq, ih]
    cases bound.le (closeness reference name) <;> rfl

/-- The ranking sorts the distinct names that are similar enough. -/
theorem ranked_eq (reference : String) (candidates : List String) (bound : Binary64) :
    ranked reference candidates bound =
      ((candidates.eraseDups.filter (· ≠ reference)).filter fun name =>
        bound.le (closeness reference name)).mergeSort (comesBefore reference) := by
  have hsort (found : List String) : (found.mergeSort (comesBefore reference)).map
      (scored reference) = (found.map (scored reference)).mergeSort isBefore :=
    List.map_mergeSort fun _ _ _ _ => rfl
  have hname : Prod.snd ∘ scored reference = id := rfl
  unfold ranked
  dsimp only
  rw [filterMap_score?, ← hsort, List.map_map, hname, List.map_id]

/-- Names stand in the ranking in their order. -/
theorem pairwise_ranked (reference : String) (candidates : List String) (bound : Binary64) :
    (ranked reference candidates bound).Pairwise fun a b => comesBefore reference a b = true := by
  rw [ranked_eq]
  exact List.pairwise_mergeSort comesBefore_trans comesBefore_total _

/-- No name stands in the ranking twice. -/
theorem nodup_ranked (reference : String) (candidates : List String) (bound : Binary64) :
    (ranked reference candidates bound).Nodup := by
  rw [ranked_eq, (List.mergeSort_perm _ _).nodup_iff]
  exact ((nodup_eraseDups candidates).filter _).filter _

/-- The names in the ranking are the candidates that are similar enough, without the reference. -/
theorem mem_ranked_iff {name : String} :
    name ∈ ranked reference candidates bound ↔
      name ∈ candidates ∧ name ≠ reference ∧ bound.le (closeness reference name) = true := by
  rw [ranked_eq, List.mem_mergeSort, List.mem_filter, List.mem_filter, List.mem_eraseDups,
    decide_eq_true_eq, and_assoc]

/-- A list of distinct names in their order is the ranking if it has the same names. -/
theorem eq_ranked {found : List String} (hnodup : found.Nodup)
    (hordered : found.Pairwise fun a b => comesBefore reference a b = true)
    (hmem : ∀ name, name ∈ found ↔ name ∈ ranked reference candidates bound) :
    found = ranked reference candidates bound := by
  have hperm : found.Perm (ranked reference candidates bound) :=
    (List.perm_ext_iff_of_nodup hnodup (nodup_ranked reference candidates bound)).2 hmem
  -- the order leaves only one list of these names
  apply hperm.eq_of_pairwise _ hordered (pairwise_ranked reference candidates bound)
  intro a b _ _ hab hba
  exact comesBefore_antisymm hab hba

/-- The ranking depends on the set of candidates only. -/
theorem ranked_congr {others : List String} (h : ∀ name, name ∈ others ↔ name ∈ candidates) :
    ranked reference others bound = ranked reference candidates bound := by
  apply eq_ranked (nodup_ranked reference others bound) (pairwise_ranked reference others bound)
  intro name
  rw [mem_ranked_iff, mem_ranked_iff, h]

/-- In a sorted list, what is closed towards the front is kept as the first part. -/
theorem filter_prefix {α : Type} {r : α → α → Prop} {p : α → Bool} {found : List α}
    (hsorted : found.Pairwise r) (hclosed : ∀ a b, r a b → p b = true → p a = true) :
    found.filter p <+: found := by
  induction hsorted with
  | nil => exact List.prefix_rfl
  | @cons a rest hrest _ ih =>
    rw [List.filter_cons]
    split
    · exact (List.prefix_cons_inj a).2 ih
    · next hfirst =>
      -- a later element that is kept would keep the first one too
      have hnone : rest.filter p = [] := by
        rw [List.filter_eq_nil_iff]
        intro b hb hkept
        exact hfirst (hclosed a b (hrest b hb) hkept)
      rw [hnone]
      exact List.nil_prefix

/-- A higher bound keeps the first part of the ranking. -/
theorem ranked_prefix {higher : Binary64} (candidates : List String)
    (h : bound.le higher = true) :
    ranked reference candidates higher <+: ranked reference candidates bound := by
  have hkept : (ranked reference candidates bound).filter (fun name =>
      higher.le (closeness reference name)) = ranked reference candidates higher := by
    apply eq_ranked ((nodup_ranked reference candidates bound).filter _)
      ((pairwise_ranked reference candidates bound).filter _)
    intro name
    rw [List.mem_filter, mem_ranked_iff, mem_ranked_iff]
    constructor
    · rintro ⟨⟨hname, hother, -⟩, hhigher⟩
      exact ⟨hname, hother, hhigher⟩
    · rintro ⟨hname, hother, hhigher⟩
      exact ⟨⟨hname, hother, Binary64.le_trans h hhigher⟩, hhigher⟩
  rw [← hkept]
  apply filter_prefix (pairwise_ranked reference candidates bound)
  intro a b hab
  exact le_closeness_of_comesBefore hab

/-! ## What is offered -/

/-- What is offered for a text among some candidates, if at most `limit` names are asked for and
their similarity has to reach a bound. -/
structure IsOffer (reference : String) (candidates : List String) (limit : Int) (bound : Binary64)
    (offered : List String) : Prop where
  /-- The text itself is not offered. -/
  notReference : reference ∉ offered
  /-- No more names are offered than were asked for. -/
  few : (offered.length : Int) ≤ limit
  /-- No name is offered twice. -/
  distinct : offered.Nodup
  /-- Candidates are offered that are similar enough. -/
  similar : ∀ name ∈ offered, name ∈ candidates ∧ bound.le (closeness reference name) = true
  /-- The names are in the order of the ranking. -/
  ordered : offered.Pairwise fun a b => comesBefore reference a b = true
  /-- Where fewer names are offered than were asked for, no other candidate reaches the bound. -/
  complete : (offered.length : Int) < limit → ∀ name ∈ candidates, name ≠ reference →
    name ∉ offered → bound.le (closeness reference name) = false
  /-- A candidate that reaches the bound and is left out comes after all names that are offered. -/
  best : ∀ name ∈ candidates, name ≠ reference → bound.le (closeness reference name) = true →
    name ∉ offered → ∀ other ∈ offered, comesBefore reference other name = true

/-- The first names of the ranking are what is to be offered. -/
theorem isOffer_take (reference : String) (candidates : List String) {limit : Int}
    (hlimit : 0 < limit) (bound : Binary64) :
    IsOffer reference candidates limit bound
      ((ranked reference candidates bound).take limit.toNat) := by
  have hmem {name : String}
      (hname : name ∈ (ranked reference candidates bound).take limit.toNat) :
      name ∈ candidates ∧ name ≠ reference ∧ bound.le (closeness reference name) = true :=
    mem_ranked_iff.1 (List.mem_of_mem_take hname)
  have hordered := pairwise_ranked reference candidates bound
  constructor
  case notReference => exact fun hname => (hmem hname).2.1 rfl
  case few =>
    rw [List.length_take]
    omega
  case distinct => exact (nodup_ranked reference candidates bound).sublist (List.take_sublist _ _)
  case similar => exact fun name hname => ⟨(hmem hname).1, (hmem hname).2.2⟩
  case ordered => exact hordered.sublist (List.take_sublist _ _)
  case complete =>
    intro hless name hname hother hleft
    -- the ranking ends before the limit, so that nothing of it is left out
    rw [List.length_take] at hless
    rw [List.take_of_length_le (by omega)] at hleft
    rw [← Bool.not_eq_true]
    intro hreach
    exact hleft (mem_ranked_iff.2 ⟨hname, hother, hreach⟩)
  case best =>
    intro name hname hother hreach hleft before hbefore
    have hranked : name ∈ ranked reference candidates bound :=
      mem_ranked_iff.2 ⟨hname, hother, hreach⟩
    rw [← List.take_append_drop limit.toNat (ranked reference candidates bound)] at hranked hordered
    have hrest := (List.mem_append.1 hranked).resolve_left hleft
    exact (List.pairwise_append.1 hordered).2.2 before hbefore name hrest

/-- Among texts the names that are offered are the first of the ranking. -/
theorem names_str {limit : Int} {cutoff : Cutoff} (hlimit : 0 < limit)
    (hcutoff : cutoff.isValid = true) (reference : String) (candidates : List String) :
    names reference (candidates.map Value.str) limit cutoff =
      .ok ((ranked reference candidates cutoff.value).take limit.toNat) := by
  have hnames : ∀ candidate ∈ candidates.map Value.str, candidate.IsName := by
    simp [Value.isName_str]
  have hmapM : (candidates.map Value.str).mapM name? = .ok (candidates.map some) := by
    rw [List.mapM_map]
    exact List.mapM_pure
  have hsome : (candidates.map some).filterMap id = candidates := by
    rw [List.filterMap_map, Function.id_comp, List.filterMap_some]
  unfold names
  rw [any_isCollection_eq_false hnames, if_neg (Int.not_le.2 hlimit), hcutoff, hmapM]
  dsimp only
  rw [hsome]
  rfl

end Suggestion

/-- Suggestions among texts are the first names of a ranking. The text itself is not offered, each
name is offered once, and at most as many as were asked for, all of them candidates that reach the
bound and none behind a candidate that is left out. Neither the order nor the repetition of the
candidates matters, and with a higher limit and a lower bound the same names come first. -/
theorem suggest_ranking {limit : Int} {cutoff : Cutoff} (hlimit : 0 < limit)
    (hcutoff : cutoff.isValid = true) (reference : String) (candidates : List String) :
    ∃ offered,
      Suggestion.names reference (candidates.map Value.str) limit cutoff = .ok offered ∧
      suggest reference (candidates.map Value.str) limit cutoff =
        .ok (Suggestion.text? offered) ∧
      Suggestion.IsOffer reference candidates limit cutoff.value offered ∧
      (∀ others : List String, (∀ name, name ∈ others ↔ name ∈ candidates) →
        suggest reference (others.map Value.str) limit cutoff =
          suggest reference (candidates.map Value.str) limit cutoff) ∧
      ∀ (limit' : Int) (cutoff' : Cutoff), limit ≤ limit' → cutoff'.isValid = true →
        cutoff'.value.le cutoff.value = true →
        ∃ more, Suggestion.names reference (candidates.map Value.str) limit' cutoff' = .ok more ∧
          suggest reference (candidates.map Value.str) limit' cutoff' =
            .ok (Suggestion.text? more) ∧
          offered <+: more := by
  have hnames := Suggestion.names_str hlimit hcutoff reference
  refine ⟨_, hnames candidates, ?_, Suggestion.isOffer_take reference candidates hlimit _, ?_, ?_⟩
  · unfold suggest
    rw [hnames candidates]
    rfl
  · intro others hothers
    unfold suggest
    rw [hnames candidates, hnames others, Suggestion.ranked_congr hothers]
  · intro limit' cutoff' hmore hvalid hlower
    have hsecond := Suggestion.names_str (hlimit.trans_le hmore) hvalid reference candidates
    refine ⟨_, hsecond, ?_, ?_⟩
    · unfold suggest
      rw [hsecond]
      rfl
    -- a lower cutoff adds to the end of the ranking, and a larger limit takes more of it
    · have hranked : Suggestion.ranked reference candidates cutoff.value <+:
          Suggestion.ranked reference candidates cutoff'.value :=
        Suggestion.ranked_prefix candidates hlower
      have hfirst := List.IsPrefix.take hranked limit.toNat
      exact hfirst.trans (List.take_prefix_take_left (by omega))

/-- The name that is offered alone for `getPet` comes first where more names are asked for. -/
theorem suggest_ranking_getPet : ∃ offered more,
    Suggestion.names "getPet" (["listPets", "getPets", "getPets"].map Value.str) 1 .standard =
      .ok offered ∧
    Suggestion.IsOffer "getPet" ["listPets", "getPets", "getPets"] 1 Cutoff.standard.value
      offered ∧
    Suggestion.names "getPet" (["listPets", "getPets", "getPets"].map Value.str) 3 (.whole 0) =
      .ok more ∧
    offered <+: more := by
  have hlimit : (0 : Int) < 1 := by decide
  have hvalid : Cutoff.standard.isValid = true := by decide +kernel
  have hlower : (Cutoff.whole 0).value.le Cutoff.standard.value = true := by decide +kernel
  obtain ⟨offered, hoffered, -, hoffer, -, hmore⟩ :=
    suggest_ranking hlimit hvalid "getPet" ["listPets", "getPets", "getPets"]
  obtain ⟨more, hnames, -, hprefix⟩ := hmore 3 (.whole 0) (by decide) (by decide) hlower
  exact ⟨offered, more, hoffered, hoffer, hnames, hprefix⟩

end FlowCheck
