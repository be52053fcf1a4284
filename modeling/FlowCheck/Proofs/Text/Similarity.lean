import FlowCheck.Text.Similarity
import FlowCheck.Proofs.Number.Rounding
import Mathlib.Algebra.Order.Group.Multiset

/-!
# The estimates bound the similarity

The characters in matching blocks are characters that both texts share, and no more of them are
shared than either text has. Rounding keeps the order of the three ratios, so that a text whose
similarity reaches a bound reaches it in both estimates too (`similarity_le_sharedSimilarity`,
`similarity_le_lengthSimilarity`).

That the blocks match is shown for the search with its index: a block is only extended by equal
characters, whatever characters the index leaves out.
-/

namespace FlowCheck.Text

variable {first second text reference : List Char}

/-! ## Common blocks -/

/-- The block lies in both texts and has the same characters in both. -/
structure Block.IsCommon (block : Block) (first second : List Char) : Prop where
  /-- It ends in the first text. -/
  inFirst : block.first + block.size ≤ first.length
  /-- It ends in the second text. -/
  inSecond : block.second + block.size ≤ second.length
  /-- Its characters are those of both texts. -/
  same : ∀ k < block.size, first[block.first + k]? = second[block.second + k]?

/-- A block without characters is common to both texts wherever it lies in them. -/
theorem Block.isCommon_empty {i j : Nat} (hi : i ≤ first.length) (hj : j ≤ second.length) :
    Block.IsCommon ⟨i, j, 0⟩ first second :=
  ⟨hi, hj, fun _ hk => absurd hk (Nat.not_lt_zero _)⟩

/-- A common block and an equal character after it make a common block. -/
theorem Block.IsCommon.extend {i j size : Nat} {c : Char}
    (h : Block.IsCommon ⟨i, j, size⟩ first second) (hfirst : first[i + size]? = some c)
    (hsecond : second[j + size]? = some c) : Block.IsCommon ⟨i, j, size + 1⟩ first second := by
  have hi : i + size < first.length := (List.getElem?_eq_some_iff.1 hfirst).1
  have hj : j + size < second.length := (List.getElem?_eq_some_iff.1 hsecond).1
  refine ⟨hi, hj, fun k hk => ?_⟩
  rcases Nat.lt_succ_iff_lt_or_eq.1 hk with hlt | rfl
  · exact h.same k hlt
  · exact hfirst.trans hsecond.symm

/-- The characters of a common block, as part of each text. -/
theorem Block.IsCommon.take_drop_eq {block : Block} (h : block.IsCommon first second) :
    (first.drop block.first).take block.size = (second.drop block.second).take block.size := by
  ext1 k
  simp only [List.getElem?_take, List.getElem?_drop]
  split
  · exact h.same k ‹_›
  · rfl

/-! ## The search for the longest block -/

/-- What the equal characters at the start of two texts are. -/
theorem commonStart_spec (as bs : List Char) :
    commonStart as bs ≤ as.length ∧ commonStart as bs ≤ bs.length ∧
      ∀ k < commonStart as bs, as[k]? = bs[k]? := by
  fun_induction commonStart as bs with
  | case1 a as bs ih =>
    obtain ⟨hfirst, hsecond, hsame⟩ := ih
    refine ⟨Nat.succ_le_succ hfirst, Nat.succ_le_succ hsecond, fun k hk => ?_⟩
    cases k with
    | zero => rfl
    | succ k => exact hsame k (Nat.lt_of_succ_lt_succ hk)
  | case2 => simp
  | case3 => simp

/-- The sizes stand for common blocks that end before place `i` of the first text, each before its
own place of the second one. -/
def AreEnds (first second : List Char) (i : Nat) (sizes : List Nat) : Prop :=
  ∀ j size, (0 :: sizes)[j]? = some size →
    size ≤ i ∧ size ≤ j ∧ Block.IsCommon ⟨i - size, j - size, size⟩ first second

/-- Before the first character no block has ended. -/
theorem areEnds_zero : AreEnds first second 0 (second.map fun _ => 0) := by
  intro j size hsize
  have hmem : size ∈ 0 :: second.map fun _ => 0 := List.mem_of_getElem? hsize
  have hzero : size = 0 := by
    simp only [List.mem_cons, List.mem_map] at hmem
    omega
  subst hzero
  have hj := (List.getElem?_eq_some_iff.1 hsize).1
  rw [List.length_cons, List.length_map] at hj
  exact ⟨Nat.le_refl _, Nat.zero_le _, Block.isCommon_empty (Nat.zero_le _) (by omega)⟩

/-- The next character of the first text extends the blocks that end before it. -/
theorem AreEnds.blockEnds {indexed : Char → Bool} {i : Nat} {a : Char} {sizes : List Nat}
    (h : AreEnds first second i sizes) (ha : first[i]? = some a) :
    AreEnds first second (i + 1) (blockEnds indexed a second sizes) := by
  have hi : i < first.length := (List.getElem?_eq_some_iff.1 ha).1
  intro j size hsize
  cases j with
  | zero =>
    cases hsize
    exact ⟨Nat.zero_le _, Nat.le_refl _, Block.isCommon_empty hi (Nat.zero_le _)⟩
  | succ j =>
    -- the size at `j` of the row before becomes the one at `j + 1`, and one more if it is extended
    rw [List.getElem?_cons_succ, Text.blockEnds, List.getElem?_zipWith_eq_some] at hsize
    obtain ⟨b, before, hb, hbefore, rfl⟩ := hsize
    obtain ⟨hfirst, hsecond, hcommon⟩ := h j before hbefore
    split
    · next hequal =>
      obtain rfl : b = a := by
        simp only [Bool.and_eq_true, decide_eq_true_eq] at hequal
        exact hequal.1
      refine ⟨Nat.succ_le_succ hfirst, Nat.succ_le_succ hsecond, ?_⟩
      rw [Nat.add_sub_add_right, Nat.add_sub_add_right]
      apply hcommon.extend
      · rwa [Nat.sub_add_cancel hfirst]
      · rwa [Nat.sub_add_cancel hsecond]
    · have hj : j < second.length := (List.getElem?_eq_some_iff.1 hb).1
      exact ⟨Nat.zero_le _, Nat.zero_le _, Block.isCommon_empty hi hj⟩

/-- The larger block is the one from before or one of those that end at this place. -/
theorem largerBlock_cases (i j : Nat) (best : Block) (sizes : List Nat) :
    largerBlock i j best sizes = best ∨
      ∃ k size, sizes[k]? = some size ∧
        largerBlock i j best sizes = ⟨i + 1 - size, j + k + 1 - size, size⟩ := by
  fun_induction largerBlock i j best sizes with
  | case1 => exact .inl rfl
  | case2 j best size rest next ih =>
    obtain hsame | ⟨k, other, hother, heq⟩ := ih
    · rw [hsame]
      unfold next
      split
      · exact .inr ⟨0, size, rfl, rfl⟩
      · exact .inl rfl
    · refine .inr ⟨k + 1, other, hother, ?_⟩
      rw [heq, Nat.add_right_comm j 1 k, Nat.add_assoc j k 1]

/-- The search leads from a common block to a common block. -/
theorem isCommon_scanBlocks (indexed : Char → Bool) {i : Nat} {best : Block} {sizes : List Nat}
    {rest : List Char} (hrest : rest = first.drop i) (hbest : best.IsCommon first second)
    (hsizes : AreEnds first second i sizes) :
    (scanBlocks indexed second i best sizes rest).IsCommon first second := by
  -- the sizes are always those of common blocks that end with the character before
  induction rest generalizing i best sizes with
  | nil => exact hbest
  | cons a rest ih =>
    have ha : first[i]? = some a := by
      rw [← List.head?_drop, ← hrest]
      rfl
    have hends : AreEnds first second (i + 1) (Text.blockEnds indexed a second sizes) :=
      hsizes.blockEnds ha
    have hnext : rest = first.drop (i + 1) := by
      rw [← List.tail_drop, ← hrest]
      rfl
    apply ih hnext _ hends
    obtain hsame | ⟨k, size, hsize, heq⟩ :=
      largerBlock_cases i 0 best (Text.blockEnds indexed a second sizes)
    · rwa [hsame]
    · rw [heq, Nat.zero_add]
      exact (hends (k + 1) size hsize).2.2

/-- A common block stays one with the equal characters before it. -/
theorem Block.IsCommon.before {i j size n : Nat} (h : Block.IsCommon ⟨i, j, size⟩ first second)
    (hn : n = commonStart (first.take i).reverse (second.take j).reverse) :
    n ≤ i ∧ n ≤ j ∧ Block.IsCommon ⟨i - n, j - n, n + size⟩ first second := by
  obtain ⟨hfirst, hsecond, hsame⟩ := h
  obtain ⟨hi, hj, hequal⟩ := commonStart_spec (first.take i).reverse (second.take j).reverse
  rw [← hn] at hi hj hequal
  simp only [List.length_reverse, List.length_take] at hi hj
  dsimp only at hfirst hsecond hsame
  refine ⟨by omega, by omega, by dsimp only; omega, by dsimp only; omega, fun k hk => ?_⟩
  dsimp only at hk ⊢
  rcases Nat.lt_or_ge k n with hlt | hge
  · -- counted from the end of what stands before, it is the character `n - 1 - k`
    have hback := hequal (n - 1 - k) (by omega)
    rw [List.getElem?_reverse (by rw [List.length_take]; omega),
      List.getElem?_reverse (by rw [List.length_take]; omega), List.getElem?_take,
      List.getElem?_take, List.length_take, List.length_take, if_pos (by omega),
      if_pos (by omega)] at hback
    convert hback using 2 <;> omega
  · have hinside := hsame (k - n) (by omega)
    convert hinside using 2 <;> omega

/-- A common block stays one with the equal characters after it. -/
theorem Block.IsCommon.after {i j size n : Nat} (h : Block.IsCommon ⟨i, j, size⟩ first second)
    (hn : n = commonStart (first.drop (i + size)) (second.drop (j + size))) :
    Block.IsCommon ⟨i, j, size + n⟩ first second := by
  obtain ⟨hfirst, hsecond, hsame⟩ := h
  obtain ⟨hi, hj, hequal⟩ := commonStart_spec (first.drop (i + size)) (second.drop (j + size))
  rw [← hn] at hi hj hequal
  rw [List.length_drop] at hi hj
  dsimp only at hfirst hsecond hsame
  refine ⟨by dsimp only; omega, by dsimp only; omega, fun k hk => ?_⟩
  dsimp only at hk ⊢
  rcases Nat.lt_or_ge k size with hlt | hge
  · exact hsame k hlt
  · have hbehind := hequal (k - size) (by omega)
    rw [List.getElem?_drop, List.getElem?_drop] at hbehind
    convert hbehind using 2 <;> omega

/-- What is found as the longest block is common to both texts. -/
theorem isCommon_longestBlock (indexed : Char → Bool) (first second : List Char) :
    (longestBlock indexed first second).IsCommon first second := by
  have hstart : Block.IsCommon ⟨0, 0, 0⟩ first second :=
    Block.isCommon_empty (Nat.zero_le _) (Nat.zero_le _)
  have hfound := isCommon_scanBlocks indexed List.drop_zero.symm hstart areEnds_zero
  unfold longestBlock
  dsimp only
  generalize scanBlocks indexed second 0 ⟨0, 0, 0⟩ (second.map fun _ => 0) first = found
    at hfound ⊢
  obtain ⟨hi, hj, hbefore⟩ := hfound.before rfl
  apply hbefore.after
  -- what stands behind the block is where it was
  rw [← Nat.add_assoc, ← Nat.add_assoc, Nat.sub_add_cancel hi, Nat.sub_add_cancel hj]

/-! ## Shared characters -/

/-- The shared characters are those of the common part of both texts as multisets. -/
theorem shared_eq (first second : List Char) :
    shared first second = ((first : Multiset Char) ∩ (second : Multiset Char)).card := by
  rw [Multiset.coe_inter, Multiset.coe_card]
  fun_induction shared first second with
  | case1 other => rw [List.nil_bagInter, List.length_nil]
  | case2 other c rest hmem ih =>
    rw [List.contains_iff_mem] at hmem
    rw [List.cons_bagInter_of_mem _ hmem, List.length_cons, ih]
  | case3 other c rest hmem ih =>
    rw [List.contains_iff_mem] at hmem
    rw [List.cons_bagInter_of_not_mem _ hmem, ih]

/-- No more characters are shared than the first text has. -/
theorem shared_le_left (first second : List Char) : shared first second ≤ first.length := by
  rw [shared_eq, ← Multiset.coe_card]
  exact Multiset.card_le_card Multiset.inter_le_left

/-- No more characters are shared than the second text has. -/
theorem shared_le_right (first second : List Char) : shared first second ≤ second.length := by
  rw [shared_eq, ← Multiset.coe_card]
  exact Multiset.card_le_card Multiset.inter_le_right

/-- A text shares all of its characters with itself. -/
theorem shared_self (text : List Char) : shared text text = text.length := by
  apply Nat.le_antisymm (shared_le_left text text)
  rw [shared_eq, ← Multiset.coe_card]
  exact Multiset.card_le_card (Multiset.le_inter le_rfl le_rfl)

/-- What is shared by the parts of two texts is shared by the texts. -/
theorem shared_append_le (a b c d : List Char) :
    shared a c + shared b d ≤ shared (a ++ b) (c ++ d) := by
  simp only [shared_eq, ← Multiset.coe_add, ← Multiset.card_add]
  apply Multiset.card_le_card
  apply Multiset.le_inter
  · exact add_le_add Multiset.inter_le_left Multiset.inter_le_left
  · exact add_le_add Multiset.inter_le_right Multiset.inter_le_right

/-- The characters of a common block are shared besides those shared before it and after it. -/
theorem Block.IsCommon.shared_le {block : Block} (h : block.IsCommon first second) :
    block.size + shared (first.take block.first) (second.take block.second) +
        shared (first.drop (block.first + block.size)) (second.drop (block.second + block.size)) ≤
      shared first second := by
  -- the texts are put together from what is before the block, the block, and what is after it
  have hhead := shared_append_le (first.take block.first)
    ((first.drop block.first).take block.size) (second.take block.second)
    ((second.drop block.second).take block.size)
  have htail := shared_append_le (first.take (block.first + block.size))
    (first.drop (block.first + block.size)) (second.take (block.second + block.size))
    (second.drop (block.second + block.size))
  have hblock : shared ((first.drop block.first).take block.size)
      ((second.drop block.second).take block.size) = block.size := by
    have hend := h.inSecond
    rw [h.take_drop_eq, shared_self, List.length_take, List.length_drop]
    omega
  rw [← List.take_add, ← List.take_add, hblock] at hhead
  rw [List.take_append_drop, List.take_append_drop] at htail
  omega

/-- The matched characters are shared, in however many rounds they are found. -/
theorem matchedWithin_le_shared (indexed : Char → Bool) (rounds : Nat) (first second : List Char) :
    matchedWithin indexed rounds first second ≤ shared first second := by
  fun_induction matchedWithin indexed rounds first second with
  | case1 => exact Nat.zero_le _
  | case2 => exact Nat.zero_le _
  | case3 rounds first second block hsize ihbefore ihafter =>
    have hcommon : block.IsCommon first second := isCommon_longestBlock indexed first second
    have hshared := hcommon.shared_le
    omega

/-- The matched characters of two texts are shared by them. -/
theorem matched_le_shared (text reference : List Char) :
    matched text reference ≤ shared text reference :=
  matchedWithin_le_shared _ _ _ _

/-! ## Ratios -/

/-- More characters make no smaller ratio. -/
theorem ratio_le_ratio {count more : Nat} (h : count ≤ more) (text reference : List Char) :
    (ratio count text reference).le (ratio more text reference) = true := by
  unfold ratio
  dsimp only
  split
  · exact Binary64.le_refl (by decide)
  · next htotal =>
    exact Binary64.ofRatio_le_ofRatio (Nat.pos_of_ne_zero htotal) (Nat.mul_le_mul_left 2 h)

/-- The similarity is a number. -/
theorem similarity_ne_nan (text reference : List Char) : similarity text reference ≠ .nan := by
  unfold similarity ratio
  dsimp only
  split
  · decide
  · next htotal => exact Binary64.ofRatio_ne_nan _ (Nat.pos_of_ne_zero htotal)

/-- The estimate from the shared characters is no smaller than the similarity. -/
theorem similarity_le_sharedSimilarity (text reference : List Char) :
    (similarity text reference).le (sharedSimilarity text reference) = true :=
  ratio_le_ratio (matched_le_shared text reference) text reference

/-- The estimate from the lengths is no smaller than the one from the shared characters. -/
theorem sharedSimilarity_le_lengthSimilarity (text reference : List Char) :
    (sharedSimilarity text reference).le (lengthSimilarity text reference) = true :=
  ratio_le_ratio (Nat.le_min.2 ⟨shared_le_left text reference, shared_le_right text reference⟩)
    text reference

end FlowCheck.Text
