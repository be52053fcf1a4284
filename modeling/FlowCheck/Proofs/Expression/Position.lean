import FlowCheck.Proofs.Expression.Embedded

/-!
# Where expressions stand in a text

An expression stands in a text wherever a dollar sign comes before a letter, and nowhere else. A
search from left to right that goes on after each token finds the same tokens, since no token
starts inside another (`search_eq_tokens`). Where a text is cut in front of a character that
continues no token, the expressions of both parts together are those of the text
(`embedded_positions`).
-/

namespace FlowCheck

namespace Text

variable {p : Char → Bool}

/-- Nothing is dropped at the end before a character that is kept. -/
theorem dropEndWhile_eq_self {text : List Char} (h : ∀ c ∈ text.getLast?, p c = false) :
    dropEndWhile p text = text := by
  have hkeep : text.reverse.dropWhile p = text.reverse := by
    cases hreverse : text.reverse with
    | nil => rfl
    | cons c rest =>
      refine List.dropWhile_cons_of_neg (Bool.eq_false_iff.1 (h c ?_))
      rw [← List.head?_reverse, hreverse]
      rfl
  rw [dropEndWhile, hkeep, List.reverse_reverse]

/-- A run does not go beyond a character that ends it. -/
theorem takeWhile_append_of_ends (text : List Char) {rest : List Char}
    (h : ∀ c ∈ rest.head?, p c = false) : (text ++ rest).takeWhile p = text.takeWhile p := by
  have hrest : rest.takeWhile p = [] := by
    cases rest with
    | nil => rfl
    | cons c rest => exact List.takeWhile_cons_of_neg (Bool.eq_false_iff.1 (h c rfl))
  induction text with
  | nil => exact hrest
  | cons c text ih => rw [List.cons_append, List.takeWhile_cons, List.takeWhile_cons, ih]

end Text

namespace Expression

/-- Letters continue a token. -/
theorem isTokenChar_of_isLetter {c : Char} (h : isLetter c = true) : isTokenChar c = true := by
  simp [isTokenChar, h]

/-- A dollar sign is not part of the run of token characters before it. -/
theorem dollar_notMem_takeWhile (text : List Char) : '$' ∉ text.takeWhile isTokenChar :=
  fun hmem => absurd (List.mem_takeWhile_imp hmem) (by decide)

/-- An expression starts at a position of the text: a dollar sign before a letter. -/
def StartsAt (text : List Char) (i : ℕ) : Prop :=
  text[i]? = some '$' ∧ ∃ c, text[i + 1]? = some c ∧ isLetter c = true

instance (text : List Char) : DecidablePred (StartsAt text) := fun i =>
  decidable_of_iff (text[i]? = some '$' ∧ text[i + 1]?.any isLetter = true) <| by
    rw [StartsAt, Option.any_eq_true]

/-- What is written of an expression that starts at a position: the dollar sign and the longest run
of token characters after it, without the points at its end. -/
def tokenAt (text : List Char) (i : ℕ) : List Char :=
  '$' :: Text.dropEndWhile (· == '.') ((text.drop (i + 1)).takeWhile isTokenChar)

/-- The tokens that a search from left to right finds, which goes on after each token. -/
def search : List Char → List (List Char)
  | [] => []
  | c :: rest =>
    if c = '$' && rest.head?.any isLetter then
      (c :: Text.dropEndWhile (· == '.') (rest.takeWhile isTokenChar)) ::
        search (rest.dropWhile isTokenChar)
    else search rest
termination_by text => text.length
decreasing_by
  · exact Nat.lt_succ_of_le (List.dropWhile_sublist isTokenChar).length_le
  · exact Nat.lt_succ_self _

/-- There is one token for each position at which an expression starts. -/
theorem tokens_eq_map (text : List Char) :
    tokens text = ((List.range text.length).filter (StartsAt text ·)).map (tokenAt text) := by
  induction text with
  | nil => rfl
  | cons c rest ih =>
    have hstart : StartsAt (c :: rest) 0 ↔ (c = '$' && rest.head?.any isLetter) = true := by
      rw [StartsAt, Bool.and_eq_true, decide_eq_true_eq, Option.any_eq_true,
        List.head?_eq_getElem?]
      exact and_congr_left fun _ => Option.some_inj
    -- the other positions are those of the rest, moved by one
    have hlater : ((List.range rest.length).map Nat.succ).filter (StartsAt (c :: rest) ·) =
        ((List.range rest.length).filter (StartsAt rest ·)).map Nat.succ := List.filter_map
    rw [tokens, List.length_cons, List.range_succ_eq_map, List.filter_cons, hlater]
    by_cases h : StartsAt (c :: rest) 0
    · obtain rfl : c = '$' := Option.some.inj h.1
      rw [if_pos (hstart.1 h), if_pos (decide_eq_true h), List.map_cons, List.map_map, ih]
      rfl
    · rw [if_neg (mt hstart.2 h), if_neg (by simpa using h), List.map_map, ih]
      rfl

/-- No token starts inside another. -/
theorem search_eq_tokens (text : List Char) : search text = tokens text := by
  induction text using search.induct with
  | case1 => rw [search, tokens]
  | case2 c rest hstart ih =>
    rw [search, tokens, if_pos hstart, if_pos hstart, ih,
      ← tokens_append (dollar_notMem_takeWhile rest), List.takeWhile_append_dropWhile]
  | case3 c rest hstart ih => rw [search, tokens, if_neg hstart, if_neg hstart, ih]

/-- The tokens of a text that is cut in front of a character that continues no token. -/
theorem tokens_append_of_ends (text : List Char) {rest : List Char}
    (h : ∀ c ∈ rest.head?, isTokenChar c = false) :
    tokens (text ++ rest) = tokens text ++ tokens rest := by
  induction text with
  | nil => rfl
  | cons c text ih =>
    have hhead : (text ++ rest).head?.any isLetter = text.head?.any isLetter := by
      cases text with
      | cons => rfl
      | nil =>
        -- the rest does not start with a letter, since letters continue a token
        refine (Option.any_eq_false _ _).2 fun c hc => Bool.eq_false_iff.2 fun hletter => ?_
        exact Bool.false_ne_true ((h c hc).symm.trans (isTokenChar_of_isLetter hletter))
    rw [List.cons_append, tokens, tokens, hhead, Text.takeWhile_append_of_ends text h, ih]
    split <;> rfl

/-- The text is the token of an expression: a dollar sign, a letter and characters that continue a
token, without a point at the end. -/
def IsToken (text : String) : Prop :=
  ∃ c rest, text.toList = '$' :: c :: rest ∧ isLetter c = true ∧
    (∀ d ∈ rest, isTokenChar d = true) ∧ ∀ d ∈ (c :: rest).getLast?, d ≠ '.'

/-- A token is all that is found in it. -/
theorem tokens_of_isToken {token : String} (h : IsToken token) :
    tokens token.toList = [token.toList] := by
  obtain ⟨c, rest, htoken, hletter, hrest, hlast⟩ := h
  have hall : ∀ d ∈ c :: rest, isTokenChar d = true :=
    List.forall_mem_cons.2 ⟨isTokenChar_of_isLetter hletter, hrest⟩
  have hrun : (c :: rest).takeWhile isTokenChar = c :: rest := List.takeWhile_eq_self_iff.2 hall
  have hdrop : Text.dropEndWhile (· == '.') (c :: rest) = c :: rest :=
    Text.dropEndWhile_eq_self fun d hd => beq_false_of_ne (hlast d hd)
  have hdollar : '$' ∉ c :: rest := fun hmem => absurd (hall _ hmem) (by decide)
  have hnone : tokens (c :: rest) = [] := by
    rw [← List.append_nil (c :: rest), tokens_append hdollar]
    rfl
  rw [htoken, tokens_dollar hletter, hrun, hdrop, hnone]

/-- A token is an expression as a whole. -/
theorem ofText?_dollar (token : List Char) :
    ofText? (String.ofList ('$' :: token)) =
      some ⟨Reference.ofText ('$' :: token), String.ofList ('$' :: token)⟩ := by
  rw [ofText?, if_pos, String.toList_ofList]
  rw [isExpression, String.toList_ofList]
  rfl

/-- There is one expression for each position at which an expression starts. -/
theorem map_some_embedded (text : String) :
    (embedded text).map some =
      ((List.range text.toList.length).filter (StartsAt text.toList ·)).map fun i =>
        ofText? (String.ofList (tokenAt text.toList i)) := by
  rw [embedded, tokens_eq_map, List.map_map, List.map_map]
  exact List.map_congr_left fun i _ => (ofText?_dollar _).symm

/-- The expressions of a text that is cut in front of a character that continues no token. -/
theorem embedded_append (text : String) {rest : String}
    (h : ∀ c ∈ rest.toList.head?, isTokenChar c = false) :
    embedded (text ++ rest) = embedded text ++ embedded rest := by
  rw [embedded, String.toList_append, tokens_append_of_ends _ h, List.map_append]
  rfl

/-- A token holds the expression that it is, and no other. -/
theorem exists_embedded_of_isToken {token : String} (h : IsToken token) :
    ∃ e, ofText? token = some e ∧ embedded token = [e] := by
  refine ⟨⟨Reference.ofText token.toList, token⟩, ?_, ?_⟩
  · obtain ⟨c, rest, htoken, -⟩ := h
    rw [← @String.ofList_toList token, htoken, ofText?_dollar, String.toList_ofList]
  · rw [embedded, tokens_of_isToken h, List.map_singleton, String.ofList_toList]

/-- The expressions inside a text stand at the positions where a dollar sign comes before a letter,
one at each, in order; each is what its token is as a whole. If the text ends in front of a
character that continues no token, what follows has the expressions that it has by itself. In
particular a token is found as the expression that it is, whatever text there is before it and after
it. -/
theorem embedded_positions (text : String) :
    (∃ positions : List ℕ, positions.Pairwise (· < ·) ∧
      (∀ i, i ∈ positions ↔ StartsAt text.toList i) ∧
      (embedded text).map some =
        positions.map fun i => ofText? (String.ofList (tokenAt text.toList i))) ∧
      (embedded text).map (·.raw.toList) = search text.toList ∧
      ∀ rest : String, (∀ c ∈ rest.toList.head?, isTokenChar c = false) →
        embedded (text ++ rest) = embedded text ++ embedded rest ∧
        ∀ token, IsToken token → ∃ e, ofText? token = some e ∧
          embedded (text ++ token ++ rest) = embedded text ++ e :: embedded rest := by
  refine ⟨⟨_, List.pairwise_lt_range.filter _, fun i => ?_, map_some_embedded text⟩, ?_,
    fun rest hrest => ⟨embedded_append text hrest, fun token htoken => ?_⟩⟩
  · rw [List.mem_filter, List.mem_range, decide_eq_true_eq]
    exact and_iff_right_of_imp fun h => (List.getElem?_eq_some_iff.1 h.1).1
  · rw [embedded, search_eq_tokens, List.map_map]
    exact (List.map_congr_left fun _ _ => String.toList_ofList).trans (List.map_id _)
  · obtain ⟨e, he, hfound⟩ := exists_embedded_of_isToken htoken
    -- the token starts with a dollar sign, which continues no token of the text before it
    have hstart : ∀ c ∈ token.toList.head?, isTokenChar c = false := by
      obtain ⟨c, rest, htext, -⟩ := htoken
      rw [htext]
      exact fun d hd => Option.some.inj hd ▸ rfl
    refine ⟨e, he, ?_⟩
    rw [embedded_append _ hrest, embedded_append _ hstart, hfound, List.append_assoc,
      List.singleton_append]

/-- A token is found between a word and a comma as it is by itself. -/
theorem embedded_bearer :
    (∀ c ∈ ", again".toList.head?, isTokenChar c = false) ∧ IsToken "$steps.login.outputs.token" ∧
      ∃ e, ofText? "$steps.login.outputs.token" = some e ∧
        embedded ("Bearer " ++ "$steps.login.outputs.token" ++ ", again") =
          embedded "Bearer " ++ e :: embedded ", again" := by
  have hends : ∀ c ∈ ", again".toList.head?, isTokenChar c = false :=
    fun c hc => Option.some.inj hc ▸ rfl
  have htoken : IsToken "$steps.login.outputs.token" :=
    ⟨'s', "teps.login.outputs.token".toList, rfl, by decide, List.all_eq_true.1 (by decide),
      fun d hd => Option.some.inj hd ▸ by decide⟩
  exact ⟨hends, htoken, ((embedded_positions "Bearer ").2.2 ", again" hends).2 _ htoken⟩

/-- Before a digit or another dollar sign nothing starts, and points at the end are left out. -/
example : (embedded "$$inputs.a..$5.00 $statusCode.").map (·.raw) =
    ["$inputs.a", "$statusCode"] := by decide

end Expression

end FlowCheck
