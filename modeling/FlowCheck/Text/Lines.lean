/-!
# Lines

A text file is read with every kind of line end turned into a line feed.
-/

namespace FlowCheck.Text

/-- Carriage returns, alone or before a line feed, become line feeds. -/
def unixLines : List Char → List Char
  | '\r' :: '\n' :: rest => '\n' :: unixLines rest
  | '\r' :: rest => '\n' :: unixLines rest
  | c :: rest => c :: unixLines rest
  | [] => []

/-- The pieces of a text between line feeds; a text without one is a single piece. -/
def lines (text : String) : List String :=
  (text.toList.splitOn '\n').map String.ofList

/-- Texts one after the other with a separator between neighbours. -/
def joinWith (separator : String) (texts : List String) : String :=
  String.intercalate separator texts

/-- No carriage return is left. -/
theorem not_mem_unixLines (text : List Char) : '\r' ∉ unixLines text := by
  fun_induction unixLines text with
  | case1 rest ih => simpa using ih
  | case2 rest _ ih => simpa using ih
  | case3 c rest _ hc ih =>
    have h : c ≠ '\r' := fun h => hc h
    simp [ih, h.symm]
  | case4 => simp

/-- A text has at least one piece. -/
theorem length_lines_pos (text : String) : 0 < (lines text).length := by
  rw [lines, List.length_map]
  exact List.length_pos_iff.2 (List.splitOn_ne_nil _ _)

/-- A text without a line feed is its only piece. -/
theorem lines_of_notMem {text : String} (h : '\n' ∉ text.toList) : lines text = [text] := by
  rw [lines, List.splitOn_eq_singleton h, List.map_singleton, String.ofList_toList]

/-- A line feed ends a piece. -/
theorem lines_append_lineFeed (text rest : String) :
    lines (text ++ "\n" ++ rest) = lines text ++ lines rest := by
  have hchars : (text ++ "\n" ++ rest).toList = text.toList ++ '\n' :: rest.toList := by
    simp [String.toList_append]
  rw [lines, hchars, List.splitOn_append_cons_self, List.map_append]
  rfl

/-- A text has one piece exactly if it has no line feed. -/
theorem length_lines_eq_one_iff {text : String} :
    (lines text).length = 1 ↔ '\n' ∉ text.toList := by
  constructor
  · intro hone hmem
    obtain ⟨before, after, hsplit⟩ := List.append_of_mem hmem
    -- the piece before the line feed and the one after it
    have hpieces := lines_append_lineFeed (String.ofList before) (String.ofList after)
    have htext : String.ofList before ++ "\n" ++ String.ofList after = text := by
      rw [← String.toList_inj, hsplit]
      simp [String.toList_append]
    rw [htext] at hpieces
    have hbefore := length_lines_pos (String.ofList before)
    have hafter := length_lines_pos (String.ofList after)
    rw [hpieces, List.length_append] at hone
    omega
  · intro h
    rw [lines_of_notMem h, List.length_singleton]

/-- Texts that each end in a line feed have the pieces of the texts, and an empty one at the end. -/
theorem lines_intercalate_lineFeed {texts : List String} (h : texts ≠ []) :
    lines (String.intercalate "\n" texts ++ "\n") = texts.flatMap lines ++ [""] := by
  induction texts with
  | nil => exact absurd rfl h
  | cons text rest ih =>
    cases rest with
    | nil =>
      have hpieces := lines_append_lineFeed text ""
      rw [String.append_empty] at hpieces
      rw [String.intercalate_singleton, List.flatMap_singleton, hpieces]
      rfl
    | cons next rest =>
      have hjoin : String.intercalate "\n" (text :: next :: rest) ++ "\n" =
          text ++ "\n" ++ (String.intercalate "\n" (next :: rest) ++ "\n") := by
        simp [← String.toList_inj, String.toList_append]
      rw [hjoin, lines_append_lineFeed, ih (List.cons_ne_nil _ _),
        List.flatMap_cons (x := text), List.append_assoc]

/-- Texts have one piece each exactly if none of them has a line feed. -/
theorem length_flatMap_lines_eq_iff {texts : List String} :
    (texts.flatMap lines).length = texts.length ↔ ∀ text ∈ texts, '\n' ∉ text.toList := by
  have hle (texts : List String) : texts.length ≤ (texts.flatMap lines).length := by
    induction texts with
    | nil => exact Nat.le_refl _
    | cons text rest ih =>
      have hpos := length_lines_pos text
      rw [List.flatMap_cons, List.length_append, List.length_cons]
      omega
  induction texts with
  | nil => simp
  | cons text rest ih =>
    have hpos := length_lines_pos text
    have hrest := hle rest
    have hfirst : (lines text).length = 1 ↔ '\n' ∉ text.toList := length_lines_eq_one_iff
    rw [List.flatMap_cons, List.length_append, List.length_cons, List.forall_mem_cons]
    -- no text has less than one piece, so that none can have more
    constructor
    · intro hlength
      exact ⟨hfirst.1 (by omega), ih.1 (by omega)⟩
    · rintro ⟨htext, htexts⟩
      rw [hfirst.2 htext, ih.2 htexts, Nat.add_comm]

/-- Texts are their own pieces exactly if none of them has a line feed. -/
theorem flatMap_lines_eq_iff {texts : List String} :
    texts.flatMap lines = texts ↔ ∀ text ∈ texts, '\n' ∉ text.toList := by
  constructor
  · intro h
    rw [← length_flatMap_lines_eq_iff, h]
  · intro h
    induction texts with
    | nil => rfl
    | cons text rest ih =>
      rw [List.forall_mem_cons] at h
      rw [List.flatMap_cons, lines_of_notMem h.1, ih h.2, List.singleton_append]

end FlowCheck.Text
