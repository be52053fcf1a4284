import FlowCheck.Console.Picture

/-!
# Markup

Text for the console carries its styles as tags between square brackets. The first character of a
tag is a small letter or one of `#`, `/` and `@`, and no other bracket opens before the tag ends.
Of the backslashes in front of a tag every second one is dropped; one that is left over makes the
tag ordinary text. What is printed has no tags, and pictures in place of their names.
-/

namespace FlowCheck.Console.Markup

/-- A character with which a tag can start. -/
def startsTag (c : Char) : Bool :=
  ('a' ≤ c && c ≤ 'z') || c = '#' || c = '/' || c = '@'

/-- A character inside a tag. -/
def insideTag (c : Char) : Bool :=
  c ≠ '[' && c ≠ ']'

/-- The tag with which a text starts, and the text after it. -/
def tag? (text : List Char) : Option (List Char × List Char) :=
  match text with
  | '[' :: c :: rest =>
    if startsTag c then
      match rest.dropWhile insideTag with
      | ']' :: tail => some ('[' :: c :: rest.takeWhile insideTag ++ [']'], tail)
      | _ => none
    else none
  | _ => none

/-- A tag and the text after it are shorter than the text. -/
theorem length_lt_of_tag? {text tag tail : List Char} (h : tag? text = some (tag, tail)) :
    tail.length < text.length := by
  unfold tag? at h
  split at h
  · next c rest =>
    split at h
    · split at h
      · next tail' eq =>
        have le := (List.dropWhile_suffix (l := rest) insideTag).length_le
        simp only [Option.some.injEq, Prod.mk.injEq] at h
        obtain ⟨_, rfl⟩ := h
        simp only [eq, List.length_cons] at le
        simp only [List.length_cons]
        omega
      · simp at h
    · simp at h
  · simp at h

/-- A part of a marked-up text. -/
inductive Piece where
  /-- An ordinary character. -/
  | char (c : Char)
  /-- A tag with a number of backslashes in front of it. -/
  | tag (backslashes : Nat) (text : List Char)
deriving DecidableEq, Inhabited

/-- The parts of a text. -/
def pieces (text : List Char) : List Piece :=
  match text with
  | [] => []
  | c :: rest =>
    match _ : tag? ((c :: rest).dropWhile (· == '\\')) with
    | some (tag, tail) => .tag ((c :: rest).takeWhile (· == '\\')).length tag :: pieces tail
    | none => .char c :: pieces rest
termination_by text.length
decreasing_by
  · next h =>
    have lt := length_lt_of_tag? h
    have le := (List.dropWhile_suffix (l := c :: rest) (· == '\\')).length_le
    omega
  · simp

/-- A part with its tag made ordinary. -/
def Piece.escaped : Piece → List Char
  | .char c => [c]
  | .tag backslashes text => List.replicate (2 * backslashes + 1) '\\' ++ text

/-- A text in which all tags are made ordinary. A single backslash at the end is doubled, so that
it does not meet a tag that follows. -/
def escape (text : String) : String :=
  let marked := (pieces text.toList).flatMap Piece.escaped
  match marked.reverse with
  | '\\' :: '\\' :: _ => String.ofList marked
  | '\\' :: _ => String.ofList (marked ++ ['\\'])
  | _ => String.ofList marked

/-- The stretches of text between tags. Tags that are ordinary are stretches of their own. -/
def stretches : List Piece → List (List Char)
  | [] => [[]]
  | .char c :: rest =>
    match stretches rest with
    | first :: others => (c :: first) :: others
    | [] => [[c]]
  | .tag backslashes text :: rest =>
    [] :: List.replicate (backslashes / 2) '\\' ::
      (if backslashes % 2 = 1 then text else []) :: stretches rest

/-- A backslash in front of an opening bracket is dropped. -/
def dropBackslashes : List Char → List Char
  | '\\' :: '[' :: rest => '[' :: dropBackslashes rest
  | c :: rest => c :: dropBackslashes rest
  | [] => []

/-- What is printed for a marked-up text. -/
def plain (text : String) : List Char :=
  (stretches (pieces text.toList)).flatMap fun stretch =>
    Picture.replaceAll (dropBackslashes stretch)

/-- A text in the style `style`. -/
def styled (style text : String) : String :=
  "[" ++ style ++ "]" ++ text ++ "[/" ++ style ++ "]"

end FlowCheck.Console.Markup
