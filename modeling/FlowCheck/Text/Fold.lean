/-!
# Letters without case

How a text is compared with a word of ASCII letters when case does not matter. Besides the capital
letters, three characters outside ASCII stand for ASCII letters: the kelvin sign for `k`, and in
the wider of the two comparisons the dotless i for `i` and the long s for `s`.
-/

namespace FlowCheck.Text

/-- The small letter for a letter of ASCII or the kelvin sign. -/
def lowerChar (c : Char) : Char :=
  if c = '\u212a' then 'k' else c.toLower

/-- The text with small letters. -/
def lower (text : String) : String :=
  String.ofList (text.toList.map lowerChar)

/-- The small letter that a character stands for when case does not matter. -/
def foldChar (c : Char) : Char :=
  if c = '\u0131' then 'i'
  else if c = '\u017f' then 's'
  else lowerChar c

/-- The text with every character replaced by the small letter that it stands for. -/
def fold (text : List Char) : List Char :=
  text.map foldChar

/-- What follows the first occurrence of a word in a text. -/
def after? (word : List Char) : List Char → Option (List Char)
  | [] => if word.isEmpty then some [] else none
  | c :: rest =>
    match word.isPrefixOf? (c :: rest) with
    | some tail => some tail
    | none => after? word rest

/-- The text holds the word. -/
def holds (text : List Char) (word : String) : Bool :=
  (after? word.toList text).isSome

/-- A text that starts with a word is the word and what follows. -/
theorem eq_append_of_isPrefixOf? {word text tail : List Char}
    (h : word.isPrefixOf? text = some tail) : text = word ++ tail := by
  induction word generalizing text with
  | nil => exact Option.some.inj h
  | cons c word ih =>
    cases text with
    | nil => exact nomatch h
    | cons d text =>
      change (if c == d then word.isPrefixOf? text else none) = some tail at h
      split at h
      · next eq => rw [beq_iff_eq.1 eq, ih h, List.cons_append]
      · simp at h

/-- A word and a text after it start with the word. -/
theorem isPrefixOf?_append (word tail : List Char) :
    word.isPrefixOf? (word ++ tail) = some tail := by
  induction word with
  | nil => rfl
  | cons c word ih =>
    change (if c == c then word.isPrefixOf? (word ++ tail) else none) = some tail
    rw [if_pos (beq_self_eq_true c), ih]

end FlowCheck.Text
