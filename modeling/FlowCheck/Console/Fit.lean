import FlowCheck.Console.Line
import FlowCheck.Text.Blank

/-!
# Texts fitted into a width

A text in a frame asks for the width of its longest line, and every line that turns out wider than
the frame is divided between words. A word that is wider than the frame is folded or cut. The parts
of a divided line, one after the other, are the line (`flatten_divide`).
-/

namespace FlowCheck.Console

/-- What becomes of a word that is wider than the frame. -/
inductive Overflow where
  /-- The word goes on in the next line. -/
  | fold
  /-- The word is cut, and an ellipsis stands for the rest. -/
  | ellipsis
deriving DecidableEq, Inhabited

namespace Fit

/-- The character ends a line when the width of a text is measured. -/
def endsLine (c : Char) : Bool :=
  c = '\n' || ('\x1c' ≤ c && c ≤ '\x1e') || c = '\x85' || c = '\u2028' || c = '\u2029'

/-- The width for which a text asks. Tabs ask for none. -/
def askedWidth (text : List Char) : Nat :=
  widest ((text.splitOnP endsLine).map Text.cells)

/-- White space at the start of a line belongs to the word after it. -/
def joinIndent : List (List Char) → List (List Char)
  | first :: second :: rest =>
    if first.all Text.isBlank then (first ++ second) :: rest else first :: second :: rest
  | short => short

/-- Puts a character before words. White space is never part of the word after it. -/
def addFirst (c : Char) : List (List Char) → List (List Char)
  | (d :: word) :: rest =>
    if Text.isBlank c && !Text.isBlank d then [c] :: (d :: word) :: rest
    else (c :: d :: word) :: rest
  | rest => [c] :: rest

/-- The words of a line, each with the white space after it. -/
def words (line : List Char) : List (List Char) :=
  joinIndent (line.foldr addFirst [])

/-- A line that is being divided. -/
structure Division where
  /-- The parts that are finished, the latest first. -/
  finished : List (List Char)
  /-- The part to which words are added. -/
  part : List Char
  /-- The width that is taken from the frame. -/
  taken : Nat
deriving Inhabited

namespace Division

/-- Nothing is divided yet. -/
def start : Division := ⟨[], [], 0⟩

/-- The parts in order. -/
def parts (division : Division) : List (List Char) :=
  (division.part :: division.finished).reverse

/-- Adds characters to the last part. -/
def append (division : Division) (chars : List Char) (width : Nat) : Division :=
  { division with part := division.part ++ chars, taken := division.taken + width }

/-- Begins a new part, unless nothing was added yet. -/
def advance (division : Division) : Division :=
  if division.part.isEmpty && division.finished.isEmpty then division
  else ⟨division.part :: division.finished, [], 0⟩

/-- Adds a character to the last part, or to a new part where the frame is full. -/
def fold (width : Nat) (division : Division) (c : Char) : Division :=
  let division :=
    if width < division.taken + Text.charCells c then division.advance else division
  division.append [c] (Text.charCells c)

/-- Adds a word. The white space after it need not fit. -/
def add (overflow : Overflow) (width : Nat) (division : Division) (word : List Char) :
    Division :=
  let needed := Text.cells (Text.trimEnd word)
  if division.taken + needed ≤ width then division.append word (Text.cells word)
  else if width < needed && overflow = .fold then word.foldl (fold width) division.advance
  else if needed ≤ width && division.taken = 0 then division.append word 0
  else division.advance.append word (Text.cells word)

end Division

/-- The parts into which a line is divided. -/
def divide (overflow : Overflow) (width : Nat) (line : List Char) : List (List Char) :=
  ((words line).foldl (Division.add overflow width) Division.start).parts

/-- A line without as much of the white space at its end as it has characters too many. -/
def trimExcess (width : Nat) (line : List Char) : List Char :=
  let blanks := line.length - (Text.trimEnd line).length
  line.take (line.length - min blanks (line.length - width))

/-- The start of a line that fills a width. A blank stands for half of a wide character. -/
def fill : (width : Nat) → List Char → List Char
  | _, [] => []
  | width, c :: rest =>
    if Text.charCells c ≤ width then c :: fill (width - Text.charCells c) rest
    else List.replicate width ' '

/-- A line cut to a width. -/
def cut (overflow : Overflow) (width : Nat) (line : List Char) : List Char :=
  if Text.cells line ≤ width then line
  else
    match overflow with
    | .fold => fill width line
    | .ellipsis => fill (width - 1) line ++ ['…']

/-- The lines that show a text in a frame of a width. -/
def lines (overflow : Overflow) (width : Nat) (text : List Char) : List (List Char) :=
  (linesOf text).flatMap fun line =>
    (divide overflow width line).map fun part => cut overflow width (trimExcess width part)

namespace Division

/-- The text of the parts. -/
def text (division : Division) : List Char :=
  division.parts.flatten

@[simp]
theorem text_append (division : Division) (chars : List Char) (width : Nat) :
    (division.append chars width).text = division.text ++ chars := by
  simp [text, parts, append]

@[simp]
theorem text_advance (division : Division) : division.advance.text = division.text := by
  unfold advance
  split
  · rfl
  · simp [text, parts]

@[simp]
theorem text_fold (width : Nat) (division : Division) (c : Char) :
    (fold width division c).text = division.text ++ [c] := by
  unfold fold
  split <;> simp

@[simp]
theorem text_foldl_fold (width : Nat) (division : Division) (word : List Char) :
    (word.foldl (fold width) division).text = division.text ++ word := by
  induction word generalizing division with
  | nil => simp
  | cons c rest ih => simp [ih]

@[simp]
theorem text_add (overflow : Overflow) (width : Nat) (division : Division) (word : List Char) :
    (division.add overflow width word).text = division.text ++ word := by
  unfold add
  dsimp only
  split
  · simp
  · split
    · simp
    · split <;> simp

theorem text_foldl_add (overflow : Overflow) (width : Nat) (division : Division)
    (words : List (List Char)) :
    (words.foldl (add overflow width) division).text = division.text ++ words.flatten := by
  induction words generalizing division with
  | nil => simp
  | cons word rest ih => simp [ih]

end Division

/-- Joining the indent to a word keeps the text. -/
theorem flatten_joinIndent (words : List (List Char)) :
    (joinIndent words).flatten = words.flatten := by
  unfold joinIndent
  split
  · split <;> simp
  · rfl

/-- A character that is put before words is put before their text. -/
theorem flatten_addFirst (c : Char) (words : List (List Char)) :
    (addFirst c words).flatten = c :: words.flatten := by
  unfold addFirst
  split
  · split <;> simp
  · simp

/-- The words of a line make up the line. -/
theorem flatten_words (line : List Char) : (words line).flatten = line := by
  rw [words, flatten_joinIndent]
  induction line with
  | nil => rfl
  | cons c rest ih => rw [List.foldr_cons, flatten_addFirst, ih]

/-- No character of a line is lost or moved when the line is divided. -/
theorem flatten_divide (overflow : Overflow) (width : Nat) (line : List Char) :
    (divide overflow width line).flatten = line := by
  change Division.text _ = line
  rw [Division.text_foldl_add, flatten_words]
  rfl

end Fit

end FlowCheck.Console
