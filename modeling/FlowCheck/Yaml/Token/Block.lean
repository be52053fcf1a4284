import FlowCheck.Yaml.Token.Quoted

/-!
# Block scalars

A literal block keeps its lines; a folded one joins neighbouring lines with a blank, unless one of
them starts with white space. The header says how many blanks the block is indented and whether
the line breaks at its end are kept.
-/

namespace FlowCheck.Yaml.Block

/-- What becomes of the line breaks at the end of a block. -/
inductive Chomping where
  /-- The first one is kept. -/
  | clip
  /-- None is kept. -/
  | strip
  /-- All are kept. -/
  | keep
deriving DecidableEq, Inhabited

/-- The indicator of a chomping. -/
def chomping? (c : Char) : Option Chomping :=
  if c == '+' then some .keep else if c == '-' then some .strip else none

/-- The digit of an indentation; it is not zero. -/
def indent? (cursor : Cursor) : Scan (Option Nat × Cursor) :=
  let c := cursor.peek
  if c == '0' then .error .malformed
  else if c.isDigit then .ok (some (c.toNat - '0'.toNat), cursor.advance)
  else .ok (none, cursor)

/-- The indicators of a header, in either order. -/
def indicators (cursor : Cursor) : Scan ((Chomping × Option Nat) × Cursor) :=
  match chomping? cursor.peek with
  | some chomping => do
    let (indent, cursor) ← indent? cursor.advance
    return ((chomping, indent), cursor)
  | none => do
    let (indent, cursor) ← indent? cursor
    match indent.bind fun _ => chomping? cursor.peek with
    | some chomping => return ((chomping, indent), cursor.advance)
    | none => return ((.clip, indent), cursor)

/-- The rest of a line that may hold blanks and a comment, and its break. -/
def restOfLine (cursor : Cursor) : Scan (Unit × Cursor) :=
  let cursor := (cursor.skip (· == ' ')).skipComment
  if cursor.atEnd || isBreak cursor.peek then .ok ((), cursor.lineBreak.2) else .error .malformed

/-- The breaks at the start of a block, and the largest column that blanks reach. -/
def leading : (chars : Nat) → (deepest : Nat) → Cursor → List Char × Nat × Cursor
  | 0, deepest, cursor => ([], deepest, cursor)
  | chars + 1, deepest, cursor =>
    if cursor.peek == ' ' then
      let cursor := cursor.advance
      leading chars (max deepest cursor.column) cursor
    else if isBreak cursor.peek then
      let (first, cursor) := cursor.lineBreak
      let (others, deepest, cursor) := leading chars deepest cursor
      (first ++ others, deepest, cursor)
    else ([], deepest, cursor)

/-- The breaks before the next line of a block with an indentation. -/
def breaks (indent : Nat) : (lines : Nat) → Cursor → List Char × Cursor
  | 0, cursor => ([], cursor)
  | lines + 1, cursor =>
    let cursor := cursor.skipIndent indent
    if isBreak cursor.peek then
      let (first, cursor) := cursor.lineBreak
      let (others, cursor) := breaks indent lines cursor
      (first ++ others, cursor)
    else ([], cursor)

/-- The breaks before the next line, as many as there are. -/
def allBreaks (indent : Nat) (cursor : Cursor) : List Char × Cursor :=
  breaks indent (cursor.rest.length + 1) cursor

/-- A line of the block starts at the cursor. -/
def atLine (indent : Nat) (cursor : Cursor) : Bool :=
  cursor.column == indent && !cursor.atEnd

/-- The lines of a block. The answer is the text up to the last line, the break after it, the
breaks that follow, and the cursor. -/
def content (folded : Bool) (indent : Nat) :
    (lines : Nat) → Cursor → List Char × List Char × List Char × Cursor
  | 0, cursor => ([], [], [], cursor)
  | lines + 1, cursor =>
    let plain := !isSpace cursor.peek
    let (chars, cursor) := cursor.span fun c => !isBreak c
    let (first, cursor) := cursor.lineBreak
    let (breaks, cursor) := allBreaks indent cursor
    -- a line that starts with white space keeps the breaks around it
    if atLine indent cursor then
      let joint :=
        if folded && first == ['\n'] && plain && !isSpace cursor.peek then
          if breaks.isEmpty then [' '] else []
        else first
      let (others, last, after, cursor) := content folded indent lines cursor
      (chars ++ joint ++ breaks ++ others, last, after, cursor)
    else (chars, first, breaks, cursor)

/-- The header of a block, from behind its indicator, with the rest of its line. -/
def header (cursor : Cursor) : Scan ((Chomping × Option Nat) × Cursor) := do
  let (indicators, cursor) ← indicators cursor
  if isSpaceOrEnd cursor.peek then
    let ((), cursor) ← restOfLine cursor
    return (indicators, cursor)
  else .error .malformed

/-- The breaks at the start of a block and the indentation of its lines, which is given or that of
the first line; `outer` is the smallest column that the lines can have. -/
def start (outer : Nat) (given : Option Nat) (cursor : Cursor) : List Char × Nat × Cursor :=
  match given with
  | some n =>
    let indent := outer + n - 1
    let (breaks, cursor) := allBreaks indent cursor
    (breaks, indent, cursor)
  | none =>
    let (breaks, deepest, cursor) := leading (cursor.rest.length + 1) 0 cursor
    (breaks, max outer deepest, cursor)

/-- The lines of a block behind the breaks at its start. A block without lines has only the
breaks. -/
def lines (folded : Bool) (before : List Char) (indent : Nat) (cursor : Cursor) :
    List Char × List Char × List Char × Cursor :=
  if atLine indent cursor then
    let (text, last, after, cursor) := content folded indent (cursor.rest.length + 1) cursor
    (before ++ text, last, after, cursor)
  else ([], [], before, cursor)

/-- What is left of the breaks at the end of a block: the first one, and those after it. -/
def tail (chomping : Chomping) (last after : List Char) : List Char :=
  match chomping with
  | .clip => last
  | .strip => []
  | .keep => last ++ after

/-- A block scalar from its indicator; `outer` is the smallest column that its lines can have. -/
def scalar (outer : Nat) (cursor : Cursor) : Scan (String × Cursor) := do
  let folded := cursor.peek == '>'
  let ((chomping, given), cursor) ← header cursor.advance
  -- a block is indented even at the root
  let (before, indent, cursor) := start (max outer 1) given cursor
  let (text, last, after, cursor) := lines folded before indent cursor
  return (String.ofList (text ++ tail chomping last after), cursor)

end FlowCheck.Yaml.Block
