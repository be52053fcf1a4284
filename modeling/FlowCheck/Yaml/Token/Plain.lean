import FlowCheck.Yaml.Token.Quoted

/-!
# Plain scalars

A plain scalar ends before a comment, before a colon and a separator, where the indentation falls
below its own, and in brackets before an indicator. Line breaks inside it fold as in quoted
scalars.
-/

namespace FlowCheck.Yaml.Plain

/-- The characters of one run without white space. -/
def run (inFlow : Bool) : List Char → List Char
  | [] => []
  | c :: rest =>
    let next := rest.headD endMark
    let ends :=
      isSeparator c || (c == ':' && (isSeparator next || (inFlow && isFlowIndicator next))) ||
        (inFlow && (isFlowIndicator c || c == '?'))
    if ends then [] else c :: run inFlow rest

/-- The line breaks at the cursor with the blanks between them, or nothing if a document mark
starts a line. -/
def breaks : (lines : Nat) → Cursor → Option (List Char) × Cursor
  | 0, cursor => (some [], cursor)
  | lines + 1, cursor =>
    let cursor := cursor.skip (· == ' ')
    if isBreak cursor.peek then
      let (first, cursor) := cursor.lineBreak
      if cursor.atDocumentMark then (none, cursor)
      else
        let (others, cursor) := breaks lines cursor
        (others.map (first ++ ·), cursor)
    else (some [], cursor)

/-- White space inside a plain scalar. -/
structure Gap where
  /-- What the white space stands for; nothing if the scalar ends here. -/
  text : List Char
  /-- The white space holds a line break. -/
  broken : Bool
  /-- The cursor behind the white space. -/
  after : Cursor

/-- The white space at the cursor. -/
def gap (cursor : Cursor) : Gap :=
  let (blanks, cursor) := cursor.span (· == ' ')
  if isBreak cursor.peek then
    let (first, cursor) := cursor.lineBreak
    if cursor.atDocumentMark then ⟨[], true, cursor⟩
    else
      match breaks (cursor.rest.length + 1) cursor with
      | (none, cursor) => ⟨[], true, cursor⟩
      | (some others, cursor) =>
        let first := if first ≠ ['\n'] then first else if others.isEmpty then [' '] else []
        ⟨first ++ others, true, cursor⟩
  else ⟨blanks, false, cursor⟩

/-- A plain scalar: its text, whether white space with a line break follows its last run, and the
cursor behind it. -/
structure Result where
  /-- The text. -/
  text : List Char
  /-- The scalar ends after a line break. -/
  broken : Bool
  /-- The cursor behind the scalar and the white space after it. -/
  after : Cursor

/-- The rest of a plain scalar, with the white space before it; every round takes at least one
character. -/
def runs (inFlow : Bool) (indent : Nat) : (rounds : Nat) → Gap → Result
  | 0, before => ⟨[], before.broken, before.after⟩
  | rounds + 1, before =>
    let cursor := before.after
    -- after white space a number sign starts a comment
    let chars := if cursor.peek == '#' then [] else run inFlow cursor.rest
    if chars.isEmpty then ⟨[], before.broken, cursor⟩
    else
      let next := gap (cursor.forward chars.length)
      if next.text.isEmpty || (!inFlow && next.after.column < indent) then
        ⟨before.text ++ chars, next.broken, next.after⟩
      else
        let others := runs inFlow indent rounds next
        ⟨before.text ++ chars ++ others.text, others.broken, others.after⟩

/-- The plain scalar at the cursor. -/
def scalar (inFlow : Bool) (indent : Nat) (cursor : Cursor) : Result :=
  runs inFlow indent (cursor.rest.length + 1) ⟨[], false, cursor⟩

end FlowCheck.Yaml.Plain
