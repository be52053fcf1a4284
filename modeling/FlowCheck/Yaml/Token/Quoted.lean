import FlowCheck.Yaml.Cursor

/-!
# Quoted scalars

Between single quotes a quote is written twice and nothing else is special. Between double quotes
a backslash starts an escape. In both, a line break with the blanks around it is a blank, and each
further break stands for itself. Texts hold whole characters only: an escape of half of a pair gives
the replacement character.
-/

namespace FlowCheck.Yaml

/-- A step through a text that may fail. -/
abbrev Scan := Except ReadError

namespace Quoted

/-- What the escapes of one character stand for. -/
def escapes : List (Char × Char) :=
  [('0', '\x00'), ('a', '\x07'), ('b', '\x08'), ('t', '\t'), ('\t', '\t'), ('n', '\n'),
    ('v', '\x0b'), ('f', '\x0c'), ('r', '\r'), ('e', '\x1b'), (' ', ' '), ('"', '"'),
    ('\\', '\\'), ('/', '/'), ('N', '\x85'), ('_', '\xa0'), ('L', '\u2028'), ('P', '\u2029')]

/-- The number of hexadecimal digits after an escape. -/
def digitCount (c : Char) : Option Nat :=
  match c with
  | 'x' => some 2
  | 'u' => some 4
  | 'U' => some 8
  | _ => none

/-- The code is that of half of a pair that stands for one character. -/
def isHalf (code : Nat) : Bool :=
  0xd800 ≤ code && code ≤ 0xdfff

/-- The character with a code. Half of a pair has no character of its own. -/
def charOf (code : Nat) : Char :=
  if isHalf code then '\ufffd' else Char.ofNat code

/-- The largest code of a character. -/
def lastCode : Nat := 0x10ffff

/-- The largest number that is tried as the code of a character. -/
def codeBound : Nat := 0x7fffffff

/-- A character by its code in `count` hexadecimal digits. -/
def coded (count : Nat) (cursor : Cursor) : Scan (Char × Cursor) :=
  let digits := cursor.rest.take count
  let after := cursor.forward count
  -- what follows the digits is read before their character is sought
  if digits.length < count || !digits.all isHexDigit || !after.isReadable then .error .malformed
  else
    let code := hexValue digits
    if codeBound < code then .error (.fault .numberTooLarge)
    else if lastCode < code then .error (.fault .noSuchCharacter)
    else .ok (charOf code, after)

/-- The line breaks at the cursor with the blanks between them; a document mark must not start a
line. -/
def breaks : (lines : Nat) → Cursor → Scan (List Char × Cursor)
  | 0, cursor => .ok ([], cursor)
  | lines + 1, cursor =>
    if cursor.atDocumentMark then .error .malformed
    else
      let cursor := cursor.skip isSpace
      if isBreak cursor.peek then do
        let (first, cursor) := cursor.lineBreak
        let (others, cursor) ← breaks lines cursor
        return (first ++ others, cursor)
      else .ok ([], cursor)

/-- The line breaks at the cursor. -/
def allBreaks (cursor : Cursor) : Scan (List Char × Cursor) :=
  breaks (cursor.rest.length + 1) cursor

/-- White space inside quotes: blanks stand for themselves, a break for a blank unless more
follow. -/
def space (cursor : Cursor) : Scan (List Char × Cursor) :=
  let (blanks, cursor) := cursor.span isSpace
  if cursor.atEnd then .error .malformed
  else if isBreak cursor.peek then do
    let (first, cursor) := cursor.lineBreak
    let (others, cursor) ← allBreaks cursor
    let first := if first ≠ ['\n'] then first else if others.isEmpty then [' '] else []
    return (first ++ others, cursor)
  else .ok (blanks, cursor)

/-- An escape, from behind its backslash. -/
def escape (cursor : Cursor) : Scan (List Char × Cursor) :=
  let c := cursor.peek
  if cursor.atEnd then .error .malformed
  else
    match escapes.lookup c, digitCount c with
    | some meant, _ => .ok ([meant], cursor.advance)
    | none, some count => do
      let (char, cursor) ← coded count cursor.advance
      return ([char], cursor)
    | none, none => if isBreak c then allBreaks cursor.lineBreak.2 else .error .malformed

/-- The rest of a quoted scalar from inside its quotes; every round takes at least one
character. -/
def content (quote : Char) : (rounds : Nat) → Cursor → Scan (List Char × Cursor)
  | 0, _ => .error .malformed
  | rounds + 1, cursor =>
    let c := cursor.peek
    if cursor.atEnd then .error .malformed
    else do
      if c == quote && !(quote == '\'' && cursor.peekAt 1 == '\'') then
        return ([], cursor.advance)
      let (part, cursor) ←
        if c == quote then .ok ([c], cursor.forward 2)
        else if isSpace c || isBreak c then space cursor
        else if quote == '"' && c == '\\' then escape cursor.advance
        else .ok ([c], cursor.advance)
      let (others, cursor) ← content quote rounds cursor
      return (part ++ others, cursor)

/-- A quoted scalar from its opening quote. -/
def scalar (cursor : Cursor) : Scan (String × Cursor) := do
  let (chars, after) ← content cursor.peek (cursor.rest.length + 1) cursor.advance
  return (String.ofList chars, after)

end Quoted

end FlowCheck.Yaml
