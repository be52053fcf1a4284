import FlowCheck.Value.Display
import FlowCheck.Yaml.Token
import FlowCheck.Yaml.Token.Block

/-!
# Anchors, tags and directives

The names in front of nodes and above documents.
-/

namespace FlowCheck.Yaml.Property

/-- A name of at least one character. -/
def name (cursor : Cursor) : Scan (String × Cursor) :=
  let (chars, after) := cursor.span isNameChar
  if chars.isEmpty then .error .malformed else .ok (String.ofList chars, after)

/-- The name of an anchor or an alias, from its indicator. -/
def anchor (cursor : Cursor) : Scan (String × Cursor) := do
  let (name, cursor) ← name cursor.advance
  let c := cursor.peek
  if isSeparator c || ['?', ':', ',', ']', '}', '%', '@', '\x60'].contains c then
    return (name, cursor)
  else .error .malformed

/-- The character may stand in the rest of a tag. -/
def isTagChar (c : Char) : Bool :=
  ('0' ≤ c && c ≤ '9') || ('A' ≤ c && c ≤ 'Z') || ('a' ≤ c && c ≤ 'z') ||
    ['-', ';', '/', '?', ':', '@', '&', '=', '+', '$', ',', '_', '.', '!', '~', '*', '\'', '(',
      ')', '[', ']'].contains c

/-- The characters written as a run of bytes in hexadecimal, each after a percent sign. -/
def escapedBytes : (count : Nat) → Cursor → Scan (List UInt8 × Cursor)
  | 0, cursor => .ok ([], cursor)
  | count + 1, cursor =>
    if cursor.peek ≠ '%' then .ok ([], cursor)
    else
      let digits := (cursor.rest.drop 1).take 2
      if digits.length < 2 || !digits.all isHexDigit then .error .malformed
      else do
        let (others, after) ← escapedBytes count (cursor.forward 3)
        return (UInt8.ofNat (hexValue digits) :: others, after)

/-- The text of a run of escaped bytes. -/
def escaped (cursor : Cursor) : Scan (List Char × Cursor) := do
  let (bytes, after) ← escapedBytes cursor.rest.length cursor
  match String.fromUTF8? bytes.toByteArray with
  | some text => return (text.toList, after)
  | none => .error .malformed

/-- The characters of a tag from the cursor on. -/
def tagChars : (rounds : Nat) → Cursor → Scan (List Char × Cursor)
  | 0, cursor => .ok ([], cursor)
  | rounds + 1, cursor =>
    if cursor.peek == '%' then do
      let (chars, cursor) ← escaped cursor
      let (others, cursor) ← tagChars rounds cursor
      return (chars ++ others, cursor)
    else
      let (chars, cursor) := cursor.span isTagChar
      if chars.isEmpty then .ok ([], cursor)
      else do
        let (others, cursor) ← tagChars rounds cursor
        return (chars ++ others, cursor)

/-- The rest of a tag; it may be empty only if it is written as escapes. -/
def tagRest (cursor : Cursor) : Scan (String × Cursor) := do
  if !(isTagChar cursor.peek || cursor.peek == '%') then .error .malformed
  let (chars, cursor) ← tagChars (cursor.rest.length + 1) cursor
  return (String.ofList chars, cursor)

/-- A tag handle: an exclamation mark, or a name between two of them. -/
def handle (cursor : Cursor) : Scan (String × Cursor) :=
  if cursor.peek ≠ '!' then .error .malformed
  else
    let (name, after) := cursor.advance.span isNameChar
    if after.peek == '!' then
      .ok (String.ofList ('!' :: name ++ ['!']), after.advance)
    else if cursor.peekAt 1 == ' ' then .ok ("!", cursor.advance)
    else .error .malformed

/-- The text from an exclamation mark on has a second one before the next white space. -/
def hasHandle (cursor : Cursor) : Bool :=
  ((cursor.rest.drop 1).takeWhile fun c => !(c == ' ' || isBreak c)).contains '!'

/-- A tag between angle brackets, from its exclamation mark. -/
def verbatim (cursor : Cursor) : Scan (Token × Cursor) := do
  let (rest, cursor) ← tagRest (cursor.forward 2)
  if cursor.peek ≠ '>' then .error .malformed
  else return (Token.tag none rest, cursor.advance)

/-- A tag that starts with a handle, which may be the exclamation mark alone. -/
def shorthand (cursor : Cursor) : Scan (Token × Cursor) := do
  let (handle, cursor) ← if hasHandle cursor then handle cursor else .ok ("!", cursor.advance)
  let (rest, cursor) ← tagRest cursor
  return (Token.tag (some handle) rest, cursor)

/-- A tag, from its exclamation mark. -/
def tag (cursor : Cursor) : Scan (Token × Cursor) := do
  let next := cursor.peekAt 1
  let (token, cursor) ←
    if next == '<' then verbatim cursor
    else if isSeparator next then .ok (Token.tag none "!", cursor.advance)
    else shorthand cursor
  if isSpaceOrEnd cursor.peek then return (token, cursor) else .error .malformed

/-- The value of decimal digits. -/
def decimal (digits : List Char) : Nat :=
  digits.foldl (fun n c => 10 * n + (c.toNat - '0'.toNat)) 0

/-- A number of at least one digit and not too many. -/
def number (cursor : Cursor) : Scan (Nat × Cursor) :=
  let (digits, after) := cursor.span Char.isDigit
  -- what follows the digits is read before they are counted
  if digits.isEmpty || !after.isReadable then .error .malformed
  else if Value.maxDigits < digits.length then .error (.fault .numberTooLong)
  else .ok (decimal digits, after)

/-- The version after the name of its directive. -/
def version (cursor : Cursor) : Scan (Directive × Cursor) := do
  let (major, cursor) ← number (cursor.skip (· == ' '))
  if cursor.peek ≠ '.' then .error .malformed
  let (_, cursor) ← number cursor.advance
  if isSpaceOrEnd cursor.peek then return (.version major, cursor) else .error .malformed

/-- The handle and its meaning after the name of their directive. -/
def handleMeaning (cursor : Cursor) : Scan (Directive × Cursor) := do
  let (name, cursor) ← handle (cursor.skip (· == ' '))
  if cursor.peek ≠ ' ' then .error .malformed
  let (meaning, cursor) ← tagRest (cursor.skip (· == ' '))
  if isSpaceOrEnd cursor.peek then return (.handle name meaning, cursor) else .error .malformed

/-- The content of a directive with a name. -/
def content (name : String) (cursor : Cursor) : Scan (Directive × Cursor) :=
  if name = "YAML" then version cursor
  else if name = "TAG" then handleMeaning cursor
  else .ok (.other, cursor.skipLine)

/-- A directive with the rest of its line, from its percent sign. -/
def directive (cursor : Cursor) : Scan (Directive × Cursor) := do
  let (name, cursor) ← name cursor.advance
  if !isSpaceOrEnd cursor.peek then .error .malformed
  else
    let (content, cursor) ← content name cursor
    let ((), cursor) ← Block.restOfLine cursor
    return (content, cursor)

end FlowCheck.Yaml.Property
