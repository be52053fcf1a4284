import FlowCheck.Fault

/-!
# Places in a YAML text

A cursor is what is left of a text, with the line, the column and the number of characters before
it. A text holds no NUL, so the NUL character stands for the end.
-/

namespace FlowCheck.Yaml

/-- Why a YAML text cannot be read. -/
inductive ReadError where
  /-- The text is not YAML, its parts do not make up one document, or a node cannot be what its
  tag says. -/
  | malformed
  /-- A scalar could not be handled. -/
  | fault (fault : Fault)
deriving DecidableEq, Inhabited

/-- The character that stands for the end of a text. -/
def endMark : Char := '\x00'

/-- The byte order mark, which takes no column. -/
def byteOrderMark : Char := '\ufeff'

/-- The character ends a line. -/
def isBreak (c : Char) : Bool :=
  c == '\n' || c == '\r' || c == '\x85' || c == '\u2028' || c == '\u2029'

/-- The character ends a line or the text. -/
def isLineEnd (c : Char) : Bool :=
  c == endMark || isBreak c

/-- The character is a blank or a tab. -/
def isSpace (c : Char) : Bool :=
  c == ' ' || c == '\t'

/-- The character is a blank, or ends a line or the text. -/
def isSpaceOrEnd (c : Char) : Bool :=
  c == ' ' || isLineEnd c

/-- The character separates tokens: a blank, a tab, or the end of a line or of the text. -/
def isSeparator (c : Char) : Bool :=
  isSpace c || isLineEnd c

/-- The character opens, closes or divides a collection in brackets. -/
def isFlowIndicator (c : Char) : Bool :=
  [',', '[', ']', '{', '}'].contains c

/-- The character may stand in the name of an anchor, a directive or a tag handle. -/
def isNameChar (c : Char) : Bool :=
  ('0' ≤ c && c ≤ '9') || ('A' ≤ c && c ≤ 'Z') || ('a' ≤ c && c ≤ 'z') || c == '-' || c == '_'

/-- The character is a hexadecimal digit. -/
def isHexDigit (c : Char) : Bool :=
  ('0' ≤ c && c ≤ '9') || ('A' ≤ c && c ≤ 'F') || ('a' ≤ c && c ≤ 'f')

/-- The character may stand in a YAML text. -/
def isAllowed (c : Char) : Bool :=
  let n := c.toNat
  n == 0x09 || n == 0x0a || n == 0x0d || (0x20 ≤ n && n ≤ 0x7e) || n == 0x85 ||
    (0xa0 ≤ n && n ≤ 0xfffd) || 0x10000 ≤ n

/-- The value of hexadecimal digits. -/
def hexValue (digits : List Char) : Nat :=
  digits.foldl
    (fun n c =>
      16 * n + (if c.isDigit then c.toNat - '0'.toNat else c.toLower.toNat - 'a'.toNat + 10))
    0

/-- A place in a text. -/
structure Cursor where
  /-- What is left of the text. -/
  rest : List Char
  /-- The number of lines before. -/
  line : Nat
  /-- The number of columns before in the line. -/
  column : Nat
  /-- The number of characters before. -/
  index : Nat
deriving Inhabited

namespace Cursor

/-- The start of a text. -/
def start (text : List Char) : Cursor :=
  ⟨text, 0, 0, 0⟩

/-- The next character. -/
def peek (cursor : Cursor) : Char :=
  cursor.rest.headD endMark

/-- The character after `k` others. -/
def peekAt (cursor : Cursor) (k : Nat) : Char :=
  (cursor.rest[k]?).getD endMark

/-- The text is at its end. -/
def atEnd (cursor : Cursor) : Bool :=
  cursor.rest.isEmpty

/-- The next character can be read: it may stand in a YAML text, or the text is at its end. -/
def isReadable (cursor : Cursor) : Bool :=
  cursor.atEnd || isAllowed cursor.peek

/-- The text goes on with another text. -/
def startsWith (cursor : Cursor) (text : String) : Bool :=
  text.toList.isPrefixOf cursor.rest

/-- The cursor after the next character. A carriage return ends a line unless a line feed
follows. -/
def advance (cursor : Cursor) : Cursor :=
  match cursor.rest with
  | [] => cursor
  | c :: rest =>
    if isBreak c && !(c == '\r' && rest.head? == some '\n') then
      ⟨rest, cursor.line + 1, 0, cursor.index + 1⟩
    else if c == byteOrderMark then ⟨rest, cursor.line, cursor.column, cursor.index + 1⟩
    else ⟨rest, cursor.line, cursor.column + 1, cursor.index + 1⟩

/-- The cursor after `k` characters. -/
def forward (cursor : Cursor) : Nat → Cursor
  | 0 => cursor
  | k + 1 => cursor.advance.forward k

/-- The characters up to the first that does not satisfy `p`, and the cursor there. -/
def span (cursor : Cursor) (p : Char → Bool) : List Char × Cursor :=
  let run := cursor.rest.takeWhile p
  (run, cursor.forward run.length)

/-- The cursor at the first character that does not satisfy `p`. -/
def skip (cursor : Cursor) (p : Char → Bool) : Cursor :=
  (cursor.span p).2

/-- The cursor at the end of the line. -/
def skipLine (cursor : Cursor) : Cursor :=
  cursor.skip fun c => !isBreak c

/-- The cursor after a comment, if there is one. -/
def skipComment (cursor : Cursor) : Cursor :=
  if cursor.peek == '#' then cursor.skipLine else cursor

/-- The cursor after at most so many blanks that the column is `column`. -/
def skipIndent (cursor : Cursor) (column : Nat) : Cursor :=
  let blanks := cursor.rest.takeWhile (· == ' ')
  cursor.forward (min blanks.length (column - cursor.column))

/-- A line break, if there is one, as the text that it stands for, and the cursor after it. -/
def lineBreak (cursor : Cursor) : List Char × Cursor :=
  match cursor.rest with
  | '\r' :: '\n' :: _ => (['\n'], cursor.forward 2)
  | c :: _ =>
    if c == '\u2028' || c == '\u2029' then ([c], cursor.advance)
    else if isBreak c then (['\n'], cursor.advance)
    else ([], cursor)
  | [] => ([], cursor)

/-- The text goes on with three hyphens or three points and a separator. -/
def atDocumentMark (cursor : Cursor) : Bool :=
  (cursor.startsWith "---" || cursor.startsWith "...") && isSeparator (cursor.peekAt 3)

end Cursor

end FlowCheck.Yaml
