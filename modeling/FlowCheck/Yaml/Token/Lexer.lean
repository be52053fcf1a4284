import FlowCheck.Yaml.Token.Plain
import FlowCheck.Yaml.Token.Property

/-!
# From text to tokens

The lexer takes one token after the other from the text. In block style the indentation opens and
closes collections. A scalar turns out to be a key only when a colon follows on its line; until
then its place among the tokens is remembered, and the tokens that start a key are put there.
-/

namespace FlowCheck.Yaml

/-- A token that may turn out to start a key. -/
structure PendingKey where
  /-- The number of brackets that are open around the token. -/
  depth : Nat
  /-- The number of tokens before the token. -/
  place : Nat
  /-- The token has to be a key. -/
  required : Bool
  /-- Where the token starts. -/
  start : Cursor
deriving Inhabited

/-- The state of the lexer. -/
structure Lexer where
  /-- Where the lexer is. -/
  cursor : Cursor
  /-- The tokens so far, the latest first. -/
  tokens : List Placed
  /-- The number of tokens so far. -/
  count : Nat
  /-- The number of brackets that are open. -/
  depth : Nat
  /-- The columns of the open block collections, each more by one, the innermost first. -/
  levels : List Nat
  /-- A key without a question mark may start here. -/
  keyAllowed : Bool
  /-- The tokens that may turn out to start a key. -/
  pending : List PendingKey
deriving Inhabited

namespace Lexer

/-- A step of the lexer. -/
abbrev Step := Scan Lexer

/-- The lexer at the start of a text. -/
def start (text : List Char) : Lexer where
  cursor := Cursor.start text
  tokens := []
  count := 0
  depth := 0
  levels := []
  keyAllowed := true
  pending := []

/-- The smallest column inside the innermost open block collection; zero without one. -/
def level (lexer : Lexer) : Nat :=
  lexer.levels.headD 0

/-- A token that starts at a cursor. -/
def place (cursor : Cursor) (token : Token) : Placed :=
  ⟨token, cursor.line⟩

/-- Adds a token. -/
def emit (lexer : Lexer) (token : Placed) : Lexer :=
  { lexer with tokens := token :: lexer.tokens, count := lexer.count + 1 }

/-- Adds a token after the first `before` ones. -/
def emitAt (lexer : Lexer) (before : Nat) (token : Placed) : Lexer :=
  let later := lexer.count - before
  { lexer with
    tokens := lexer.tokens.take later ++ token :: lexer.tokens.drop later
    count := lexer.count + 1 }

/-- Adds the token for `length` characters at the cursor. -/
def emitChars (lexer : Lexer) (length : Nat) (token : Token) : Lexer :=
  let lexer := lexer.emit (place lexer.cursor token)
  { lexer with cursor := lexer.cursor.forward length }

/-- The pending key at the present depth. -/
def pendingKey? (lexer : Lexer) : Option PendingKey :=
  lexer.pending.find? (·.depth == lexer.depth)

/-- Forgets the pending key at the present depth. -/
def forget (lexer : Lexer) : Lexer :=
  { lexer with pending := lexer.pending.filter (·.depth != lexer.depth) }

/-- Gives up the pending key at the present depth, unless it has to be a key. -/
def giveUp (lexer : Lexer) : Step :=
  if lexer.pendingKey?.any (·.required) then .error .malformed else .ok lexer.forget

/-- A key starts at most this many characters before its colon. -/
def keyReach : Nat := 1024

/-- The pending key cannot become a key any more: its line or its reach is over. -/
def isStale (cursor : Cursor) (key : PendingKey) : Bool :=
  key.start.line != cursor.line || keyReach < cursor.index - key.start.index

/-- Gives up the pending keys that are stale, unless one has to be a key. -/
def dropStale (lexer : Lexer) : Step :=
  if lexer.pending.any fun key => isStale lexer.cursor key && key.required then .error .malformed
  else .ok { lexer with pending := lexer.pending.filter fun key => !isStale lexer.cursor key }

/-- Remembers that the next token may start a key. -/
def savePending (lexer : Lexer) : Step :=
  if lexer.keyAllowed then do
    let lexer ← lexer.giveUp
    let key := {
      depth := lexer.depth
      place := lexer.count
      -- a block mapping goes on at its own column only with a key
      required := lexer.depth == 0 && lexer.level == lexer.cursor.column + 1
      start := lexer.cursor }
    return { lexer with pending := key :: lexer.pending }
  else .ok lexer

/-- Closes the block collections that are indented deeper than a level. -/
def closeBlocks (lexer : Lexer) (level : Nat) : Lexer :=
  if lexer.depth ≠ 0 then lexer
  else
    -- brackets are closed by brackets only, so this is for block style
    let closed := lexer.levels.takeWhile (level < ·)
    let lexer := { lexer with levels := lexer.levels.dropWhile (level < ·) }
    closed.foldl (fun lexer _ => lexer.emit (place lexer.cursor .blockEnd)) lexer

/-- A block collection at a column is not open yet. -/
def opensBlock (lexer : Lexer) (column : Nat) : Bool :=
  lexer.level < column + 1

/-- Opens a block collection at a column. -/
def openBlock (lexer : Lexer) (column : Nat) : Lexer :=
  { lexer with levels := (column + 1) :: lexer.levels }

/-- Opens a block collection at the cursor, unless it is open, with its first token. -/
def enterBlock (lexer : Lexer) (token : Token) : Lexer :=
  if lexer.opensBlock lexer.cursor.column then
    (lexer.openBlock lexer.cursor.column).emit (place lexer.cursor token)
  else lexer

/-- Skips blanks, comments and line breaks. In block style a new line may start a key. -/
def skipSpace : (lines : Nat) → Lexer → Lexer
  | 0, lexer => lexer
  | lines + 1, lexer =>
    let cursor := (lexer.cursor.skip (· == ' ')).skipComment
    if isBreak cursor.peek then
      skipSpace lines { lexer with
        cursor := cursor.lineBreak.2
        keyAllowed := lexer.keyAllowed || lexer.depth == 0 }
    else { lexer with cursor }

/-- Skips a byte order mark at the start of the text, then white space. -/
def toNextToken (lexer : Lexer) : Lexer :=
  let cursor := lexer.cursor
  let cursor :=
    if cursor.index == 0 && cursor.peek == byteOrderMark then cursor.advance else cursor
  skipSpace (cursor.rest.length + 1) { lexer with cursor }

/-- The end of the text. -/
def finish (lexer : Lexer) : Step := do
  let lexer ← (lexer.closeBlocks 0).giveUp
  return { lexer with pending := [], keyAllowed := false }.emit (place lexer.cursor .streamEnd)

/-- A directive. -/
def lexDirective (lexer : Lexer) : Step := do
  let lexer ← (lexer.closeBlocks 0).giveUp
  let (content, after) ← Property.directive lexer.cursor
  let lexer := lexer.emit (place lexer.cursor (.directive content))
  return { lexer with cursor := after, keyAllowed := false }

/-- The mark at the start or the end of a document. -/
def lexDocumentMark (token : Token) (lexer : Lexer) : Step := do
  let lexer ← (lexer.closeBlocks 0).giveUp
  return { lexer.emitChars 3 token with keyAllowed := false }

/-- A bracket that opens a collection. -/
def lexOpening (token : Token) (lexer : Lexer) : Step := do
  let lexer ← lexer.savePending
  return { lexer.emitChars 1 token with depth := lexer.depth + 1, keyAllowed := true }

/-- A bracket that closes a collection. -/
def lexClosing (token : Token) (lexer : Lexer) : Step := do
  let lexer ← lexer.giveUp
  return { lexer.emitChars 1 token with depth := lexer.depth - 1, keyAllowed := false }

/-- A comma between the items of a collection in brackets. -/
def lexFlowEntry (lexer : Lexer) : Step := do
  let lexer ← lexer.giveUp
  return { lexer.emitChars 1 .flowEntry with keyAllowed := true }

/-- The hyphen before an item of a block sequence. -/
def lexBlockEntry (lexer : Lexer) : Step := do
  if lexer.depth == 0 && !lexer.keyAllowed then .error .malformed
  let lexer := if lexer.depth == 0 then lexer.enterBlock .blockSequenceStart else lexer
  let lexer ← lexer.giveUp
  return { lexer.emitChars 1 .blockEntry with keyAllowed := true }

/-- The question mark before a key. -/
def lexKey (lexer : Lexer) : Step := do
  if lexer.depth == 0 && !lexer.keyAllowed then .error .malformed
  let lexer := if lexer.depth == 0 then lexer.enterBlock .blockMappingStart else lexer
  let lexer ← lexer.giveUp
  return { lexer.emitChars 1 .key with keyAllowed := lexer.depth == 0 }

/-- The colon after a key. -/
def lexValue (lexer : Lexer) : Step := do
  match lexer.pendingKey? with
  | some key =>
    -- the tokens of the key are there already, so what starts it is put in front of them
    let lexer := lexer.forget.emitAt key.place (place key.start .key)
    let lexer :=
      if lexer.depth == 0 && lexer.opensBlock key.start.column then
        (lexer.openBlock key.start.column).emitAt key.place (place key.start .blockMappingStart)
      else lexer
    return { lexer.emitChars 1 .value with keyAllowed := false }
  | none =>
    -- the key is empty, or follows a question mark
    if lexer.depth == 0 && !lexer.keyAllowed then .error .malformed
    let lexer := if lexer.depth == 0 then lexer.enterBlock .blockMappingStart else lexer
    return { lexer.emitChars 1 .value with keyAllowed := lexer.depth == 0 }

/-- A token that may start a key, read by `read`. -/
def lexNode (read : Cursor → Scan (Token × Cursor)) (lexer : Lexer) : Step := do
  let lexer ← lexer.savePending
  let (token, after) ← read lexer.cursor
  let lexer := lexer.emit (place lexer.cursor token)
  return { lexer with cursor := after, keyAllowed := false }

/-- A token made of a text. -/
def readAs (token : String → Token) (read : Cursor → Scan (String × Cursor)) (cursor : Cursor) :
    Scan (Token × Cursor) := do
  let (text, after) ← read cursor
  return (token text, after)

/-- A block scalar; a key may follow. -/
def lexBlockScalar (lexer : Lexer) : Step := do
  let lexer ← lexer.giveUp
  let (text, after) ← Block.scalar lexer.level lexer.cursor
  let lexer := lexer.emit (place lexer.cursor (.scalar text false))
  return { lexer with cursor := after, keyAllowed := true }

/-- A plain scalar; a key may follow after a line break. -/
def lexPlain (lexer : Lexer) : Step := do
  let lexer ← lexer.savePending
  let result := Plain.scalar (lexer.depth != 0) lexer.level lexer.cursor
  let lexer := lexer.emit (place lexer.cursor (.scalar (String.ofList result.text) true))
  return { lexer with cursor := result.after, keyAllowed := result.broken }

/-- The characters that never start a plain scalar, or only before another character. -/
def indicators : List Char :=
  ['-', '?', ':', ',', '[', ']', '{', '}', '#', '&', '*', '!', '|', '>', '\'', '"', '%', '@',
    '\x60']

/-- A plain scalar starts at the cursor. -/
def atPlain (lexer : Lexer) : Bool :=
  let c := lexer.cursor.peek
  !(isSeparator c || indicators.contains c) ||
    (!isSeparator (lexer.cursor.peekAt 1) &&
      (c == '-' || (lexer.depth == 0 && (c == '?' || c == ':'))))

/-- Takes the token at the cursor. -/
def lexToken (lexer : Lexer) : Step :=
  let cursor := lexer.cursor
  let c := cursor.peek
  let apart := isSeparator (cursor.peekAt 1)
  let inFlow := lexer.depth != 0
  if cursor.column == 0 && c == '%' then lexer.lexDirective
  else if cursor.column == 0 && cursor.atDocumentMark then
    lexer.lexDocumentMark (if c == '-' then .documentStart else .documentEnd)
  else if c == '[' then lexer.lexOpening .flowSequenceStart
  else if c == '{' then lexer.lexOpening .flowMappingStart
  else if c == ']' then lexer.lexClosing .flowSequenceEnd
  else if c == '}' then lexer.lexClosing .flowMappingEnd
  else if c == ',' then lexer.lexFlowEntry
  else if c == '-' && apart then lexer.lexBlockEntry
  -- inside brackets a question mark or a colon needs no blank after it
  else if c == '?' && (inFlow || apart) then lexer.lexKey
  else if c == ':' && (inFlow || apart) then lexer.lexValue
  else if c == '*' then lexer.lexNode (readAs .alias Property.anchor)
  else if c == '&' then lexer.lexNode (readAs .anchor Property.anchor)
  else if c == '!' then lexer.lexNode Property.tag
  else if (c == '|' || c == '>') && !inFlow then lexer.lexBlockScalar
  else if c == '\'' || c == '"' then
    lexer.lexNode (readAs (fun text => .scalar text false) Quoted.scalar)
  else if lexer.atPlain then lexer.lexPlain
  else .error .malformed

/-- Goes on to the next token and takes it; the flag tells that the text is at its end. -/
def step (lexer : Lexer) : Scan (Lexer × Bool) := do
  let lexer ← lexer.toNextToken.dropStale
  -- the levels are columns and one more, so that what starts at this column stays open
  let lexer := lexer.closeBlocks (lexer.cursor.column + 1)
  if lexer.cursor.atEnd then return (← lexer.finish, true)
  let lexer ← lexer.lexToken
  return (← lexer.dropStale, false)

/-- The tokens that are told: those before the first one that may still turn out to start a key. -/
def settled (lexer : Lexer) : List Placed :=
  match (lexer.pending.map (·.place)).min? with
  | some first => lexer.tokens.drop (lexer.count - first)
  | none => lexer.tokens

/-- Goes on after a step of the lexer: with `further`, unless the text is at its end or the step
failed. -/
def goOn (lexer : Lexer) (further : Lexer → List Placed × Option ReadError) :
    Scan (Lexer × Bool) → List Placed × Option ReadError
  | .error e => (lexer.settled, some e)
  | .ok (next, true) => (next.tokens, none)
  | .ok (next, false) => further next

/-- Takes tokens up to the end of the text or the first error, which is given back beside the tokens
that are told by then. -/
def run : (rounds : Nat) → Lexer → List Placed × Option ReadError
  | 0, lexer => (lexer.settled, some .malformed)
  | rounds + 1, lexer => lexer.goOn (run rounds) lexer.step

end Lexer

/-- The tokens of a text in order, and the error at which they end, if they do not end with the
text. Every token but the last takes at least one character. -/
def tokens (text : List Char) : List Placed × Option ReadError :=
  let (found, error) := (Lexer.start text).run (text.length + 1)
  (found.reverse, error)

end FlowCheck.Yaml
