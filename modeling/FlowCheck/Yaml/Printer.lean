import FlowCheck.Yaml.Printer.Style

/-!
# Writing YAML

Collections are written in block style, two blanks deeper for each level; the items of a list under
a key stand below the key itself. Empty collections are written in brackets. Scalars that pass
column 80 are continued on the next line where a single blank allows it.
-/

namespace FlowCheck.Yaml

/-- The state of writing. -/
structure Printer where
  /-- The characters so far, the latest first. -/
  written : List Char
  /-- The column. -/
  column : Nat
  /-- The last character is white space, or separates tokens. -/
  spaced : Bool
  /-- Only indentation and indicators stand on the line. -/
  indenting : Bool
deriving Inhabited

namespace Printer

/-- Nothing is written. -/
def start : Printer := ⟨[], 0, true, true⟩

/-- The column after which scalars are continued on the next line. -/
def width : Nat := 80

/-- The number of blanks for each level. -/
def indentWidth : Nat := 2

/-- Writes characters of one line. -/
def put (printer : Printer) (chars : List Char) : Printer :=
  { printer with
    written := chars.reverse ++ printer.written
    column := printer.column + chars.length }

/-- Writes an indicator, after a blank if one is needed. -/
def indicator (printer : Printer) (text : String) (apart : Bool) (spaced indenting : Bool) :
    Printer :=
  let chars := if printer.spaced || !apart then text.toList else ' ' :: text.toList
  { printer.put chars with spaced, indenting := printer.indenting && indenting }

/-- Ends the line. -/
def newline (printer : Printer) (mark : Char) : Printer :=
  ⟨mark :: printer.written, 0, true, true⟩

/-- Goes to a column, on a new line unless only indentation is before it. -/
def toIndent (printer : Printer) (indent : Nat) : Printer :=
  -- the line is used on while only indentation and indicators stand on it
  let fresh :=
    printer.indenting && printer.column ≤ indent && (printer.column < indent || printer.spaced)
  let printer := if fresh then printer else printer.newline '\n'
  if printer.column < indent then
    { printer.put (List.replicate (indent - printer.column) ' ') with spaced := true }
  else printer

/-- The flags after a scalar. -/
def closed (printer : Printer) : Printer :=
  { printer with spaced := false, indenting := false }

/-- Runs of blanks, of line marks, and of other characters. -/
def runs (text : List Char) : List (List Char) :=
  text.splitBy fun a b =>
    (a == ' ') == (b == ' ') && Style.isLineMark a == Style.isLineMark b

/-- The run is a single blank at which the line is full. -/
def isFold (printer : Printer) (run : List Char) (folds : Bool) : Bool :=
  run == [' '] && width < printer.column && folds

/-- Writes the runs of a plain scalar. -/
def plainRuns (indent : Nat) (folds : Bool) : Printer → List (List Char) → Printer
  | printer, [] => printer
  | printer, run :: rest =>
    let printer :=
      if isFold printer run folds then (printer.toIndent indent).closed else printer.put run
    plainRuns indent folds printer rest

/-- Writes a plain scalar. -/
def plain (indent : Nat) (folds : Bool) (text : List Char) (printer : Printer) : Printer :=
  if text.isEmpty then printer
  else
    let printer := if printer.spaced then printer else printer.put [' ']
    plainRuns indent folds printer.closed (runs text)

/-- Writes a run of line marks and goes to the indentation. A line feed first is written twice. -/
def lineMarks (indent : Nat) (run : List Char) (printer : Printer) : Printer :=
  let printer := if run.head? == some '\n' then printer.newline '\n' else printer
  (run.foldl newline printer).toIndent indent

/-- A character between single quotes. -/
def singleChar (c : Char) : List Char :=
  if c == '\'' then ['\'', '\''] else [c]

/-- Writes the runs between single quotes. -/
def singleRuns (indent : Nat) (folds : Bool) : (first : Bool) → Printer → List (List Char) → Printer
  | _, printer, [] => printer
  | first, printer, run :: rest =>
    let printer :=
      if isFold printer run (folds && !first && !rest.isEmpty) then printer.toIndent indent
      else if run.any Style.isLineMark then lineMarks indent run printer
      else printer.put (run.flatMap singleChar)
    singleRuns indent folds false printer rest

/-- Writes a scalar between single quotes. -/
def single (indent : Nat) (folds : Bool) (text : List Char) (printer : Printer) : Printer :=
  let printer := printer.indicator "'" true false false
  (singleRuns indent folds true printer (runs text)).indicator "'" false false false

/-- The letters of the escapes of one character. -/
def escapeLetters : List (Char × Char) :=
  [('\x00', '0'), ('\x07', 'a'), ('\x08', 'b'), ('\t', 't'), ('\n', 'n'), ('\x0b', 'v'),
    ('\x0c', 'f'), ('\r', 'r'), ('\x1b', 'e'), ('"', '"'), ('\\', '\\'), ('\x85', 'N'),
    ('\xa0', '_'), ('\u2028', 'L'), ('\u2029', 'P')]

/-- A number in upper-case hexadecimal, padded with zeros. -/
def upperHex (width n : Nat) : List Char :=
  (Text.hex width n).map Char.toUpper

/-- The escape of a character. -/
def escape (c : Char) : List Char :=
  match escapeLetters.lookup c with
  | some letter => ['\\', letter]
  | none =>
    if c.toNat < 0x100 then '\\' :: 'x' :: upperHex 2 c.toNat
    else if c.toNat < 0x10000 then '\\' :: 'u' :: upperHex 4 c.toNat
    else '\\' :: 'U' :: upperHex 8 c.toNat

/-- The character needs an escape between double quotes. -/
def needsEscape (c : Char) : Bool :=
  let n := c.toNat
  c == '"' || c == '\\' || c == '\u2028' || c == '\u2029' || c == byteOrderMark ||
    !((0x20 ≤ n && n ≤ 0x7e) || (0xa0 ≤ n && n ≤ 0xfffd))

/-- Continues a double-quoted scalar on the next line; a blank that comes next is escaped. -/
def continued (indent : Nat) (next : Char) (printer : Printer) : Printer :=
  let printer := ((printer.put ['\\']).toIndent indent).closed
  if next == ' ' then printer.put ['\\'] else printer

/-- Writes the characters between double quotes. `inner` tells that the character is not the
first, and `escaped` that the one before it was an escape. -/
def doubleChars (indent : Nat) (folds : Bool) :
    (inner escaped : Bool) → Printer → List Char → Printer
  | _, _, printer, [] => printer
  | inner, escaped, printer, c :: rest =>
    let mayFold := folds && inner && !rest.isEmpty
    if needsEscape c then
      let printer := printer.put (escape c)
      let printer :=
        if mayFold && width + 1 < printer.column then
          printer.continued indent (rest.headD endMark)
        else printer
      doubleChars indent folds true true printer rest
    else
      let printer :=
        if mayFold && (c == ' ' || escaped) && width < printer.column then
          printer.continued indent c
        else printer
      doubleChars indent folds true false (printer.put [c]) rest

/-- Writes a scalar between double quotes. -/
def double (indent : Nat) (folds : Bool) (text : List Char) (printer : Printer) : Printer :=
  let printer := printer.indicator "\"" true false false
  (doubleChars indent folds false false printer text).indicator "\"" false false false

/-- Writes a text whose lines all end with a line feed as a block. -/
def literal (indent : Nat) (text : List Char) (printer : Printer) : Printer :=
  let printer := (printer.indicator "|" true false false).newline '\n'
  ((text.splitOn '\n').filter (!·.isEmpty)).foldl
    (fun printer line => ((printer.toIndent indent).put line).newline '\n') printer

/-- Writes a scalar, with its tag where one is needed. -/
def scalar (indent : Nat) (asKey : Bool) (form : ScalarForm) (printer : Printer) : Printer :=
  let style := Style.choose form asKey
  let printer :=
    if Style.needsTag form style then
      printer.indicator (Style.tagText form.tag) true false false
    else printer
  let text := form.text.toList
  match style with
  | .plain => plain indent (!asKey) text printer
  | .single => single indent (!asKey) text printer
  | .double => double indent (!asKey) text printer
  | .literal => literal indent text printer

/-- The indentation inside a collection; the outermost one is not indented. -/
def deeper : Option Nat → Nat
  | none => 0
  | some indent => indent + indentWidth

/-- The indentation of the further lines of a scalar. -/
def scalarIndent (indent : Option Nat) : Nat :=
  indent.getD 0 + indentWidth

/-- Writes brackets without content. -/
def brackets (opening closing : String) (printer : Printer) : Printer :=
  (printer.indicator opening true true false).indicator closing false false false

/-- Writes the tag of sets, which are written as mappings without values. -/
def setTag (printer : Printer) : Printer :=
  printer.indicator (Style.tagText Tag.set) true false false

/-- The key stands on its own line before its colon. -/
def isShortKey (key : Value) : Bool :=
  match ScalarForm.ofValue? key with
  | some (.ok form) => Style.isShortKey form
  | some (.error _) => false
  | none => !key.isGiven

/-- Writes a key, and the colon after it. A short key stands on its own line before the colon; any
other stands after a question mark, and what follows it on a line of its own. -/
def key (printer : Printer) (indent : Nat) (short : Bool)
    (write : (asKey : Bool) → Printer → Except Fault Printer) : Except Fault Printer := do
  let printer := printer.toIndent indent
  if short then
    let printer ← write true printer
    return printer.indicator ":" false false false
  else
    let printer ← write false (printer.indicator "?" true false true)
    return (printer.toIndent indent).indicator ":" true false true

mutual

/-- Writes a value. `underKey` tells that it is a key or the value of one, and `asKey` that it is a
key on its own line. -/
def value (indent : Option Nat) (underKey asKey : Bool) : Value → Printer → Except Fault Printer
  | .list [], printer => .ok (printer.brackets "[" "]")
  | .map [], printer => .ok (printer.brackets "\x7b" "\x7d")
  -- under a key the items stand at the column of the key
  | .list (item :: rest), printer =>
    items (if underKey && !printer.indenting then indent.getD 0 else deeper indent) (item :: rest)
      printer
  | .map (entry :: rest), printer => entries (deeper indent) (entry :: rest) printer
  | .set [], printer => .ok (printer.setTag.brackets "\x7b" "\x7d")
  | .set (member :: rest), printer =>
    members (deeper indent) (member :: rest) printer.setTag
  | other, printer =>
    match ScalarForm.ofValue? other with
    | some form => form.map fun form => printer.scalar (scalarIndent indent) asKey form
    | none => .ok printer
termination_by structural value => value

/-- Writes the items of a list. -/
def items (indent : Nat) : List Value → Printer → Except Fault Printer
  | [], printer => .ok printer
  | item :: rest, printer => do
    let printer := (printer.toIndent indent).indicator "-" true false true
    let printer ← value (some indent) false false item printer
    items indent rest printer
termination_by structural items => items

/-- Writes the entries of a mapping. -/
def entries (indent : Nat) : List (Value × Value) → Printer → Except Fault Printer
  | [], printer => .ok printer
  | (key, content) :: rest, printer => do
    let printer ← printer.key indent (isShortKey key) fun asKey printer =>
      value (some indent) true asKey key printer
    let printer ← value (some indent) true false content printer
    entries indent rest printer
termination_by structural entries => entries

/-- Writes the members of a set, each as a key with null. -/
def members (indent : Nat) : List Value → Printer → Except Fault Printer
  | [], printer => .ok printer
  | member :: rest, printer => do
    let printer ← printer.key indent (isShortKey member) fun asKey printer =>
      value (some indent) true asKey member printer
    members indent rest (printer.scalar (scalarIndent (some indent)) false ScalarForm.null)
termination_by structural members => members

end

end Printer

/-- A value as YAML text. -/
def dump (value : Value) : Except Fault String := do
  let printer ← Printer.value none false false value Printer.start
  return String.ofList (printer.toIndent 0).written.reverse

end FlowCheck.Yaml
