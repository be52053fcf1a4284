import FlowCheck.Yaml.Schema

/-!
# How scalars are written

Every value but a collection is written as a text with a tag. The text is plain if it can be, and
if a reader gives it the same tag; otherwise it stands between single quotes, or between double
quotes when it holds characters that only an escape can show.
-/

namespace FlowCheck.Yaml

/-- A scalar to be written: its tag and its text. -/
structure ScalarForm where
  /-- The tag. -/
  tag : String
  /-- The text. -/
  text : String
  /-- The text is better written as a block. -/
  block : Bool := false
deriving DecidableEq, Inhabited

namespace ScalarForm

/-- The letter for a sextet in the base 64 alphabet. -/
def sextetChar (n : Nat) : Char :=
  if n < 26 then Char.ofNat ('A'.toNat + n)
  else if n < 52 then Char.ofNat ('a'.toNat + (n - 26))
  else if n < 62 then Char.ofNat ('0'.toNat + (n - 52))
  else if n = 62 then '+'
  else '/'

/-- The base 64 text of bytes. -/
def base64 : List UInt8 → List Char
  | a :: b :: c :: rest =>
    let n := a.toNat * 65536 + b.toNat * 256 + c.toNat
    sextetChar (n / 262144) :: sextetChar (n / 4096 % 64) :: sextetChar (n / 64 % 64) ::
      sextetChar (n % 64) :: base64 rest
  | [a, b] =>
    let n := a.toNat * 1024 + b.toNat * 4
    [sextetChar (n / 4096), sextetChar (n / 64 % 64), sextetChar (n % 64), '=']
  | [a] => [sextetChar (a.toNat / 4), sextetChar (a.toNat % 4 * 16), '=', '=']
  | [] => []

/-- The number of bytes in a line of base 64 text. -/
def lineBytes : Nat := 57

/-- Bytes as lines of base 64 text. -/
def base64Lines : (count : Nat) → List UInt8 → List Char
  | _, [] => []
  | 0, _ => []
  | count + 1, bytes =>
    base64 (bytes.take lineBytes) ++ '\n' :: base64Lines count (bytes.drop lineBytes)

/-- A number with a point. An exponent always follows a point. -/
def floatText (x : Binary64) : String :=
  match x with
  | .nan => ".nan"
  | .infinite negative => if negative then "-.inf" else ".inf"
  | x =>
    let text := x.text.toList
    -- a reader takes an exponent for one only behind a point
    if text.contains '.' then x.text
    else
      String.ofList
        (text.takeWhile (· != 'e') ++
          (if text.contains 'e' then ".0".toList else []) ++ text.dropWhile (· != 'e'))

/-- The form of null. -/
def null : ScalarForm := ⟨Tag.standard "null", "null", false⟩

/-- The form of a value that is not a collection. -/
def ofValue? : Value → Option (Except Fault ScalarForm)
  | .null => some (.ok null)
  | .bool b => some (.ok ⟨Tag.standard "bool", if b then "true" else "false", false⟩)
  | .int n => some ((Value.intText n).map fun text => ⟨Tag.standard "int", text, false⟩)
  | .float x => some (.ok ⟨Tag.standard "float", floatText x, false⟩)
  | .str s => some (.ok ⟨Tag.str, s, false⟩)
  | .bytes bs =>
    some (.ok ⟨Tag.standard "binary", String.ofList (base64Lines bs.length bs), true⟩)
  | .date d => some (.ok ⟨Tag.standard "timestamp", d.text, false⟩)
  | .moment m => some (.ok ⟨Tag.standard "timestamp", m.text, false⟩)
  | .list _ => none
  | .map _ => none
  | .set _ => none

end ScalarForm

/-- The ways to write a scalar. -/
inductive Style where
  /-- Without quotes. -/
  | plain
  /-- Between single quotes. -/
  | single
  /-- Between double quotes. -/
  | double
  /-- As a block that keeps its lines. -/
  | literal
deriving DecidableEq, Inhabited

namespace Style

/-- The character divides lines inside a text. -/
def isLineMark (c : Char) : Bool :=
  c == '\n' || c == '\x85' || c == '\u2028' || c == '\u2029'

/-- The character can stand in a text without an escape. -/
def isShown (c : Char) : Bool :=
  let n := c.toNat
  c == '\n' || (0x20 ≤ n && n ≤ 0x7e) || n == 0x85 ||
    (((0xa0 ≤ n && n ≤ 0xfffd) || (0x10000 ≤ n && n < 0x10ffff)) && c != byteOrderMark)

/-- Two neighbours that satisfy `p` and `q`. -/
def hasNeighbours (p q : Char → Bool) (text : List Char) : Bool :=
  (text.zip text.tail).any fun pair => p pair.1 && q pair.2

/-- The character starts something other than a plain scalar. -/
def isOpening (c : Char) : Bool :=
  ['#', ',', '[', ']', '{', '}', '&', '*', '!', '|', '>', '\'', '"', '%', '@', '\x60'].contains c

/-- A colon before a separator, or a number sign after one, inside a text. -/
def hasIndicator : (previous : Char) → List Char → Bool
  | _, [] => false
  | previous, c :: rest =>
    (c == ':' && isSeparator (rest.headD endMark)) || (c == '#' && isSeparator previous) ||
      hasIndicator c rest

/-- A plain text would be taken for something else. -/
def isMistakable (text : List Char) : Bool :=
  match text with
  | [] => false
  | c :: rest =>
    "---".toList.isPrefixOf text || "...".toList.isPrefixOf text || isOpening c ||
      (['?', ':', '-'].contains c && isSeparator (rest.headD endMark)) || hasIndicator c rest

/-- The text has several lines. -/
def isMultiline (text : List Char) : Bool :=
  text.any isLineMark

/-- The text can stand between single quotes. -/
def allowsSingle (text : List Char) : Bool :=
  text.all isShown && !hasNeighbours (· == ' ') isLineMark text &&
    !hasNeighbours isLineMark (· == ' ') text

/-- The text can stand without quotes. -/
def allowsPlain (text : List Char) : Bool :=
  allowsSingle text && !isMultiline text && !isMistakable text &&
    text.head? != some ' ' && text.getLast? != some ' '

/-- The way to write a scalar, as a key on its own line or elsewhere. -/
def choose (form : ScalarForm) (asKey : Bool) : Style :=
  let text := form.text.toList
  if form.block then if asKey || text.isEmpty then .double else .literal
  else if Schema.plainTag form.text == form.tag && !(asKey && text.isEmpty) && allowsPlain text then
    .plain
  else if allowsSingle text && !(asKey && isMultiline text) then .single
  else .double

/-- The tag has to be written, because a reader would give another one. -/
def needsTag (form : ScalarForm) (style : Style) : Bool :=
  match style with
  | .plain => Schema.plainTag form.text != form.tag
  | _ => form.tag != Tag.str

/-- A tag as it is written. -/
def tagText (tag : String) : String :=
  match (Tag.standard "").toList.isPrefixOf? tag.toList with
  | some rest => "!!" ++ String.ofList rest
  | none => "!<" ++ tag ++ ">"

/-- The longest text, with its tag, that is a key on its own line. -/
def keyReach : Nat := 128

/-- The scalar can be a key on its own line. -/
def isShortKey (form : ScalarForm) : Bool :=
  (tagText form.tag).length + form.text.length < keyReach && form.text != "" &&
    !isMultiline form.text.toList

end Style

end FlowCheck.Yaml
