import FlowCheck.Text.Numeral
import FlowCheck.Value.Display
import FlowCheck.Yaml.Cursor
import FlowCheck.Yaml.Stamp

/-!
# What plain scalars mean

The tags of the standard types, the patterns by which a plain scalar gets one of them, and the
value of a scalar with a tag.
-/

namespace FlowCheck.Yaml

/-- The start of the standard tags. -/
def Tag.standard (name : String) : String := "tag:yaml.org,2002:" ++ name

namespace Tag

/-- The tag of texts. -/
def str : String := standard "str"

/-- The tag of lists. -/
def seq : String := standard "seq"

/-- The tag of mappings. -/
def map : String := standard "map"

/-- The tag of keys whose values are merged into their mapping. -/
def merge : String := standard "merge"

/-- The tag of keys whose values stand for their mapping. -/
def value : String := standard "value"

/-- The tag of sets. -/
def set : String := standard "set"

/-- The tag of ordered mappings. -/
def omap : String := standard "omap"

/-- The tag of lists of pairs. -/
def pairs : String := standard "pairs"

end Tag

namespace Schema

/-- The words for true. -/
def trueWords : List String :=
  ["yes", "Yes", "YES", "true", "True", "TRUE", "on", "On", "ON"]

/-- The words for false. -/
def falseWords : List String :=
  ["no", "No", "NO", "false", "False", "FALSE", "off", "Off", "OFF"]

/-- The words for the absence of a value. -/
def nullWords : List String := ["", "~", "null", "Null", "NULL"]

/-- The text without a sign in front. -/
def unsigned : List Char → List Char
  | c :: rest => if c == '+' || c == '-' then rest else c :: rest
  | [] => []

/-- A decimal digit or an underscore. -/
def isDigitOrBar (c : Char) : Bool :=
  c.isDigit || c == '_'

/-- An octal digit. -/
def isOctalDigit (c : Char) : Bool :=
  '0' ≤ c && c ≤ '7'

/-- Digits and underscores that start with a digit that satisfies `p`. -/
def isGrouped (p : Char → Bool) : List Char → Bool
  | c :: rest => p c && rest.all isDigitOrBar
  | [] => false

/-- At least one digit that satisfies `p`, or underscores. -/
def isDigits (p : Char → Bool) (text : List Char) : Bool :=
  !text.isEmpty && text.all fun c => p c || c == '_'

/-- A further part of a number to the base 60. -/
def isSixtieth : List Char → Bool
  | [c] => c.isDigit
  | [c, d] => '0' ≤ c && c ≤ '5' && d.isDigit
  | _ => false

/-- Parts between colons, the first of which satisfies `p`. -/
def isSexagesimal (p : List Char → Bool) (text : List Char) : Bool :=
  match text.splitOn ':' with
  | first :: second :: rest => p first && (second :: rest).all isSixtieth
  | _ => false

/-- The digit is not zero. -/
def isLeading (c : Char) : Bool :=
  c.isDigit && c != '0'

/-- A plain scalar counts as an integer. -/
def isInt (text : List Char) : Bool :=
  let body := unsigned text
  match body with
  | ['0'] => true
  | '0' :: 'b' :: digits => isDigits (fun c => c == '0' || c == '1') digits
  | '0' :: 'x' :: digits => isDigits isHexDigit digits
  | '0' :: digits => isDigits isOctalDigit digits
  | _ => isGrouped isLeading body || isSexagesimal (isGrouped isLeading) body

/-- An exponent with a sign, or nothing. -/
def isExponent : List Char → Bool
  | [] => true
  | c :: sign :: digits =>
    (c == 'e' || c == 'E') && (sign == '+' || sign == '-') && !digits.isEmpty &&
      digits.all Char.isDigit
  | _ => false

/-- A plain scalar counts as a number with a point. -/
def isFloat (text : List Char) : Bool :=
  let body := unsigned text
  let whole := body.takeWhile (· != '.')
  match body.dropWhile (· != '.') with
  | '.' :: fraction =>
    let tail := fraction.dropWhile isDigitOrBar
    (isGrouped Char.isDigit whole && isExponent tail) ||
      (text.head? == some '.' && (fraction.head?).any Char.isDigit && isExponent tail) ||
      (isSexagesimal (isGrouped Char.isDigit) whole && tail.isEmpty) ||
      (whole.isEmpty && ["inf", "Inf", "INF"].contains (String.ofList fraction)) ||
      (text.head? == some '.' && ["nan", "NaN", "NAN"].contains (String.ofList fraction))
  | _ => false

/-- A text without the line feed at its end, unless it is nothing else. The patterns of plain
scalars pass over a line feed there. -/
def withoutBreak (text : List Char) : List Char :=
  if text.getLast? == some '\n' && text.length ≠ 1 then text.dropLast else text

/-- The tag that a plain scalar gets by its text. -/
def plainTag (text : String) : String :=
  let chars := withoutBreak text.toList
  let text := String.ofList chars
  if trueWords.contains text || falseWords.contains text then Tag.standard "bool"
  else if isFloat chars then Tag.standard "float"
  else if isInt chars then Tag.standard "int"
  else if text == "<<" then Tag.merge
  else if nullWords.contains text then Tag.standard "null"
  else if Stamp.isPlain chars then Tag.standard "timestamp"
  else if text == "=" then Tag.value
  else if ["!", "&", "*"].contains text then Tag.standard "yaml"
  else Tag.str

/-- The digit of a character to a base up to 16. -/
def digit? (base : Nat) (c : Char) : Option Nat :=
  if isHexDigit c then (some (hexValue [c])).filter (· < base) else none

/-- The value of digits to a base. -/
def natOf? (base : Nat) (digits : List Char) : Option Nat :=
  if digits.isEmpty then none
  else digits.foldlM (fun n c => (digit? base c).map fun d => base * n + d) 0

/-- The letter after a zero in front of the digits to a base. -/
def baseMark (base : Nat) : Char :=
  if base = 2 then 'b' else if base = 8 then 'o' else 'x'

/-- Digits without the mark of their base. -/
def withoutMark (base : Nat) (digits : List Char) : List Char :=
  match digits with
  | '0' :: c :: rest => if base ≠ 10 && c.toLower == baseMark base then rest else digits
  | _ => digits

/-- White space around a number. -/
def isNumberBlank (c : Char) : Bool :=
  c == ' ' || (0x09 ≤ c.toNat && c.toNat ≤ 0x0d)

/-- The text of a number without the white space around it. -/
def numerals (text : List Char) : List Char :=
  Text.dropEndWhile isNumberBlank ((text.map Text.numeral).dropWhile isNumberBlank)

/-- An integer to a base, with white space around it, a sign and the mark of the base. -/
def intOf (base : Nat) (text : List Char) : Except ReadError Int :=
  let trimmed := numerals text
  let digits := withoutMark base (unsigned trimmed)
  -- only decimal digits are bounded in number
  if base = 10 && Value.maxDigits < digits.length then .error (.fault .numberTooLong)
  else
    match natOf? base digits with
    | none => .error (.fault .notNumber)
    | some n => .ok (if trimmed.head? == some '-' then -n else n)

/-- The value of parts to the base 60, the smallest first. -/
def sixtieths : List Int → Int
  | [] => 0
  | part :: rest => part + 60 * sixtieths rest

/-- The integer that a scalar without underscores and without a sign in front stands for. -/
def intSize (body : List Char) : Except ReadError Int :=
  match body with
  | [] => .error (.fault .emptyNumber)
  | ['0'] => .ok 0
  | '0' :: 'b' :: digits => intOf 2 digits
  | '0' :: 'x' :: digits => intOf 16 digits
  -- a zero in front makes the digits octal
  | '0' :: _ => intOf 8 body
  | _ =>
    if body.contains ':' then
      ((body.splitOn ':').mapM (intOf 10)).map fun parts => sixtieths parts.reverse
    else intOf 10 body

/-- The integer that a scalar stands for. -/
def intValue (text : List Char) : Except ReadError Int :=
  let text := text.filter (· != '_')
  (intSize (unsigned text)).map fun size => if text.head? == some '-' then -size else size

/-- A number in decimal, with white space around it. -/
def floatOf (text : List Char) : Except ReadError Binary64 :=
  match Binary64.ofText? (numerals text) with
  | some x => .ok x
  | none => .error (.fault .notNumber)

/-- The sum of parts to the base 60, the smallest first. The unit of each part, the part and the sum
are rounded, and a unit must not be too large for that. -/
def sumSixtieths : (sum : Binary64) → (unit : Nat) → List Binary64 → Except ReadError Binary64
  | sum, _, [] => .ok sum
  | sum, unit, part :: rest =>
    let size := Binary64.ofInt unit
    if size.isFinite then sumSixtieths (sum.add (part.mul size)) (60 * unit) rest
    else .error (.fault .numberTooLarge)

/-- The number with a point that a scalar in small letters, without underscores and without a sign
in front stands for. -/
def floatSize (body : List Char) : Except ReadError Binary64 :=
  if body == ".inf".toList then .ok (.infinite false)
  else if body == ".nan".toList then .ok .nan
  else if body.contains ':' then
    (body.splitOn ':').mapM floatOf >>= fun parts => sumSixtieths .zero 1 parts.reverse
  else floatOf body

/-- The number with a point that a scalar stands for. -/
def floatValue (text : List Char) : Except ReadError Binary64 :=
  let text := (text.filter (· != '_')).map Char.toLower
  if text.isEmpty then .error (.fault .emptyNumber)
  else
    (floatSize (unsigned text)).map fun size =>
      if text.head? == some '-' then size.neg else size

/-- The truth value that a scalar stands for. -/
def boolValue (text : List Char) : Except ReadError Bool :=
  let word := String.ofList (text.map Char.toLower)
  if ["yes", "true", "on"].contains word then .ok true
  else if ["no", "false", "off"].contains word then .ok false
  else .error (.fault .notTruthValue)

/-- The date or moment that a scalar stands for. -/
def stampValue (text : List Char) : Except ReadError Value :=
  match Stamp.ofText? (withoutBreak text) with
  | none => .error (.fault .notTimestamp)
  | some stamp =>
    match stamp.moment? with
    | none => if stamp.date.isValid then .ok (.date stamp.date) else .error (.fault .noSuchTime)
    | some moment => if moment.isValid then .ok (.moment moment) else .error (.fault .noSuchTime)

/-- The value of a character of the base 64 alphabet. -/
def sextet? (c : Char) : Option Nat :=
  if 'A' ≤ c && c ≤ 'Z' then some (c.toNat - 'A'.toNat)
  else if 'a' ≤ c && c ≤ 'z' then some (c.toNat - 'a'.toNat + 26)
  else if c.isDigit then some (c.toNat - '0'.toNat + 52)
  else if c == '+' then some 62
  else if c == '/' then some 63
  else none

/-- The bytes of a base 64 text. Characters outside of the alphabet are skipped, and the padding
that completes a group of four ends the text. `place` is the place in the group, `carry` holds the
bits that no byte has taken yet, and `pads` counts the padding characters in a row. -/
def bytesOf? : (place carry pads : Nat) → List Char → Option (List UInt8)
  | place, _, _, [] => if place = 0 then some [] else none
  | place, carry, pads, c :: rest =>
    if c == '=' then
      if 2 ≤ place && 4 ≤ place + pads + 1 then some []
      else bytesOf? place carry (if 2 ≤ place then pads + 1 else pads) rest
    else
      match sextet? c with
      | none => bytesOf? place carry pads rest
      | some n =>
        match place with
        | 0 => bytesOf? 1 n 0 rest
        | 1 => (bytesOf? 2 (n % 16) 0 rest).map (UInt8.ofNat (carry * 4 + n / 16) :: ·)
        | 2 => (bytesOf? 3 (n % 4) 0 rest).map (UInt8.ofNat (carry * 16 + n / 4) :: ·)
        | _ => (bytesOf? 0 0 0 rest).map (UInt8.ofNat (carry * 64 + n) :: ·)

/-- The byte string that a scalar stands for. -/
def binaryValue (text : List Char) : Except ReadError Value :=
  if text.any (0x80 ≤ ·.toNat) then .error .malformed
  else
    match bytesOf? 0 0 0 text with
    | some bytes => .ok (.bytes bytes)
    | none => .error .malformed

/-- The value of a scalar with a tag, if its tag is that of scalars. -/
def scalarValue? (tag text : String) : Option (Except ReadError Value) :=
  let chars := text.toList
  if tag == Tag.str then some (.ok (.str text))
  else if tag == Tag.standard "null" then some (.ok .null)
  else if tag == Tag.standard "bool" then some ((boolValue chars).map .bool)
  else if tag == Tag.standard "int" then some ((intValue chars).map .int)
  else if tag == Tag.standard "float" then some ((floatValue chars).map .float)
  else if tag == Tag.standard "timestamp" then some (stampValue chars)
  else if tag == Tag.standard "binary" then some (binaryValue chars)
  else none

end Schema

end FlowCheck.Yaml
