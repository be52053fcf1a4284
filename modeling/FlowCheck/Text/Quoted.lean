import FlowCheck.Text.Printable

/-!
# Quoted texts

How a text shows inside a listing: between quotes, with every character that is not printable
written as an escape. Single quotes are used unless the text holds a single quote and no double
quote.
-/

namespace FlowCheck.Text

/-- A number in lower-case hexadecimal, padded with zeros to `width` digits. -/
def hex (width n : Nat) : List Char :=
  let digits := Nat.toDigits 16 n
  List.replicate (width - digits.length) '0' ++ digits

/-- One character inside quotes of the kind `quote`. -/
def quoteChar (quote c : Char) : List Char :=
  if c = quote || c = '\\' then ['\\', c]
  else if c = '\n' then ['\\', 'n']
  else if c = '\r' then ['\\', 'r']
  else if c = '\t' then ['\\', 't']
  else if isPrintable c then [c]
  else if c.toNat < 0x100 then '\\' :: 'x' :: hex 2 c.toNat
  else if c.toNat < 0x10000 then '\\' :: 'u' :: hex 4 c.toNat
  else '\\' :: 'U' :: hex 8 c.toNat

/-- The quote that encloses a text. -/
def quoteFor (text : List Char) : Char :=
  if text.contains '\'' && !text.contains '"' then '"' else '\''

/-- A text between quotes. -/
def quoted (text : String) : String :=
  let quote := quoteFor text.toList
  String.ofList (quote :: text.toList.flatMap (quoteChar quote) ++ [quote])

/-- One byte inside quotes of the kind `quote`. -/
def quoteByte (quote : Char) (b : UInt8) : List Char :=
  let c := Char.ofNat b.toNat
  if c = quote || c = '\\' then ['\\', c]
  else if c = '\n' then ['\\', 'n']
  else if c = '\r' then ['\\', 'r']
  else if c = '\t' then ['\\', 't']
  else if 0x20 ≤ b.toNat && b.toNat < 0x7f then [c]
  else '\\' :: 'x' :: hex 2 b.toNat

/-- A byte string between quotes, marked by a `b` in front. -/
def quotedBytes (bytes : List UInt8) : String :=
  let quote := quoteFor (bytes.map fun b => Char.ofNat b.toNat)
  String.ofList ('b' :: quote :: bytes.flatMap (quoteByte quote) ++ [quote])

end FlowCheck.Text
