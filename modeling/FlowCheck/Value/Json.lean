import FlowCheck.Value.Display

/-!
# Values as JSON text

The text is ASCII. Without an indent it is one line, with a blank after commas and colons; with
an indent every item has its own line. Dates, byte strings and sets have no form in JSON, neither as
values nor as keys, and other collections none as keys.
-/

namespace FlowCheck.Value

/-- One UTF-16 unit as an escape. -/
def jsonUnit (n : Nat) : List Char :=
  '\\' :: 'u' :: Text.hex 4 n

/-- A character inside a JSON string. -/
def jsonChar (c : Char) : List Char :=
  if c = '"' || c = '\\' then ['\\', c]
  else if c = '\n' then ['\\', 'n']
  else if c = '\r' then ['\\', 'r']
  else if c = '\t' then ['\\', 't']
  else if c = '\x08' then ['\\', 'b']
  else if c = '\x0c' then ['\\', 'f']
  else if 0x20 ≤ c.toNat && c.toNat < 0x7f then [c]
  else if c.toNat < 0x10000 then jsonUnit c.toNat
  else
    let n := c.toNat - 0x10000
    jsonUnit (0xd800 + n / 0x400) ++ jsonUnit (0xdc00 + n % 0x400)

/-- A text as a JSON string. -/
def jsonString (text : String) : String :=
  String.ofList ('"' :: text.toList.flatMap jsonChar ++ ['"'])

/-- A number as JSON writes it. -/
def jsonNumber : Binary64 → String
  | .nan => "NaN"
  | .infinite negative => if negative then "-Infinity" else "Infinity"
  | x => x.text

/-- A scalar as JSON. -/
def jsonScalar : Value → Except Fault String
  | .null => .ok "null"
  | .bool b => .ok (if b then "true" else "false")
  | .int n => intText n
  | .float x => .ok (jsonNumber x)
  | .str s => .ok (jsonString s)
  | _ => .error .notJson

/-- A key as JSON: texts as they are, other scalars as the text of their JSON. -/
def jsonKey : Value → Except Fault String
  | .str s => .ok (jsonString s)
  | other => (jsonScalar other).map jsonString

/-- The layout: the number of blanks for each level, or one line. A negative number counts as 0. -/
abbrev Indent := Option Int

/-- What stands before an item at a level. -/
def Indent.lead (indent : Indent) (level : Nat) : String :=
  match indent with
  | none => ""
  | some width => String.ofList ('\n' :: List.replicate (width.toNat * level) ' ')

/-- What stands between two items at a level. -/
def Indent.separator (indent : Indent) (level : Nat) : String :=
  match indent with
  | none => ", "
  | some _ => "," ++ indent.lead level

/-- Items between brackets, at the level of the collection. -/
def Indent.block (indent : Indent) (level : Nat) (opening closing : String)
    (items : List String) : String :=
  if items.isEmpty then opening ++ closing
  else
    opening ++ indent.lead (level + 1) ++ String.intercalate (indent.separator (level + 1)) items ++
      indent.lead level ++ closing

mutual

/-- A value as JSON, at a level of nesting. -/
def jsonAt (indent : Indent) (level : Nat) : Value → Except Fault String
  | .list items => do
    let items ← jsonItems indent (level + 1) items
    return indent.block level "[" "]" items
  | .map entries => do
    let entries ← jsonEntries indent (level + 1) entries
    return indent.block level "\x7b" "\x7d" entries
  | scalar => jsonScalar scalar
termination_by structural value => value

/-- The items of a list as JSON. -/
def jsonItems (indent : Indent) (level : Nat) : List Value → Except Fault (List String)
  | [] => .ok []
  | item :: rest => do
    let first ← jsonAt indent level item
    let others ← jsonItems indent level rest
    return first :: others
termination_by structural items => items

/-- The entries of a mapping as JSON. -/
def jsonEntries (indent : Indent) (level : Nat) :
    List (Value × Value) → Except Fault (List String)
  | [] => .ok []
  | (key, value) :: rest => do
    let key ← jsonKey key
    let value ← jsonAt indent level value
    let others ← jsonEntries indent level rest
    return (key ++ ": " ++ value) :: others
termination_by structural entries => entries

end

/-- A value as JSON. -/
def json (value : Value) (indent : Indent) : Except Fault String :=
  jsonAt indent 0 value

end FlowCheck.Value
