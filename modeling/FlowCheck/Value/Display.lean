import FlowCheck.Value
import FlowCheck.Fault

/-!
# Values as text

A text stands for itself. Inside a list or a mapping it is quoted, and every other value is
written the same way in both places. Integers of more than 4300 digits are never written.
-/

namespace FlowCheck.Value

/-- The most decimal digits that an integer is written or read with. -/
def maxDigits : Nat := 4300

/-- An integer in decimal. -/
def intText (n : Int) : Except Fault String :=
  if n.natAbs < Nat.pow 10 maxDigits then .ok (toString n) else .error .numberTooLong

/-- A scalar inside a listing. -/
def scalarDisplay : Value → Except Fault String
  | .null => .ok "None"
  | .bool b => .ok (if b then "True" else "False")
  | .int n => intText n
  | .float x => .ok x.text
  | .str s => .ok (Text.quoted s)
  | .bytes bs => .ok (Text.quotedBytes bs)
  | .date d => .ok d.display
  | .moment m => .ok m.display
  | .list _ => .ok "[...]"
  | .map _ => .ok "\x7b...\x7d"
  | .set _ => .ok "\x7b...\x7d"

mutual

/-- A value inside a listing. -/
def display : Value → Except Fault String
  | .list items => do
    let parts ← displayItems items
    return "[" ++ String.intercalate ", " parts ++ "]"
  | .map entries => do
    let parts ← displayEntries entries
    return "\x7b" ++ String.intercalate ", " parts ++ "\x7d"
  -- braces without content are the empty mapping
  | .set [] => .ok "set()"
  | .set (member :: rest) => do
    let first ← member.display
    let others ← displayItems rest
    return "\x7b" ++ String.intercalate ", " (first :: others) ++ "\x7d"
  | scalar => scalarDisplay scalar
termination_by structural x => x

/-- The items of a list, or members of a set, each as it shows inside a listing. -/
def displayItems : List Value → Except Fault (List String)
  | [] => .ok []
  | x :: xs => do
    let first ← x.display
    let rest ← displayItems xs
    return first :: rest
termination_by structural xs => xs

/-- The entries of a mapping, each as key, colon and value. -/
def displayEntries : List (Value × Value) → Except Fault (List String)
  | [] => .ok []
  | (k, v) :: rest => do
    let key ← k.display
    let value ← v.display
    let others ← displayEntries rest
    return (key ++ ": " ++ value) :: others
termination_by structural xs => xs

end

/-- A value as text. -/
def text : Value → Except Fault String
  | .str s => .ok s
  | .date d => .ok d.text
  | .moment m => .ok m.text
  | other => other.display

/-- The texts in a listing. -/
def listing (texts : List String) : String :=
  "[" ++ String.intercalate ", " (texts.map Text.quoted) ++ "]"

/-- A text is its own text. -/
@[simp]
theorem text_str (s : String) : text (.str s) = .ok s := rfl

end FlowCheck.Value
