import FlowCheck.Number.Decimal
import FlowCheck.Calendar
import FlowCheck.Text.Quoted

/-!
# Document values

The values that documents hold: scalars, lists, mappings whose entries keep their order, and sets.
A mapping is a list of entries; reading keeps one entry for each key, and one of equal members of a
set. Values are finite, so that none holds itself, and their texts consist of whole characters.
-/

namespace FlowCheck

/-- A value of a document. -/
inductive Value where
  /-- The absence of a value. -/
  | null
  /-- A truth value. -/
  | bool (b : Bool)
  /-- An integer of any size. -/
  | int (n : Int)
  /-- A floating-point number. -/
  | float (x : Binary64)
  /-- A text. -/
  | str (s : String)
  /-- A byte string. -/
  | bytes (bs : List UInt8)
  /-- A date. -/
  | date (d : Date)
  /-- A date with a time of day. -/
  | moment (m : Moment)
  /-- A list. -/
  | list (items : List Value)
  /-- A mapping. -/
  | map (entries : List (Value × Value))
  /-- A set. -/
  | set (members : List Value)
deriving Inhabited

/-- The entries of a mapping, in order. -/
abbrev Entries := List (Value × Value)

/-- The sorts of values that messages tell apart. -/
inductive Kind where
  | null | bool | int | float | str | bytes | date | moment | list | map | set
deriving DecidableEq, Inhabited

/-- The name of a sort of values in a message. -/
def Kind.name : Kind → String
  | .null => "NoneType"
  | .bool => "bool"
  | .int => "int"
  | .float => "float"
  | .str => "str"
  | .bytes => "bytes"
  | .date => "date"
  | .moment => "datetime"
  | .list => "list"
  | .map => "dict"
  | .set => "set"

namespace Value

/-- The sort of a value. -/
def kind : Value → Kind
  | .null => .null
  | .bool _ => .bool
  | .int _ => .int
  | .float _ => .float
  | .str _ => .str
  | .bytes _ => .bytes
  | .date _ => .date
  | .moment _ => .moment
  | .list _ => .list
  | .map _ => .map
  | .set _ => .set

/-- The value is absent. -/
def isNull : Value → Bool
  | .null => true
  | _ => false

/-- The value counts as given: it is not absent, false, zero or empty. -/
def isGiven : Value → Bool
  | .null => false
  | .bool b => b
  | .int n => n != 0
  | .float x => !x.isZero
  | .str s => s != ""
  | .bytes bs => !bs.isEmpty
  | .date _ => true
  | .moment _ => true
  | .list items => !items.isEmpty
  | .map entries => !entries.isEmpty
  | .set members => !members.isEmpty

/-- The value is the text `s`. -/
def isStr (s : String) : Value → Bool
  | .str t => t == s
  | _ => false

/-- The text, if the value is one. -/
def str? : Value → Option String
  | .str s => some s
  | _ => none

/-- The value, unless it is null. -/
def given? (value : Value) : Option Value :=
  if value.isNull then none else some value

/-- A text, or the absence of a value. -/
def ofStr? : Option String → Value
  | some s => .str s
  | none => .null

mutual

/-- The values are equal: numbers and truth values by their numeric value, mappings as sets of
entries, moments as instants, sets by their members, everything else by its parts. -/
def same : Value → Value → Bool
  | .null, .null => true
  | .bool a, .bool b => a == b
  | .bool a, .int n => n == a.toInt
  | .int n, .bool a => n == a.toInt
  | .int a, .int b => a == b
  | .bool a, .float x => x.isInt a.toInt
  | .float x, .bool a => x.isInt a.toInt
  | .int n, .float x => x.isInt n
  | .float x, .int n => x.isInt n
  | .float x, .float y => x.same y
  | .str a, .str b => a == b
  | .bytes a, .bytes b => a == b
  | .date a, .date b => a == b
  | .moment a, .moment b => a.same b
  | .list xs, .list ys => sameItems xs ys
  | .map xs, .map ys => xs.length == ys.length && sameEntries xs ys
  | .set xs, .set ys => xs.length == ys.length && sameMembers xs ys
  | _, _ => false
termination_by structural x => x

/-- The lists have equal items at equal places. -/
def sameItems : List Value → List Value → Bool
  | [], [] => true
  | x :: xs, y :: ys => x.same y && sameItems xs ys
  | _, _ => false
termination_by structural xs => xs

/-- Every entry of the first list is an entry of the second. -/
def sameEntries : List (Value × Value) → List (Value × Value) → Bool
  | [], _ => true
  | (k, v) :: rest, ys =>
    ys.any (fun entry => k.same entry.1 && v.same entry.2) && sameEntries rest ys
termination_by structural xs => xs

/-- Every member of the first set is a member of the second. -/
def sameMembers : List Value → List Value → Bool
  | [], _ => true
  | x :: xs, ys => ys.any x.same && sameMembers xs ys
termination_by structural xs => xs

end

end Value

namespace Value

/-- Only null counts as absent. -/
theorem isNull_iff {value : Value} : value.isNull = true ↔ value = .null := by
  cases value <;> simp [isNull]

end Value

namespace Entries

/-- The value under a text key. -/
def find? (entries : Entries) (key : String) : Option Value :=
  (List.find? (fun entry => entry.1.isStr key) entries).map Prod.snd

/-- The value under a text key; nothing there counts as absent. -/
def get (entries : Entries) (key : String) : Value :=
  (entries.find? key).getD .null

/-- There is an entry under a text key. -/
def has (entries : Entries) (key : String) : Bool :=
  (entries.find? key).isSome

/-- Puts a value under a key. A key that is there keeps its place and takes the new value. -/
def insert (entries : Entries) (key value : Value) : Entries :=
  match entries with
  | [] => [(key, value)]
  | (k, v) :: rest =>
    if k.same key then (k, value) :: rest else (k, v) :: insert rest key value

/-- The entries for keys and values in the order in which they are written. -/
def ofPairs (pairs : List (Value × Value)) : Entries :=
  pairs.foldl (fun entries pair => entries.insert pair.1 pair.2) []

/-- The entries whose key is none of the given texts. -/
def without (entries : Entries) (keys : List String) : Entries :=
  entries.filter fun entry => !keys.any fun key => entry.1.isStr key

/-- The entries for fields in order. A field without a value is left out. -/
def ofFields (fields : List (String × Option Value)) : Entries :=
  fields.filterMap fun (key, value) => value.map (.str key, ·)

@[simp]
theorem find?_nil (key : String) : Entries.find? [] key = none := rfl

/-- The first entry decides when its key is the one looked for. -/
theorem find?_cons (key : String) (entry : Value × Value) (rest : Entries) :
    Entries.find? (entry :: rest) key =
      if entry.1.isStr key then some entry.2 else Entries.find? rest key := by
  unfold Entries.find?
  rw [List.find?_cons]
  cases entry.1.isStr key <;> simp

/-- Leaving keys out twice is leaving them out once. -/
@[simp]
theorem without_without (entries : Entries) (keys : List String) :
    (entries.without keys).without keys = entries.without keys := by
  simp [without]

end Entries

end FlowCheck
