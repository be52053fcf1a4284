import FlowCheck.Calendar

/-!
# Timestamps in YAML texts

A date, or a date with a time of day after a `T` or white space. The time of day may have a
fraction of a second and a distance to universal time.
-/

namespace FlowCheck.Yaml

/-- A timestamp as it is written. -/
structure Stamp where
  /-- The date. -/
  date : Date
  /-- The hour, minute, second, microsecond and distance to universal time in seconds. -/
  time : Option (Nat × Nat × Nat × Nat × Option Int)
deriving DecidableEq, Inhabited

namespace Stamp

/-- The value of decimal digits. -/
def digitsValue (digits : List Char) : Nat :=
  digits.foldl (fun n c => 10 * n + (c.toNat - '0'.toNat)) 0

/-- Between `least` and `most` digits, and what follows them. -/
def digits? (least most : Nat) (text : List Char) : Option (Nat × List Char) :=
  let run := (text.take most).takeWhile Char.isDigit
  if run.length < least then none else some (digitsValue run, text.drop run.length)

/-- A character, and what follows it. -/
def char? (c : Char) : List Char → Option (List Char)
  | d :: rest => if d = c then some rest else none
  | [] => none

/-- White space between the parts of a timestamp. -/
def isGap (c : Char) : Bool :=
  c == ' ' || c == '\t'

/-- The first six digits of a fraction as microseconds, and what follows the fraction. -/
def fraction (text : List Char) : Nat × List Char :=
  match char? '.' text with
  | none => (0, text)
  | some rest =>
    let run := rest.takeWhile Char.isDigit
    let used := run.take 6
    (digitsValue used * Nat.pow 10 (6 - used.length), rest.drop run.length)

/-- A distance to universal time at the end of a text; the text may also end before it. -/
def zone? (text : List Char) : Option (Option Int) :=
  if text.isEmpty then some none
  else
    match text.dropWhile isGap with
    | ['Z'] => some (some 0)
    | sign :: rest =>
      if sign ≠ '+' && sign ≠ '-' then none
      else do
        let (hours, rest) ← digits? 1 2 rest
        let (minutes, rest) ←
          if rest.isEmpty then some (0, rest) else char? ':' rest >>= digits? 2 2
        if !rest.isEmpty then none
        let seconds : Int := hours * 3600 + minutes * 60
        return some (if sign = '-' then -seconds else seconds)
    | [] => none

/-- The time of day after a date. -/
def time? (text : List Char) : Option (Nat × Nat × Nat × Nat × Option Int) := do
  let rest ←
    match text with
    | 'T' :: rest => some rest
    | 't' :: rest => some rest
    | c :: rest => if isGap c then some (rest.dropWhile isGap) else none
    | [] => none
  let (hour, rest) ← digits? 1 2 rest
  let (minute, rest) ← char? ':' rest >>= digits? 2 2
  let (second, rest) ← char? ':' rest >>= digits? 2 2
  let (micro, rest) := fraction rest
  let zone ← zone? rest
  return (hour, minute, second, micro, zone)

/-- Reads a timestamp. -/
def ofText? (text : List Char) : Option Stamp := do
  let (year, rest) ← digits? 4 4 text
  let (month, rest) ← char? '-' rest >>= digits? 1 2
  let (day, rest) ← char? '-' rest >>= digits? 1 2
  let time ← if rest.isEmpty then some none else (time? rest).map some
  return ⟨⟨year, month, day⟩, time⟩

/-- A plain scalar counts as a timestamp; a date alone has two digits for month and day. -/
def isPlain (text : List Char) : Bool :=
  (ofText? text).any fun stamp => stamp.time.isSome || text.length == 10

/-- The moment of a timestamp with a time of day. -/
def moment? (stamp : Stamp) : Option Moment :=
  stamp.time.map fun (hour, minute, second, micro, offset) =>
    ⟨stamp.date, hour, minute, second, micro, offset⟩

end Stamp

end FlowCheck.Yaml
