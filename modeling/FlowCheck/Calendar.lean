/-!
# Dates and moments

Calendar dates of the years 1 to 9999, and moments: a date with a time of day to the microsecond
and, when it is known, the distance to universal time.
-/

namespace FlowCheck

/-- A calendar date. -/
structure Date where
  /-- The year, 1 to 9999. -/
  year : Nat
  /-- The month, 1 to 12. -/
  month : Nat
  /-- The day of the month. -/
  day : Nat
deriving DecidableEq, Inhabited

/-- A date and a time of day. -/
structure Moment where
  /-- The date. -/
  date : Date
  /-- The hour, 0 to 23. -/
  hour : Nat
  /-- The minute, 0 to 59. -/
  minute : Nat
  /-- The second, 0 to 59. -/
  second : Nat
  /-- The microsecond. -/
  micro : Nat
  /-- The seconds by which local time is ahead of universal time, if known. -/
  offset : Option Int
deriving DecidableEq, Inhabited

namespace Date

/-- The year has a 29th of February. -/
def isLeap (year : Nat) : Bool :=
  year % 4 == 0 && (year % 100 != 0 || year % 400 == 0)

/-- The number of days of a month. -/
def monthDays (year month : Nat) : Nat :=
  if month = 2 then (if isLeap year then 29 else 28)
  else if month = 4 || month = 6 || month = 9 || month = 11 then 30
  else 31

/-- The date exists. -/
def isValid (d : Date) : Bool :=
  1 ≤ d.year && d.year ≤ 9999 && 1 ≤ d.month && d.month ≤ 12 &&
    1 ≤ d.day && d.day ≤ monthDays d.year d.month

/-- The number of days from the first of January of the year 1. -/
def dayNumber (d : Date) : Nat :=
  let y := d.year - 1
  let before := y * 365 + y / 4 - y / 100 + y / 400 + (d.day - 1)
  (List.range (d.month - 1)).foldl (fun days m => days + monthDays d.year (m + 1)) before

/-- A number in decimal, padded with zeros to `width` digits. -/
def padded (width n : Nat) : String :=
  let digits := Nat.toDigits 10 n
  String.ofList (List.replicate (width - digits.length) '0' ++ digits)

/-- The date as year, month and day with hyphens between. -/
def text (d : Date) : String :=
  padded 4 d.year ++ "-" ++ padded 2 d.month ++ "-" ++ padded 2 d.day

/-- The date as its parts in a listing. -/
def display (d : Date) : String :=
  s!"datetime.date({d.year}, {d.month}, {d.day})"

end Date

namespace Moment

/-- The moment exists: the date, the time of day and an offset of less than a day. -/
def isValid (m : Moment) : Bool :=
  m.date.isValid && m.hour ≤ 23 && m.minute ≤ 59 && m.second ≤ 59 && m.micro < 1000000 &&
    (m.offset.all fun s => -86400 < s && s < 86400)

/-- The distance to universal time as hours and minutes with a sign. -/
def offsetText (seconds : Int) : String :=
  let size := seconds.natAbs
  let rest := size % 60
  (if seconds < 0 then "-" else "+") ++ Date.padded 2 (size / 3600) ++ ":" ++
    Date.padded 2 (size / 60 % 60) ++ (if rest = 0 then "" else ":" ++ Date.padded 2 rest)

/-- The moment as date, separator and time of day; microseconds and offset where there are. -/
def textWith (separator : String) (m : Moment) : String :=
  m.date.text ++ separator ++ Date.padded 2 m.hour ++ ":" ++ Date.padded 2 m.minute ++ ":" ++
    Date.padded 2 m.second ++ (if m.micro = 0 then "" else "." ++ Date.padded 6 m.micro) ++
    (m.offset.map offsetText).getD ""

/-- The moment with a `T` between date and time of day. -/
def isoText (m : Moment) : String :=
  m.textWith "T"

/-- The moment with a blank between date and time of day. -/
def text (m : Moment) : String :=
  m.textWith " "

/-- The offset as its parts in a listing; a negative one counts on from the day before. -/
def offsetDisplay (seconds : Int) : String :=
  if seconds = 0 then "datetime.timezone.utc"
  else
    let day := Int.fdiv seconds 86400
    let rest := Int.fmod seconds 86400
    let parts :=
      (if day = 0 then [] else [s!"days={day}"]) ++ (if rest = 0 then [] else [s!"seconds={rest}"])
    "datetime.timezone(datetime.timedelta(" ++ String.intercalate ", " parts ++ "))"

/-- The moment as its parts in a listing; seconds and microseconds only where they are needed. -/
def display (m : Moment) : String :=
  let fine :=
    if m.micro ≠ 0 then [m.second, m.micro] else if m.second ≠ 0 then [m.second] else []
  let parts := [m.date.year, m.date.month, m.date.day, m.hour, m.minute] ++ fine
  let zone := (m.offset.map fun s => ["tzinfo=" ++ offsetDisplay s]).getD []
  "datetime.datetime(" ++ String.intercalate ", " (parts.map toString ++ zone) ++ ")"

/-- The microseconds from the start of the year 1, in universal time where the offset is known. -/
def instant (m : Moment) : Int :=
  let seconds : Int := m.date.dayNumber * 86400 + m.hour * 3600 + m.minute * 60 + m.second
  (seconds - m.offset.getD 0) * 1000000 + m.micro

/-- Two moments are the same instant; one with a known offset never equals one without. -/
def same (a b : Moment) : Bool :=
  a.offset.isSome == b.offset.isSome && a.instant == b.instant

end Moment

end FlowCheck
