import FlowCheck.Number.Binary64

/-!
# Decimal text of binary numbers

A number is written with the fewest decimal digits that still round to it, and of those the
nearest to it. The text is positional while the decimal exponent lies between `-4` and `15`, and
otherwise has one digit before the point and an exponent of at least two digits.
-/

namespace FlowCheck

namespace Binary64

/-- The numbers that round to `m · 2 ^ e` lie between `low / den` and `high / den`, and
`m · 2 ^ e` itself is `mid / den`. The ends belong to the interval when the mantissa is even. -/
structure Interval where
  /-- The lower end. -/
  low : Nat
  /-- The number itself. -/
  mid : Nat
  /-- The upper end. -/
  high : Nat
  /-- The common denominator. -/
  den : Nat
  /-- The ends round to the number too. -/
  closed : Bool

/-- The interval of a finite number above zero. Below a power of two the spacing halves. -/
def interval (m : Nat) (e : Int) : Interval :=
  let below := if m = leastNormal ∧ e > -1074 then 4 * m - 1 else 4 * m - 2
  -- in quarters of the last place all three are whole
  let e := e - 2
  let up := Nat.pow 2 e.toNat
  ⟨below * up, 4 * m * up, (4 * m + 2) * up, Nat.pow 2 (-e).toNat, m % 2 == 0⟩

/-- The fraction `num / den` lies in the interval. -/
def Interval.contains (range : Interval) (num den : Nat) : Bool :=
  let low := range.low * den
  let high := range.high * den
  let mid := num * range.den
  if range.closed then low ≤ mid && mid ≤ high else low < mid && mid < high

/-- The number of decimal places before the point: `10 ^ (k - 1) ≤ num / den < 10 ^ k`. -/
def decimalPoint (num den : Nat) : Int :=
  if den ≤ num then (Nat.toDigits 10 (num / den)).length
  else 1 - ((List.range 400).find? fun k => den ≤ num * Nat.pow 10 k).getD 0

/-- The decimal `digits · 10 ^ exponent` as a fraction. -/
def decimalRatio (digits : Nat) (exponent : Int) : Nat × Nat :=
  (digits * Nat.pow 10 exponent.toNat, Nat.pow 10 (-exponent).toNat)

/-- The neighbour of the number on the grid of multiples of `10 ^ exponent` that rounds to it,
the nearer one if both do, the even one if both are as near. -/
def gridPoint? (range : Interval) (exponent : Int) : Option Nat :=
  let up := Nat.pow 10 exponent.toNat
  let down := Nat.pow 10 (-exponent).toNat
  let num := range.mid * down
  let den := range.den * up
  let fits (d : Nat) : Bool :=
    let (n, k) := decimalRatio d exponent
    range.contains n k
  let d := num / den
  let r := num % den
  match fits d, fits (d + 1) with
  | true, false => some d
  | false, true => some (d + 1)
  | false, false => none
  | true, true =>
    if 2 * r < den then some d
    else if den < 2 * r then some (d + 1)
    else if d % 2 = 0 then some d
    else some (d + 1)

/-- The digits of the shortest decimal that rounds to the number, and the place of its point. -/
def shortest (m : Nat) (e : Int) : List Char × Int :=
  let range := interval m e
  let point := decimalPoint range.mid range.den
  -- the coarsest grid with a point in the interval gives the fewest digits
  let grids := (List.range 17).filterMap fun k =>
    let exponent := point - ((k : Nat) + 1 : Int)
    (gridPoint? range exponent).map fun d => (d, exponent)
  match grids.head? with
  | none => (['0'], 1)
  | some (d, exponent) =>
    let digits := Nat.toDigits 10 d
    let kept := (digits.reverse.dropWhile (· == '0')).reverse
    (kept, digits.length + exponent)

/-- The decimal exponent with a sign and at least two digits. -/
def exponentText (e : Int) : List Char :=
  let digits := Nat.toDigits 10 e.natAbs
  (if e < 0 then '-' else '+') :: (if digits.length < 2 then '0' :: digits else digits)

/-- Digits with the point after the first `point` of them. -/
def positional (digits : List Char) (point : Int) : List Char :=
  if point ≤ 0 then '0' :: '.' :: List.replicate (-point).toNat '0' ++ digits
  else
    let whole := point.toNat
    let fraction := digits.drop whole
    digits.take whole ++ List.replicate (whole - digits.length) '0' ++
      '.' :: (if fraction.isEmpty then ['0'] else fraction)

/-- Digits with the point after the first one, and an exponent. -/
def scientific (digits : List Char) (point : Int) : List Char :=
  let head := digits.take 1
  let tail := digits.drop 1
  head ++ (if tail.isEmpty then [] else '.' :: tail) ++ 'e' :: exponentText (point - 1)

/-- The text of a number. -/
def text (x : Binary64) : String :=
  match x with
  | .nan => "nan"
  | .infinite negative => if negative then "-inf" else "inf"
  | .finite negative m e =>
    let sign := if negative then ['-'] else []
    let body :=
      if m = 0 then ['0', '.', '0']
      else
        let (digits, point) := shortest m e
        if -4 < point && point ≤ 16 then positional digits point else scientific digits point
    String.ofList (sign ++ body)

/-- The value of a run of decimal digits. -/
def digitsValue (digits : List Char) : Nat :=
  digits.foldl (fun n c => 10 * n + (c.toNat - '0'.toNat)) 0

/-- Reads an unsigned exponent mark `e`, an optional sign and at least one digit. -/
def exponent? : List Char → Option Int
  | [] => some 0
  | c :: rest =>
    if c ≠ 'e' && c ≠ 'E' then none
    else
      let (negative, digits) :=
        match rest with
        | '-' :: digits => (true, digits)
        | '+' :: digits => (false, digits)
        | digits => (false, digits)
      if digits.isEmpty || !digits.all Char.isDigit then none
      else some (if negative then -(digitsValue digits : Int) else digitsValue digits)

/-- Reads digits with an optional point and an optional exponent; one digit is needed. -/
def unsigned? (negative : Bool) (body : List Char) : Option Binary64 :=
  let whole := body.takeWhile Char.isDigit
  let rest := body.dropWhile Char.isDigit
  let (fraction, rest) :=
    match rest with
    | '.' :: rest => (rest.takeWhile Char.isDigit, rest.dropWhile Char.isDigit)
    | rest => ([], rest)
  if whole.isEmpty && fraction.isEmpty then none
  else
    (exponent? rest).map fun e =>
      ofDecimal negative (digitsValue (whole ++ fraction)) (e - fraction.length)

/-- Reads a number: a sign, then digits or the name of an infinity or of no number, in any case
of the letters. -/
def ofText? (text : List Char) : Option Binary64 :=
  let (negative, body) :=
    match text with
    | '-' :: body => (true, body)
    | '+' :: body => (false, body)
    | body => (false, body)
  let word := String.ofList (body.map Char.toLower)
  if word = "inf" || word = "infinity" then some (.infinite negative)
  else if word = "nan" then some .nan
  else unsigned? negative body

end Binary64

end FlowCheck
