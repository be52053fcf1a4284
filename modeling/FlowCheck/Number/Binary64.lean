/-!
# Binary floating point

Numbers of the 64-bit binary interchange format, held exactly: a finite number is a signed
integer multiple of a power of two. Every operation computes the exact result as a fraction and
rounds it once, to the nearest number and on a tie to the one with an even mantissa.

Finite numbers are kept in one form each: the mantissa is below `2 ^ 53`, the exponent is at
least `-1074`, and the mantissa is at least `2 ^ 52` unless the exponent is `-1074`.
-/

namespace FlowCheck

/-- A number of the 64-bit binary format. -/
inductive Binary64 where
  /-- Not a number. -/
  | nan
  /-- An infinity. -/
  | infinite (negative : Bool)
  /-- The number `± mantissa · 2 ^ exponent`. -/
  | finite (negative : Bool) (mantissa : Nat) (exponent : Int)
deriving DecidableEq, Inhabited

namespace Binary64

/-- No mantissa reaches `2 ^ 53`. -/
def mantissaBound : Nat := Nat.pow 2 53

/-- The least mantissa of a number above the least exponent, `2 ^ 52`. -/
def leastNormal : Nat := Nat.pow 2 52

/-- The number of multiples of `2 ^ -1074` in one. -/
def unitDen : Nat := Nat.pow 2 1074

/-- The quotient of two natural numbers rounded to the nearest, a half to the even neighbour. -/
def roundDiv (num den : Nat) : Nat :=
  let q := num / den
  let r := num % den
  if 2 * r < den then q
  else if den < 2 * r then q + 1
  else if q % 2 = 0 then q
  else q + 1

/-- The fraction `num / den` divided by `2 ^ e`, as numerator and denominator. -/
def scaleBy (num den : Nat) (e : Int) : Nat × Nat :=
  if e ≥ 0 then (num, den * Nat.pow 2 e.toNat) else (num * Nat.pow 2 (-e).toNat, den)

/-- The exponent at which `num / den` has a mantissa of 53 bits, or the least exponent. -/
def exponentFor (num den : Nat) : Int :=
  let e : Int := max (-1074) ((num.log2 : Int) - den.log2 - 53)
  -- the lengths of numerator and denominator tell the exponent up to one
  let (n, d) := scaleBy num den e
  if n / d < mantissaBound then e else e + 1

/-- The number nearest to `± num / den`. -/
def ofRatio (negative : Bool) (num den : Nat) : Binary64 :=
  if num = 0 then .finite negative 0 (-1074)
  else
    let e := exponentFor num den
    let (n, d) := scaleBy num den e
    let m := roundDiv n d
    -- rounding up can give one bit more
    let (m, e) := if m = mantissaBound then (leastNormal, e + 1) else (m, e)
    if e > 971 then .infinite negative else .finite negative m e

/-- The number nearest to `± digits · 10 ^ exponent`. -/
def ofDecimal (negative : Bool) (digits : Nat) (exponent : Int) : Binary64 :=
  let size : Int := (Nat.toDigits 10 digits).length + exponent
  if digits = 0 then .finite negative 0 (-1074)
  -- far outside of the range no large powers are needed
  else if size > 400 then .infinite negative
  else if size < -400 then .finite negative 0 (-1074)
  else if exponent ≥ 0 then ofRatio negative (digits * Nat.pow 10 exponent.toNat) 1
  else ofRatio negative digits (Nat.pow 10 (-exponent).toNat)

/-- The number nearest to an integer. -/
def ofInt (n : Int) : Binary64 :=
  ofRatio (n < 0) n.natAbs 1

/-- A count of multiples of `2 ^ -1074` beyond every finite number. -/
def horizon : Int := (Nat.pow 2 2200 : Nat)

/-- The place of a number in the order of all numbers, finite ones as multiples of `2 ^ -1074`. -/
def rank : Binary64 → Option Int
  | .nan => none
  | .infinite negative => some (if negative then -horizon else horizon)
  | .finite negative m e =>
    let size : Int := (m * Nat.pow 2 (e + 1074).toNat : Nat)
    some (if negative then -size else size)

/-- The first number is at most the second; false when either is not a number. -/
def le (x y : Binary64) : Bool :=
  match x.rank, y.rank with
  | some a, some b => decide (a ≤ b)
  | _, _ => false

/-- The first number is less than the second; false when either is not a number. -/
def lt (x y : Binary64) : Bool :=
  match x.rank, y.rank with
  | some a, some b => decide (a < b)
  | _, _ => false

/-- The numbers are equal; both zeros are, and nothing equals what is not a number. -/
def same (x y : Binary64) : Bool :=
  match x.rank, y.rank with
  | some a, some b => a == b
  | _, _ => false

/-- The number is the integer `n`. -/
def isInt (x : Binary64) (n : Int) : Bool :=
  match x with
  | .finite .. => x.rank == some (n * unitDen)
  | _ => false

/-- The number is zero, of either sign. -/
def isZero : Binary64 → Bool
  | .finite _ 0 _ => true
  | _ => false

/-- The number with the other sign. -/
def neg : Binary64 → Binary64
  | .nan => .nan
  | .infinite negative => .infinite (!negative)
  | .finite negative m e => .finite (!negative) m e

/-- The exact sum of two finite numbers, rounded. -/
def add (x y : Binary64) : Binary64 :=
  match x, y with
  | .nan, _ | _, .nan => .nan
  | .infinite a, .infinite b => if a = b then .infinite a else .nan
  | .infinite a, _ | _, .infinite a => .infinite a
  | .finite a 0 _, .finite b 0 _ => .finite (a && b) 0 (-1074)
  | .finite .., .finite .. =>
    let sum := x.rank.getD 0 + y.rank.getD 0
    ofRatio (sum < 0) sum.natAbs unitDen

/-- The number is neither an infinity nor not a number. -/
def isFinite : Binary64 → Bool
  | .finite .. => true
  | _ => false

/-- The sign of the number is a minus. -/
def isNegative : Binary64 → Bool
  | .nan => false
  | .infinite negative => negative
  | .finite negative _ _ => negative

/-- The exact product of two numbers, rounded. -/
def mul (x y : Binary64) : Binary64 :=
  let negative := x.isNegative != y.isNegative
  match x, y with
  | .nan, _ | _, .nan => .nan
  | .finite _ m e, .finite _ n f =>
    ofRatio negative (m * n * Nat.pow 2 (e + f).toNat) (Nat.pow 2 (-(e + f)).toNat)
  | x, y => if x.isZero || y.isZero then .nan else .infinite negative

/-- The numbers `0`, `1` and `0.6`. -/
def zero : Binary64 := .finite false 0 (-1074)

@[inherit_doc zero]
def one : Binary64 := .finite false leastNormal (-52)

@[inherit_doc zero]
def threeFifths : Binary64 := .finite false 5404319552844595 (-53)

/-- A number is at most itself unless it is not a number. -/
theorem le_refl {x : Binary64} (h : x ≠ .nan) : x.le x = true := by
  cases x with
  | nan => exact absurd rfl h
  | infinite => simp [le, rank]
  | finite => simp [le, rank]

/-- The order is transitive. -/
theorem le_trans {x y z : Binary64} (hxy : x.le y = true) (hyz : y.le z = true) :
    x.le z = true := by
  unfold le at *
  cases hx : x.rank <;> cases hy : y.rank <;> cases hz : z.rank <;> simp_all
  omega

end Binary64

end FlowCheck
