import FlowCheck.Number.Binary64
import Mathlib.Tactic.Ring

/-!
# Rounding keeps the order

A fraction is rounded to the nearest number of the format. Counted in multiples of `2 ^ -1074`, the
result is a whole number that the fraction alone determines (`rank_ofRatio`), and of two fractions
with one denominator the smaller one is not rounded to the larger number (`ofRatio_le_ofRatio`).
-/

namespace FlowCheck.Binary64

variable {num den a b c d : Nat}

/-! ## Rounded quotients -/

/-- A quotient is rounded down if the remainder is less than half of the denominator, up if it is
more, and to the even neighbour if it is half of it. -/
theorem roundDiv_cases (num den : Nat) :
    (roundDiv num den = num / den ∧
        (2 * (num % den) < den ∨ 2 * (num % den) = den ∧ num / den % 2 = 0)) ∨
      (roundDiv num den = num / den + 1 ∧
        (den < 2 * (num % den) ∨ 2 * (num % den) = den ∧ num / den % 2 = 1)) := by
  unfold roundDiv
  dsimp only
  split
  · omega
  split
  · omega
  split <;> omega

/-- A larger numerator gives no smaller rounded quotient. -/
theorem roundDiv_mono (h : a ≤ b) : roundDiv a d ≤ roundDiv b d := by
  have hquot : a / d ≤ b / d := Nat.div_le_div_right h
  have hfirst := roundDiv_cases a d
  have hsecond := roundDiv_cases b d
  rcases Nat.lt_or_eq_of_le hquot with hlt | heq
  · omega
  · -- the quotients agree, so that the remainders decide
    have hrem : a % d ≤ b % d := by
      have ha := Nat.div_add_mod a d
      have hb := Nat.div_add_mod b d
      rw [heq] at ha
      omega
    omega

/-- A common factor of numerator and denominator does not matter. -/
theorem roundDiv_mul_right (hc : 0 < c) (num den : Nat) :
    roundDiv (num * c) (den * c) = roundDiv num den := by
  have htwice : 2 * (num % den * c) = 2 * (num % den) * c := by ring
  unfold roundDiv
  dsimp only
  rw [Nat.mul_div_mul_right _ _ hc, Nat.mul_mod_mul_right, htwice]
  simp only [Nat.mul_lt_mul_right hc]

/-- A quotient below a whole number is not rounded beyond it. -/
theorem roundDiv_le (hlt : num < c * den) : roundDiv num den ≤ c := by
  have hquot : num / den < c := Nat.div_lt_of_lt_mul (by rwa [mul_comm])
  have hcases := roundDiv_cases num den
  omega

/-- A quotient of at least a whole number is not rounded below it. -/
theorem le_roundDiv (hden : 0 < den) (hle : c * den ≤ num) : c ≤ roundDiv num den := by
  have hquot : c ≤ num / den := (Nat.le_div_iff_mul_le hden).2 hle
  have hcases := roundDiv_cases num den
  omega

/-! ## The exponent -/

/-- The number of multiples of `2 ^ -1074` in `2 ^ e`, as a power of two. -/
def place (e : Int) : Nat := (e + 1074).toNat

/-- With the exponent `e` the fraction has a mantissa of 53 bits, or of less if the exponent is the
least one. -/
structure IsExponent (num den : Nat) (e : Int) : Prop where
  /-- The exponent is not below the least one. -/
  least : -1074 ≤ e
  /-- The mantissa has no more than 53 bits. -/
  upper : num * unitDen < mantissaBound * (den * 2 ^ place e)
  /-- The mantissa has no less than 53 bits unless the exponent is the least one. -/
  lower : e = -1074 ∨ leastNormal * (den * 2 ^ place e) ≤ num * unitDen

/-- The bound of mantissas is twice the least one of 53 bits. -/
theorem mantissaBound_eq : mantissaBound = 2 * leastNormal := by decide

/-- The least mantissa of 53 bits is a power of two. -/
theorem leastNormal_eq : leastNormal = 2 ^ 52 := by decide

/-- The number of units in one is a power of two. -/
theorem unitDen_eq : unitDen = 2 ^ 1074 := by decide +kernel

/-- There are units in one. -/
theorem unitDen_pos : 0 < unitDen := by
  rw [unitDen_eq]
  exact pow_pos Nat.two_pos _

/-- A power of two as the definitions write it. -/
theorem natPow_eq (n : Nat) : Nat.pow 2 n = 2 ^ n := rfl

/-- Scaling by a power of two only takes out a common factor. -/
theorem exists_scaleBy {e : Int} (he : -1074 ≤ e) (num den : Nat) :
    ∃ c, 0 < c ∧ (scaleBy num den e).1 * c = num * unitDen ∧
      (scaleBy num den e).2 * c = den * 2 ^ place e := by
  unfold scaleBy place
  simp only [natPow_eq]
  split
  · -- the denominator is scaled, and the common factor is the units of one
    refine ⟨unitDen, unitDen_pos, rfl, ?_⟩
    have hplace : (e + 1074).toNat = e.toNat + 1074 := by omega
    rw [hplace, unitDen_eq, pow_add, mul_assoc]
  · -- the numerator is scaled, and the common factor is the units of `2 ^ e`
    refine ⟨2 ^ (e + 1074).toNat, pow_pos Nat.two_pos _, ?_, rfl⟩
    have hsum : (-e).toNat + (e + 1074).toNat = 1074 := by omega
    rw [unitDen_eq, mul_assoc, ← pow_add, hsum]

/-- The mantissa at an exponent, before it is rounded. -/
theorem div_scaleBy {e : Int} (he : -1074 ≤ e) (num den : Nat) :
    (scaleBy num den e).1 / (scaleBy num den e).2 = num * unitDen / (den * 2 ^ place e) := by
  obtain ⟨c, hc, hnum, hden⟩ := exists_scaleBy he num den
  rw [← hnum, ← hden, Nat.mul_div_mul_right _ _ hc]

/-- The mantissa at an exponent, rounded. -/
theorem roundDiv_scaleBy {e : Int} (he : -1074 ≤ e) (num den : Nat) :
    roundDiv (scaleBy num den e).1 (scaleBy num den e).2 =
      roundDiv (num * unitDen) (den * 2 ^ place e) := by
  obtain ⟨c, hc, hnum, hden⟩ := exists_scaleBy he num den
  rw [← hnum, ← hden, roundDiv_mul_right hc]

/-- The next exponent stands for twice as many units. -/
theorem two_pow_place_succ {e : Int} (he : -1074 ≤ e) : 2 ^ place (e + 1) = 2 * 2 ^ place e := by
  have hplace : place (e + 1) = place e + 1 := by
    unfold place
    omega
  rw [hplace, pow_succ, mul_comm]

/-- The lengths of numerator and denominator tell that a mantissa has no less than 53 bits. -/
theorem leastNormal_mul_le {e : Int} (he : -1074 ≤ e) (hnum : 0 < num)
    (hlength : e + den.log2 + 53 ≤ num.log2) :
    leastNormal * (den * 2 ^ place e) ≤ num * unitDen := by
  have hnumLow : 2 ^ num.log2 ≤ num := Nat.log2_self_le (Nat.pos_iff_ne_zero.1 hnum)
  have hdenHigh : den < 2 ^ (den.log2 + 1) := Nat.lt_log2_self
  have hplace : 52 + (den.log2 + 1 + place e) ≤ num.log2 + 1074 := by
    unfold place
    omega
  calc leastNormal * (den * 2 ^ place e)
      ≤ 2 ^ 52 * (2 ^ (den.log2 + 1) * 2 ^ place e) := by
        rw [leastNormal_eq]
        gcongr
    _ ≤ 2 ^ num.log2 * unitDen := by
        rw [unitDen_eq, ← pow_add, ← pow_add, ← pow_add]
        exact pow_le_pow_right₀ one_le_two hplace
    _ ≤ num * unitDen := Nat.mul_le_mul_right _ hnumLow

/-- The lengths of numerator and denominator tell that a mantissa has no more than 53 bits. -/
theorem lt_mantissaBound_mul {e : Int} (hden : 0 < den)
    (hlength : (num.log2 : Int) < e + den.log2 + 53) :
    num * unitDen < mantissaBound * (den * 2 ^ place e) := by
  have hnumHigh : num < 2 ^ (num.log2 + 1) := Nat.lt_log2_self
  have hdenLow : 2 ^ den.log2 ≤ den := Nat.log2_self_le (Nat.pos_iff_ne_zero.1 hden)
  have hplace : num.log2 + 1 + 1074 ≤ 1 + 52 + (den.log2 + place e) := by
    unfold place
    omega
  calc num * unitDen
      < 2 ^ (num.log2 + 1) * unitDen := Nat.mul_lt_mul_of_pos_right hnumHigh unitDen_pos
    _ ≤ 2 ^ (1 + 52) * (2 ^ den.log2 * 2 ^ place e) := by
        rw [unitDen_eq, ← pow_add, ← pow_add, ← pow_add]
        exact pow_le_pow_right₀ one_le_two hplace
    _ ≤ mantissaBound * (den * 2 ^ place e) := by
        rw [mantissaBound_eq, leastNormal_eq, pow_add, pow_one]
        gcongr

/-- The exponent that is found for a fraction gives it a mantissa of 53 bits. -/
theorem isExponent_exponentFor (hnum : 0 < num) (hden : 0 < den) :
    IsExponent num den (exponentFor num den) := by
  unfold exponentFor
  dsimp only
  generalize he : max (-1074) ((num.log2 : Int) - den.log2 - 53) = e
  have hleast : -1074 ≤ e := he ▸ le_max_left _ _
  have hunits : 0 < den * 2 ^ place e := mul_pos hden (pow_pos Nat.two_pos _)
  rw [div_scaleBy hleast]
  split
  · -- the lengths have told the exponent
    next hquot =>
    refine ⟨hleast, (Nat.div_lt_iff_lt_mul hunits).1 hquot, ?_⟩
    rcases eq_or_ne e (-1074) with hmin | hmin
    · exact .inl hmin
    · exact .inr (leastNormal_mul_le hleast hnum (by omega))
  · -- the mantissa has one bit more than the lengths have told
    next hquot =>
    rw [Nat.not_lt, Nat.le_div_iff_mul_le hunits] at hquot
    refine ⟨by omega, lt_mantissaBound_mul hden (by omega), .inr ?_⟩
    calc leastNormal * (den * 2 ^ place (e + 1))
        = mantissaBound * (den * 2 ^ place e) := by
          rw [two_pow_place_succ hleast, mantissaBound_eq]
          ring
      _ ≤ num * unitDen := hquot

/-- A larger numerator has no smaller exponent. -/
theorem IsExponent.le {e e' : Int} (hfirst : IsExponent a den e) (hsecond : IsExponent b den e')
    (h : a ≤ b) : e ≤ e' := by
  -- with a larger exponent than the second one, the first fraction would be the larger one
  by_contra hlt
  have hleast := hsecond.least
  obtain hmin | hlower := hfirst.lower
  · omega
  have hplace : place (e' + 1) ≤ place e := by
    unfold place
    omega
  have hchain : a * unitDen < a * unitDen := by
    calc a * unitDen
        ≤ b * unitDen := Nat.mul_le_mul_right _ h
      _ < mantissaBound * (den * 2 ^ place e') := hsecond.upper
      _ = leastNormal * (den * 2 ^ place (e' + 1)) := by
          rw [mantissaBound_eq, two_pow_place_succ hleast]
          ring
      _ ≤ leastNormal * (den * 2 ^ place e) := by
          gcongr
          norm_num
      _ ≤ a * unitDen := hlower
  exact lt_irrefl _ hchain

/-! ## The nearest number -/

/-- The fraction rounded at the exponent found for it, in multiples of `2 ^ -1074`. -/
def nearest (num den : Nat) : Nat :=
  roundDiv (num * unitDen) (den * 2 ^ place (exponentFor num den)) *
    2 ^ place (exponentFor num den)

/-- The number of units from which on a number is too large for the format. -/
def beyond : Nat := leastNormal * 2 ^ place 972

/-- Zero has no units. -/
theorem nearest_zero (den : Nat) : nearest 0 den = 0 := by
  unfold nearest roundDiv
  simp

/-- A fraction has no fewer units than a smaller one after both are rounded. -/
theorem nearest_mono (hden : 0 < den) (h : a ≤ b) : nearest a den ≤ nearest b den := by
  rcases Nat.eq_zero_or_pos a with rfl | hnum
  · rw [nearest_zero]
    exact Nat.zero_le _
  have hfirst := isExponent_exponentFor hnum hden
  have hsecond := isExponent_exponentFor (hnum.trans_le h) hden
  unfold nearest
  rcases (hfirst.le hsecond h).lt_or_eq with hlt | heq
  · -- the larger one has a bit more, which outweighs every mantissa of the smaller one
    have hleast := hfirst.least
    have hplace : place (exponentFor a den + 1) ≤ place (exponentFor b den) := by
      unfold place
      omega
    have hlower := hsecond.lower.resolve_left (by omega)
    calc roundDiv (a * unitDen) (den * 2 ^ place (exponentFor a den)) *
          2 ^ place (exponentFor a den)
        ≤ mantissaBound * 2 ^ place (exponentFor a den) :=
          Nat.mul_le_mul_right _ (roundDiv_le hfirst.upper)
      _ = leastNormal * 2 ^ place (exponentFor a den + 1) := by
          rw [mantissaBound_eq, two_pow_place_succ hleast]
          ring
      _ ≤ leastNormal * 2 ^ place (exponentFor b den) := by
          gcongr
          norm_num
      _ ≤ _ := by
          have hunits : 0 < den * 2 ^ place (exponentFor b den) :=
            mul_pos hden (pow_pos Nat.two_pos _)
          exact Nat.mul_le_mul_right _ (le_roundDiv hunits hlower)
  · rw [heq]
    exact Nat.mul_le_mul_right _ (roundDiv_mono (Nat.mul_le_mul_right _ h))

/-- The infinity is placed at a power of two. -/
theorem horizon_eq : horizon = ((2 ^ 2200 : Nat) : Int) := by decide +kernel

/-- What is too large for the format is still below the infinity. -/
theorem beyond_le_horizon : (beyond : Int) ≤ horizon := by
  have hplace : 52 + place 972 ≤ 2200 := by decide
  have hpow : beyond ≤ 2 ^ 2200 := by
    unfold beyond
    rw [leastNormal_eq, ← pow_add]
    exact pow_le_pow_right₀ one_le_two hplace
  rw [horizon_eq, Int.ofNat_le]
  exact hpow

section Carried

variable {m : Nat} {e : Int}

/-- A number has too many units exactly from the exponent 972 on. -/
theorem beyond_le_iff (hlow : e = -1074 ∨ leastNormal ≤ m) (hhigh : m < mantissaBound) :
    beyond ≤ m * 2 ^ place e ↔ 971 < e := by
  unfold beyond
  constructor
  · intro h
    by_contra hle
    -- up to this exponent no mantissa is large enough
    have hplace : place e + 1 ≤ place 972 := by
      unfold place
      omega
    have hchain : m * 2 ^ place e < m * 2 ^ place e := by
      calc m * 2 ^ place e
          < mantissaBound * 2 ^ place e :=
            Nat.mul_lt_mul_of_pos_right hhigh (pow_pos Nat.two_pos _)
        _ = leastNormal * 2 ^ (place e + 1) := by
            rw [mantissaBound_eq, pow_succ]
            ring
        _ ≤ leastNormal * 2 ^ place 972 :=
            Nat.mul_le_mul_left _ (pow_le_pow_right₀ one_le_two hplace)
        _ ≤ m * 2 ^ place e := h
    exact lt_irrefl _ hchain
  · intro h
    have hplace : place 972 ≤ place e := by
      unfold place
      omega
    have hnormal : leastNormal ≤ m := hlow.resolve_left (by omega)
    exact Nat.mul_le_mul hnormal (pow_le_pow_right₀ one_le_two hplace)

/-- A mantissa and an exponent make the number with their units, or the infinity. -/
theorem rank_ite (hlow : e = -1074 ∨ leastNormal ≤ m) (hhigh : m < mantissaBound) :
    (if e > 971 then infinite false else finite false m e).rank =
      some (if beyond ≤ m * 2 ^ place e then horizon else ((m * 2 ^ place e : Nat) : Int)) := by
  simp only [beyond_le_iff hlow hhigh]
  split
  · rfl
  · rfl

end Carried

/-- A fraction becomes the number with its units, or the infinity if these are too many. -/
theorem rank_ofRatio (num : Nat) (hden : 0 < den) :
    (ofRatio false num den).rank =
      some (if beyond ≤ nearest num den then horizon else (nearest num den : Int)) := by
  rcases Nat.eq_zero_or_pos num with rfl | hnum
  · have hpositive : 0 < beyond := by
      unfold beyond
      exact Nat.mul_pos (by decide) (pow_pos Nat.two_pos _)
    rw [nearest_zero, if_neg (Nat.not_le.2 hpositive)]
    rfl
  have hexp := isExponent_exponentFor hnum hden
  have hleast := hexp.least
  have hunits : 0 < den * 2 ^ place (exponentFor num den) :=
    mul_pos hden (pow_pos Nat.two_pos _)
  have hlow := hexp.lower.imp_right (le_roundDiv hunits)
  have hhigh := roundDiv_le hexp.upper
  unfold ofRatio nearest
  rw [if_neg hnum.ne']
  dsimp only
  rw [roundDiv_scaleBy hleast]
  generalize roundDiv (num * unitDen) (den * 2 ^ place (exponentFor num den)) = m at hlow hhigh ⊢
  generalize exponentFor num den = e at hleast hlow ⊢
  split
  · -- rounding has carried into the next bit, with as many units as before
    next hcarry =>
    have hsame : m * 2 ^ place e = leastNormal * 2 ^ place (e + 1) := by
      rw [hcarry, mantissaBound_eq, two_pow_place_succ hleast]
      ring
    rw [hsame]
    have hless : leastNormal < mantissaBound := by decide
    exact rank_ite (.inr (Nat.le_refl _)) hless
  · next hcarry =>
    exact rank_ite hlow (by omega)

/-- A rounded fraction is a number. -/
theorem ofRatio_ne_nan (num : Nat) (hden : 0 < den) : ofRatio false num den ≠ .nan := by
  intro hnan
  have hrank := rank_ofRatio num hden
  rw [hnan] at hrank
  cases hrank

/-- Of two fractions with one denominator the smaller one is rounded to a number that is at most
the other. -/
theorem ofRatio_le_ofRatio (hden : 0 < den) (h : a ≤ b) :
    (ofRatio false a den).le (ofRatio false b den) = true := by
  have hnearest := nearest_mono hden h
  have hhorizon := beyond_le_horizon
  unfold le
  rw [rank_ofRatio a hden, rank_ofRatio b hden]
  apply decide_eq_true
  split
  · rw [if_pos (by omega)]
  · split <;> omega

end FlowCheck.Binary64
