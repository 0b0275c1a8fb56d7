import Mathlib.Algebra.Order.Field.Power
import Mathlib.Algebra.Order.Ring.Rat
import Mathlib.Tactic.FieldSimp
import Mathlib.Tactic.Positivity
import Parley.Number.Binary64

/-!
# Doubles read from decimals

Whatever decimal is read, the outcome has the mantissa and the exponent of a double. The main
statement is `ofDecimal?_isDouble`.
-/

namespace Parley.Magnitude

/-! ## Quotients -/

theorem scaledQuotient_spec (numerator : Nat) {denominator : Nat} (positive : 0 < denominator)
    (exponent : Int) :
    0 < (scaledQuotient numerator denominator exponent).2 ∧
      ((scaledQuotient numerator denominator exponent).1 : ℚ) =
        (scaledQuotient numerator denominator exponent).2 *
          ((numerator : ℚ) / denominator * 2 ^ (-exponent)) := by
  have nonzero : (denominator : ℚ) ≠ 0 := by positivity
  unfold scaledQuotient
  split
  next upward =>
    obtain ⟨power, rfl⟩ := Int.eq_ofNat_of_zero_le upward
    refine ⟨Nat.mul_pos positive (Nat.pow_pos (by decide)), ?_⟩
    simp only [Int.toNat_natCast, Nat.pow_eq, Nat.cast_mul, Nat.cast_pow, Nat.cast_ofNat, zpow_neg,
      zpow_natCast]
    field_simp
  next downward =>
    obtain ⟨power, negated⟩ := Int.eq_ofNat_of_zero_le (a := -exponent) (by omega)
    refine ⟨positive, ?_⟩
    simp only [negated, Int.toNat_natCast, Nat.pow_eq, Nat.cast_mul, Nat.cast_pow, Nat.cast_ofNat,
      zpow_natCast]
    field_simp

theorem roundedQuotient_cases (numerator denominator : Nat) :
    roundedQuotient numerator denominator = numerator / denominator ∨
      roundedQuotient numerator denominator = numerator / denominator + 1 := by
  simp only [roundedQuotient]
  split
  · exact Or.inl rfl
  · split
    · exact Or.inr rfl
    · split
      · exact Or.inl rfl
      · exact Or.inr rfl

theorem roundedQuotient_le {numerator denominator bound : Nat}
    (below : numerator < bound * denominator) : roundedQuotient numerator denominator ≤ bound := by
  have whole : numerator / denominator < bound := Nat.div_lt_of_lt_mul (by rwa [Nat.mul_comm])
  have rounded := roundedQuotient_cases numerator denominator
  omega

theorem le_roundedQuotient {numerator denominator bound : Nat} (positive : 0 < denominator)
    (above : bound * denominator ≤ numerator) :
    bound ≤ roundedQuotient numerator denominator := by
  have whole : bound ≤ numerator / denominator := (Nat.le_div_iff_mul_le positive).mpr above
  have rounded := roundedQuotient_cases numerator denominator
  omega

theorem log2_bounds {value : Nat} (positive : 0 < value) :
    (2 : ℚ) ^ (value.log2 : Int) ≤ value ∧ (value : ℚ) < 2 ^ ((value.log2 : Int) + 1) := by
  have lower : 2 ^ value.log2 ≤ value := Nat.log2_self_le positive.ne'
  have upper : value < 2 ^ (value.log2 + 1) := Nat.lt_log2_self
  constructor
  · rw [zpow_natCast]
    exact_mod_cast lower
  · rw [← Nat.cast_succ, zpow_natCast]
    exact_mod_cast upper

/-- The quotient of two numbers lies within a factor of two of what their lengths say. -/
theorem quotient_bounds {numerator denominator : Nat} (above : 0 < numerator)
    (below : 0 < denominator) :
    (2 : ℚ) ^ ((numerator.log2 : Int) - denominator.log2 - 1) ≤ (numerator : ℚ) / denominator ∧
      (numerator : ℚ) / denominator < 2 ^ ((numerator.log2 : Int) - denominator.log2 + 1) := by
  obtain ⟨leastUpper, upperBound⟩ := log2_bounds above
  obtain ⟨leastLower, lowerBound⟩ := log2_bounds below
  have positive : (0 : ℚ) < denominator := by exact_mod_cast below
  have two : (2 : ℚ) ≠ 0 := by norm_num
  rw [le_div_iff₀ positive, div_lt_iff₀ positive]
  constructor
  · calc
      (2 : ℚ) ^ ((numerator.log2 : Int) - denominator.log2 - 1) * denominator
          ≤ 2 ^ ((numerator.log2 : Int) - denominator.log2 - 1) *
              2 ^ ((denominator.log2 : Int) + 1) := by gcongr
      _ = 2 ^ (numerator.log2 : Int) := by rw [← zpow_add₀ two]; congr 1; omega
      _ ≤ numerator := leastUpper
  · calc
      (numerator : ℚ) < 2 ^ ((numerator.log2 : Int) + 1) := upperBound
      _ = 2 ^ ((numerator.log2 : Int) - denominator.log2 + 1) * 2 ^ (denominator.log2 : Int) := by
          rw [← zpow_add₀ two]; congr 1; omega
      _ ≤ 2 ^ ((numerator.log2 : Int) - denominator.log2 + 1) * denominator := by gcongr

section Nearest

variable {numerator denominator : Nat}

/-- Whether a scaled quotient stays below a power of two is a matter of the quotient. -/
theorem scaledQuotient_lt_iff (numerator : Nat) {denominator : Nat} (positive : 0 < denominator)
    (exponent : Int) (power : Nat) :
    (scaledQuotient numerator denominator exponent).1 <
        2 ^ power * (scaledQuotient numerator denominator exponent).2 ↔
      (numerator : ℚ) / denominator < 2 ^ (exponent + power) := by
  obtain ⟨scaled, value⟩ := scaledQuotient_spec numerator positive exponent
  have scaledPositive : (0 : ℚ) < (scaledQuotient numerator denominator exponent).2 := by
    exact_mod_cast scaled
  have factor : (0 : ℚ) < 2 ^ (-exponent) := by positivity
  rw [← Nat.cast_lt (α := ℚ), value]
  push_cast
  rw [mul_comm ((2 : ℚ) ^ power), mul_lt_mul_iff_right₀ scaledPositive,
    zpow_add₀ (by norm_num : (2 : ℚ) ≠ 0), zpow_natCast, zpow_neg, ← div_eq_mul_inv,
    div_lt_iff₀ (by positivity), mul_comm]

/-- The exponent that gives a mantissa of fifty-three bits. -/
def fittingExponent (numerator denominator : Nat) : Int :=
  let guess : Int := (numerator.log2 : Int) - denominator.log2 - 52
  let (upper, lower) := scaledQuotient numerator denominator guess
  if upper / lower < Nat.pow 2 52 then guess - 1 else guess

theorem fittingExponent_spec (above : 0 < numerator) (below : 0 < denominator) :
    (2 : ℚ) ^ (fittingExponent numerator denominator + 52) ≤ (numerator : ℚ) / denominator ∧
      (numerator : ℚ) / denominator < 2 ^ (fittingExponent numerator denominator + 53) := by
  obtain ⟨least, bound⟩ := quotient_bounds above below
  have inBits :=
    scaledQuotient_lt_iff numerator below
      ((numerator.log2 : Int) - denominator.log2 - 52) 52
  obtain ⟨scaled, _⟩ :=
    scaledQuotient_spec numerator below
      ((numerator.log2 : Int) - denominator.log2 - 52)
  simp only [fittingExponent, Nat.pow_eq, Nat.div_lt_iff_lt_mul scaled, inBits]
  split
  next short =>
    constructor
    · convert least using 2
      omega
    · convert short using 2
      push_cast
      omega
  next long =>
    constructor
    · exact_mod_cast not_lt.mp long
    · convert bound using 2
      omega

/-- The mantissa at an exponent, before a carry. -/
def mantissaAt (numerator denominator : Nat) (exponent : Int) : Nat :=
  roundedQuotient (scaledQuotient numerator denominator exponent).1
    (scaledQuotient numerator denominator exponent).2

theorem nearest?_eq (above : 0 < numerator) :
    nearest? numerator denominator =
      let exponent := max leastExponent (fittingExponent numerator denominator)
      let mantissa := mantissaAt numerator denominator exponent
      let value : Magnitude :=
        if mantissa = Nat.pow 2 53 then ⟨Nat.pow 2 52, exponent + 1⟩ else ⟨mantissa, exponent⟩
      if value.exponent > greatestExponent then none else some value := by
  rw [nearest?, if_neg above.ne']
  rfl

theorem mantissaAt_le (above : 0 < numerator) (below : 0 < denominator) {exponent : Int}
    (fits : fittingExponent numerator denominator ≤ exponent) :
    mantissaAt numerator denominator exponent ≤ 2 ^ 53 := by
  obtain ⟨_, bound⟩ := fittingExponent_spec above below
  refine roundedQuotient_le ((scaledQuotient_lt_iff _ below exponent 53).mpr ?_)
  refine bound.trans_le (zpow_le_zpow_right₀ (by norm_num) ?_)
  push_cast
  omega

theorem le_mantissaAt (above : 0 < numerator) (below : 0 < denominator) :
    2 ^ 52 ≤ mantissaAt numerator denominator (fittingExponent numerator denominator) := by
  obtain ⟨least, _⟩ := fittingExponent_spec above below
  obtain ⟨scaled, _⟩ := scaledQuotient_spec numerator below
    (fittingExponent numerator denominator)
  refine le_roundedQuotient scaled (not_lt.mp ?_)
  rw [scaledQuotient_lt_iff _ below]
  exact not_lt.mpr least

end Nearest

theorem zero_isDouble : zero.IsDouble :=
  ⟨by decide, by decide, by decide, Or.inr rfl⟩

/-- A quotient that is at least one is no smaller than the normal doubles. -/
theorem leastExponent_le_fittingExponent {numerator denominator : Nat} (below : 0 < denominator)
    (atLeast : denominator ≤ numerator) :
    leastExponent ≤ fittingExponent numerator denominator := by
  obtain ⟨_, bound⟩ := fittingExponent_spec (below.trans_le atLeast) below
  have one : (1 : ℚ) ≤ (numerator : ℚ) / denominator := by
    rw [one_le_div (by exact_mod_cast below)]
    exact_mod_cast atLeast
  by_contra tooSmall
  have tiny : (2 : ℚ) ^ (fittingExponent numerator denominator + 53) ≤ 2 ^ (0 : Int) :=
    zpow_le_zpow_right₀ (by norm_num) (by simp only [leastExponent] at tooSmall; omega)
  rw [zpow_zero] at tiny
  exact absurd (one.trans_lt bound) (not_lt.mpr tiny)

/-- The nearest double to a quotient is a double; that of a quotient which is at least one is not
zero. -/
theorem nearest?_isDouble {numerator denominator : Nat} {value : Magnitude}
    (below : 0 < denominator) (nearest : nearest? numerator denominator = some value) :
    value.IsDouble ∧ (denominator ≤ numerator → 0 < value.mantissa) := by
  rcases Nat.eq_zero_or_pos numerator with rfl | above
  · rw [nearest?, if_pos rfl] at nearest
    obtain rfl := Option.some.inj nearest
    exact ⟨zero_isDouble, fun atLeast => by omega⟩
  · have bound := mantissaAt_le above below (le_max_right leastExponent _)
    have inBits (normal : leastExponent ≤ fittingExponent numerator denominator) :
        2 ^ 52 ≤ mantissaAt numerator denominator
          (max leastExponent (fittingExponent numerator denominator)) := by
      rw [max_eq_right normal]
      exact le_mantissaAt above below
    have least := le_max_left leastExponent (fittingExponent numerator denominator)
    have exponentCases := max_choice leastExponent (fittingExponent numerator denominator)
    rw [nearest?_eq above] at nearest
    generalize max leastExponent (fittingExponent numerator denominator) = exponent at *
    simp only at nearest
    split at nearest
    next carries =>
      split at nearest
      · cases nearest
      next inRange =>
        obtain rfl := Option.some.inj nearest
        exact ⟨⟨(by decide : Nat.pow 2 52 < Nat.pow 2 53), least.trans (Int.le_add_one le_rfl),
          not_lt.mp inRange, Or.inl le_rfl⟩, fun _ => (by decide : 0 < Nat.pow 2 52)⟩
    next stays =>
      split at nearest
      · cases nearest
      next inRange =>
        obtain rfl := Option.some.inj nearest
        refine ⟨⟨lt_of_le_of_ne bound stays, least, not_lt.mp inRange, ?_⟩, fun atLeast => ?_⟩
        · rcases exponentCases with isLeast | isFitting
          · exact Or.inr isLeast
          · exact Or.inl (inBits (isFitting ▸ least))
        · have enough := inBits (leastExponent_le_fittingExponent below atLeast)
          exact (by decide : 0 < 2 ^ 52).trans_le enough

/-! ## Scaling by powers of ten -/

theorem toQuotient_positive (value : Magnitude) :
    0 < value.toQuotient.2 ∧ (0 < value.mantissa → 0 < value.toQuotient.1) := by
  unfold toQuotient
  split
  · exact ⟨Nat.one_pos, fun positive => Nat.mul_pos positive (Nat.pow_pos (by decide))⟩
  · exact ⟨Nat.pow_pos (by decide), id⟩

theorem times?_isDouble {left right value : Magnitude} (product : left.times? right = some value) :
    value.IsDouble :=
  (nearest?_isDouble (Nat.mul_pos left.toQuotient_positive.1 right.toQuotient_positive.1)
    product).1

theorem quotient?_isDouble {left right value : Magnitude} (nonzero : 0 < right.mantissa)
    (quotient : left.quotient? right = some value) : value.IsDouble :=
  (nearest?_isDouble
    (Nat.mul_pos left.toQuotient_positive.1 (right.toQuotient_positive.2 nonzero)) quotient).1

theorem powerOfTen?_positive {power : Nat} {value : Magnitude}
    (rounded : powerOfTen? power = some value) : 0 < value.mantissa :=
  (nearest?_isDouble (by decide) rounded).2 (Nat.one_le_pow _ _ (by decide))

theorem divideByTen?_isDouble {value quotient : Magnitude} {power : Nat}
    (divided : value.divideByTen? power = some quotient) : quotient.IsDouble := by
  unfold divideByTen? at divided
  extract_lets steps at divided
  split at divided
  next wide last _ lastRounded =>
    rw [Option.bind_eq_some_iff] at divided
    obtain ⟨scaled, _, once⟩ := divided
    exact quotient?_isDouble (powerOfTen?_positive lastRounded) once
  · cases divided

theorem scaleByTen?_isDouble {value scaled : Magnitude} {power : Int} (isDouble : value.IsDouble)
    (scales : value.scaleByTen? power = some scaled) : scaled.IsDouble := by
  unfold scaleByTen? at scales
  split at scales
  · exact divideByTen?_isDouble scales
  · split at scales
    · obtain ⟨factor, _, product⟩ := Option.bind_eq_some_iff.mp scales
      exact times?_isDouble product
    · split at scales
      · exact Option.some.inj scales ▸ isDouble
      · cases scales

/-- A decimal is read as a double or not at all. -/
theorem ofDecimal?_isDouble {significand : Nat} {power : Int} {value : Magnitude}
    (read : ofDecimal? significand power = some value) : value.IsDouble := by
  obtain ⟨whole, nearest, scales⟩ := Option.bind_eq_some_iff.mp read
  exact scaleByTen?_isDouble (nearest?_isDouble (by decide) nearest).1 scales

end Parley.Magnitude
