/-!
# Double-precision numbers

Finite binary64 numbers as a sign and an exact value `mantissa * 2 ^ exponent`, with rounding of a
quotient to the nearest of them in exact natural-number arithmetic.
-/

namespace Parley

/-- A finite value `mantissa * 2 ^ exponent`, without its sign. -/
structure Magnitude where
  mantissa : Nat
  exponent : Int
deriving DecidableEq, Repr

/-- A finite double-precision number. Zero keeps its sign. -/
structure Binary64 where
  negative : Bool
  magnitude : Magnitude
deriving DecidableEq, Repr

namespace Magnitude

/-- The least exponent of a double, that of the subnormal numbers. -/
def leastExponent : Int := -1074

def greatestExponent : Int := 971

/-- Zero is written with the least exponent. -/
def zero : Magnitude := ⟨0, leastExponent⟩

/-- The mantissa and exponent are those of a double: fewer than fifty-four bits, and exactly
fifty-three unless the exponent is the least one. -/
def IsDouble (value : Magnitude) : Prop :=
  value.mantissa < Nat.pow 2 53 ∧ leastExponent ≤ value.exponent ∧
    value.exponent ≤ greatestExponent ∧
    (Nat.pow 2 52 ≤ value.mantissa ∨ value.exponent = leastExponent)

/-- The quotient rounded to the nearest whole number, a half going to the even neighbour. -/
def roundedQuotient (numerator denominator : Nat) : Nat :=
  let whole := numerator / denominator
  let twice := 2 * (numerator % denominator)
  if twice < denominator then whole
  else if twice > denominator then whole + 1
  else if whole % 2 = 0 then whole
  else whole + 1

/-- The quotient over `2 ^ exponent`, as a numerator and a denominator. -/
def scaledQuotient (numerator denominator : Nat) (exponent : Int) : Nat × Nat :=
  if 0 ≤ exponent then (numerator, denominator * Nat.pow 2 exponent.toNat)
  else (numerator * Nat.pow 2 (-exponent).toNat, denominator)

/-- The double nearest to `numerator / denominator`, ties to even; nothing past the greatest. -/
def nearest? (numerator denominator : Nat) : Option Magnitude :=
  if numerator = 0 then some zero
  else
    let guess : Int := (numerator.log2 : Int) - denominator.log2 - 52
    let (upper, lower) := scaledQuotient numerator denominator guess
    let exponent := max leastExponent (if upper / lower < Nat.pow 2 52 then guess - 1 else guess)
    let (upper, lower) := scaledQuotient numerator denominator exponent
    let mantissa := roundedQuotient upper lower
    let value : Magnitude :=
      if mantissa = Nat.pow 2 53 then ⟨Nat.pow 2 52, exponent + 1⟩ else ⟨mantissa, exponent⟩
    if value.exponent > greatestExponent then none else some value

/-- The exact value as a numerator and a denominator. -/
def toQuotient (value : Magnitude) : Nat × Nat :=
  if 0 ≤ value.exponent then (value.mantissa * Nat.pow 2 value.exponent.toNat, 1)
  else (value.mantissa, Nat.pow 2 (-value.exponent).toNat)

/-- The rounded product, or nothing when it is past the greatest double. -/
def times? (left right : Magnitude) : Option Magnitude :=
  let (leftOver, leftUnder) := left.toQuotient
  let (rightOver, rightUnder) := right.toQuotient
  nearest? (leftOver * rightOver) (leftUnder * rightUnder)

/-- The rounded quotient by a value that is not zero. -/
def quotient? (left right : Magnitude) : Option Magnitude :=
  let (leftOver, leftUnder) := left.toQuotient
  let (rightOver, rightUnder) := right.toQuotient
  nearest? (leftOver * rightUnder) (leftUnder * rightOver)

def powerOfTen? (power : Nat) : Option Magnitude :=
  nearest? (Nat.pow 10 power) 1

/-- The greatest power of ten that one multiplication or division scales by. -/
def widestStep : Nat := 308

/-- The value divided `count` times by the same divisor, each time with rounding. A value that
has become zero stays zero. -/
def divideRepeatedly? (divisor value : Magnitude) : Nat → Option Magnitude
  | 0 => some value
  | count + 1 =>
      if value.mantissa = 0 then some value
      else
        match value.quotient? divisor with
        | some smaller => divideRepeatedly? divisor smaller count
        | none => none

/-- The value over `10 ^ power`: as many divisions by the widest step as leave a power within it,
and one by that power. -/
def divideByTen? (value : Magnitude) (power : Nat) : Option Magnitude :=
  let steps := (power - 1) / widestStep
  match powerOfTen? widestStep, powerOfTen? (power - steps * widestStep) with
  | some wide, some last =>
      (divideRepeatedly? wide value steps).bind (·.quotient? last)
  | _, _ => none

/-- `value * 10 ^ power`: one rounded multiplication by a rounded power of ten, or rounded
divisions. Past `10 ^ 308` only zero stays in range. -/
def scaleByTen? (value : Magnitude) (power : Int) : Option Magnitude :=
  if power < 0 then divideByTen? value (-power).toNat
  else if power.toNat ≤ widestStep then (powerOfTen? power.toNat).bind value.times?
  else if value.mantissa = 0 then some value
  else none

/-- The double that a decimal with the given digits and power of ten is read as: the digits are
rounded first and then scaled. -/
def ofDecimal? (significand : Nat) (power : Int) : Option Magnitude :=
  (nearest? significand 1).bind (·.scaleByTen? power)

end Magnitude

end Parley
