import Parley.Number.Binary64

/-!
# Shortest decimals

The fewest decimal digits that read back as a given double. For one, two, … seventeen digits the
two neighbours of the value on that decimal grid are tried; the first grid with a neighbour inside
the interval of numbers that round to the double wins, and of two hits the nearer one.
-/

namespace Parley

/-- Digits `digits` scaled by `10 ^ power`. -/
structure Decimal where
  digits : Nat
  power : Int
deriving DecidableEq, Repr

namespace Magnitude

/-- Whether `left / leftUnder ≤ right / rightUnder` on positive denominators. -/
def quotientLe (left right : Nat × Nat) : Bool :=
  left.1 * right.2 ≤ right.1 * left.2

/-- The midpoints to the neighbouring doubles, as quotients, and whether they belong to the
interval that rounds to the value, which they do when the mantissa is even. -/
def roundingInterval (value : Magnitude) : (Nat × Nat) × (Nat × Nat) × Bool :=
  let below :=
    if value.mantissa = Nat.pow 2 52 ∧ leastExponent < value.exponent then
      4 * value.mantissa - 1
    else 4 * value.mantissa - 2
  let quarter (count : Nat) : Nat × Nat := toQuotient ⟨count, value.exponent - 2⟩
  (quarter below, quarter (4 * value.mantissa + 2), value.mantissa % 2 = 0)

def decimalQuotient (decimal : Decimal) : Nat × Nat :=
  if 0 ≤ decimal.power then (decimal.digits * Nat.pow 10 decimal.power.toNat, 1)
  else (decimal.digits, Nat.pow 10 (-decimal.power).toNat)

/-- The decimal reads back as the value: it lies in the rounding interval. -/
def readsBack (value : Magnitude) (decimal : Decimal) : Bool :=
  let (low, high, inclusive) := value.roundingInterval
  let written := decimalQuotient decimal
  if inclusive then quotientLe low written && quotientLe written high
  else ! quotientLe written low && ! quotientLe high written

/-- The greatest `power` with `10 ^ power ≤ upper / lower`, found by stepping from a guess. -/
def decimalExponentFrom (upper lower : Nat) : Nat → Int → Int
  | 0, guess => guess
  | steps + 1, guess =>
      if ! quotientLe (decimalQuotient ⟨1, guess⟩) (upper, lower) then
        decimalExponentFrom upper lower steps (guess - 1)
      else if quotientLe (decimalQuotient ⟨1, guess + 1⟩) (upper, lower) then
        decimalExponentFrom upper lower steps (guess + 1)
      else guess

/-- The greatest power of ten that does not exceed the value. -/
def decimalExponent (value : Magnitude) : Int :=
  let (upper, lower) := value.toQuotient
  let binary : Int := (upper.log2 : Int) - lower.log2
  decimalExponentFrom upper lower 4 (binary * 30103 / 100000)

/-- The whole multiples of `10 ^ power` around the value, the nearer one first. Of two equally
near ones the even multiple comes first. -/
def neighbours (value : Magnitude) (power : Int) : List Decimal :=
  let (upper, lower) := value.toQuotient
  let (upper, lower) :=
    if 0 ≤ power then (upper, lower * Nat.pow 10 power.toNat)
    else (upper * Nat.pow 10 (-power).toNat, lower)
  let floor := upper / lower
  let twice := 2 * (upper % lower)
  let below : Decimal := ⟨floor, power⟩
  let above : Decimal := ⟨floor + 1, power⟩
  if twice < lower ∨ (twice = lower ∧ floor % 2 = 0) then [below, above]
  else [above, below]

/-- The shortest decimal among the grids from `digits` digits on. -/
def shortestFrom (value : Magnitude) (exponent : Int) : Nat → Nat → Decimal
  | 0, digits => (value.neighbours (exponent + 1 - digits)).headD ⟨0, 0⟩
  | more + 1, digits =>
      match (value.neighbours (exponent + 1 - digits)).find? value.readsBack with
      | some decimal => decimal
      | none => shortestFrom value exponent more (digits + 1)

/-- The decimal with the fewest digits that reads back as a positive double. -/
def shortest (value : Magnitude) : Decimal :=
  shortestFrom value value.decimalExponent 16 1

end Magnitude

end Parley
