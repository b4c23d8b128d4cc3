import Renko.Number.Binary64

/-! # Decimals

A decimal is a whole coefficient times a power of ten. Every finite binary64 number is one
exactly; the shortest decimal of a number is the one with the fewest digits among those that read
back as that number, and of those the nearest.
-/

namespace Renko

/-- A coefficient times ten to an exponent. -/
structure Decimal where
  coefficient : Nat
  exponent : Int
  deriving DecidableEq

namespace Decimal

/-- The digits of the coefficient, none for zero. -/
def digits (decimal : Decimal) : List Char :=
  if decimal.coefficient = 0 then [] else Nat.toDigits 10 decimal.coefficient

/-- How many digits stand before the point when a decimal is written out; below zero, how many zeros
follow the point. -/
def point (decimal : Decimal) : Int := decimal.digits.length + decimal.exponent

/-- The power of ten that the first digit stands for, give or take one. -/
def magnitude (decimal : Decimal) : Int :=
  (decimal.coefficient.log2 * 30103 / 100000 : Nat) + decimal.exponent

/-- The bits of the binary64 number nearest to a decimal, without a sign. A decimal whose first
digit is more than four hundred places from the point is infinite or zero in any case. -/
def nearestBits (decimal : Decimal) : Nat :=
  if decimal.coefficient = 0 ∨ decimal.magnitude < -400 then 0
  else if 400 < decimal.magnitude then Binary64.infinityBits
  else
    Binary64.nearest (decimal.coefficient * power 10 decimal.exponent)
      (power 10 (-decimal.exponent))

/-- The binary64 number nearest to a decimal, with a sign. -/
def toFloat (negative : Bool) (decimal : Decimal) : Float :=
  Binary64.signed negative decimal.nearestBits

/-- A decimal without zeros at the end of its coefficient. The first argument bounds their
number. -/
def trim : Nat → Decimal → Decimal
  | 0, decimal => decimal
  | fuel + 1, decimal =>
    if decimal.coefficient ≠ 0 ∧ decimal.coefficient % 10 = 0 then
      trim fuel ⟨decimal.coefficient / 10, decimal.exponent + 1⟩
    else decimal

/-- The numbers that read back as one binary64 number, with that number among them: all three are
numerators over one denominator. The ends belong to the stretch if it is closed. -/
structure Stretch where
  low : Nat
  value : Nat
  high : Nat
  den : Nat
  closed : Bool

namespace Stretch

/-- The stretch around a mantissa times two to an exponent: half a unit to both sides, and only a
quarter below a power of two. It is closed if the mantissa is even. -/
def around (mantissa : Nat) (exponent : Int) : Stretch :=
  let below := if mantissa = Binary64.leadingBit ∧ Binary64.minExponent < exponent then 1 else 2
  let unit := power 2 (exponent - 2)
  { low := (4 * mantissa - below) * unit
    value := 4 * mantissa * unit
    high := (4 * mantissa + 2) * unit
    den := power 2 (2 - exponent)
    closed := mantissa % 2 == 0 }

/-- The stretch measured in units of a power of ten. -/
def scale (stretch : Stretch) (exponent : Int) : Stretch :=
  let up := power 10 (-exponent)
  { stretch with
    low := stretch.low * up
    value := stretch.value * up
    high := stretch.high * up
    den := stretch.den * power 10 exponent }

def holds (stretch : Stretch) (candidate : Nat) : Bool :=
  let candidate := candidate * stretch.den
  if stretch.closed then decide (stretch.low ≤ candidate ∧ candidate ≤ stretch.high)
  else decide (stretch.low < candidate ∧ candidate < stretch.high)

/-- The whole number in the stretch that is nearest to its value, looked for on both sides of it. -/
def whole? (stretch : Stretch) (tie : Tie) : Option Nat :=
  let down := stretch.value / stretch.den
  match stretch.holds down, stretch.holds (down + 1) with
  | true, true => some (tie.round stretch.value stretch.den)
  | true, false => some down
  | false, true => some (down + 1)
  | false, false => none

/-- How many digits stand before the point of the value. -/
def point (stretch : Stretch) : Int :=
  let guess := Binary64.floorLog stretch.value stretch.den * 30103 / 100000 + 1
  let scaled := stretch.scale guess
  if scaled.den ≤ scaled.value then guess + 1 else guess

/-- Tries grids of one more digit each time. The first argument counts the grids that are left. -/
def search (stretch : Stretch) (tie : Tie) : Nat → Int → Option Decimal
  | 0, _ => none
  | left + 1, exponent =>
    match (stretch.scale exponent).whole? tie with
    | some coefficient => some ⟨coefficient, exponent⟩
    | none => search stretch tie left (exponent - 1)

end Stretch

/-- The shortest decimal of a finite number that is not zero. Seventeen digits always suffice. -/
def shortest? (tie : Tie) (mantissa : Nat) (exponent : Int) : Option Decimal :=
  let stretch := Stretch.around mantissa exponent
  (stretch.search tie 17 (stretch.point - 1)).map (trim 17)

/-- The decimal a finite number that is not zero is written as. There always is a shortest one, so
what stands in for it does not matter. -/
def ofBinary (tie : Tie) (mantissa : Nat) (exponent : Int) : Decimal :=
  (shortest? tie mantissa exponent).getD ⟨0, 0⟩

end Decimal

end Renko
