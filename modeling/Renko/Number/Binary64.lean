/-! # Binary64 numbers

Reading a binary64 number off its bits, and finding the one nearest to a quotient, needs whole
numbers alone.
-/

/-! ## Powers with a sign in the exponent -/

namespace Renko

/-- A base to an exponent, and one where the exponent is negative. A number times a power is thus
`n * power b e` over `power b (-e)`, whatever the sign of the exponent. -/
def power (base : Nat) (exponent : Int) : Nat := Nat.pow base exponent.toNat

/-- To the exponent zero every base is one. -/
@[simp] theorem power_zero (base : Nat) : power base 0 = 1 := rfl

/-! ## Rounding quotients

A quotient of two natural numbers is rounded to the nearest whole number; what happens to a half is
left to the caller.
-/

/-- Where a half goes: to the even one of its neighbours, or to the larger one. -/
inductive Tie
  | toEven
  | up
  deriving DecidableEq

/-- The whole number nearest to a quotient. -/
def Tie.round (tie : Tie) (num den : Nat) : Nat :=
  let down := num / den
  let rest := num % den
  if 2 * rest < den then down
  else if den < 2 * rest then down + 1
  else match tie with
    | .toEven => down + down % 2
    | .up => down + 1

/-! ## Binary64 numbers as integers

A finite binary64 number is a whole mantissa below 2^53 times a power of two whose exponent is at
least -1074. Read this way, its text can be computed in exact arithmetic, and the number nearest to
a quotient can be found.
-/

/-- What a binary64 number stands for; a finite one is its mantissa times two to its exponent. -/
inductive Binary64
  | undefined
  | infinite (negative : Bool)
  | finite (negative : Bool) (mantissa : Nat) (exponent : Int)
  deriving DecidableEq

namespace Binary64

def minExponent : Int := -1074

/-- The smallest mantissa of a number that is not subnormal, 2^52. -/
def leadingBit : Nat := 0x10000000000000

def signBit : Nat := 0x8000000000000000

def infinityBits : Nat := 0x7FF0000000000000

/-- Reads sign, mantissa and exponent off the bits of a number. -/
def ofFloat (x : Float) : Binary64 :=
  let bits := x.toBits.toNat
  let negative := decide (signBit ≤ bits)
  let field : Nat := bits / leadingBit % 2048
  let fraction := bits % leadingBit
  if field = 2047 then if fraction = 0 then infinite negative else undefined
  else if field = 0 then finite negative fraction minExponent
  else finite negative (leadingBit + fraction) (minExponent + ((field : Int) - 1))

/-- The bits of a mantissa times two to an exponent. The leading bit of a mantissa that has one
counts the exponent up by one, as the bits of a number do. -/
def bits (mantissa : Nat) (exponent : Int) : Nat :=
  (exponent - minExponent).toNat * leadingBit + mantissa

/-- The number with the given sign and the given bits below it. -/
def signed (negative : Bool) (bits : Nat) : Float :=
  Float.ofBits (UInt64.ofNat (if negative then signBit + bits else bits))

/-- The exponent of the largest power of two that is no larger than a quotient of positive
numbers. -/
def floorLog (num den : Nat) : Int :=
  let guess : Int := (num.log2 : Int) - den.log2
  if den * power 2 guess ≤ num * power 2 (-guess) then guess else guess - 1

/-- The bits of the number nearest to a quotient; of two that are equally near, the one with an even
mantissa; past the largest finite number, infinity. -/
def nearest (num den : Nat) : Nat :=
  if num = 0 then 0
  else
    let exponent := max (floorLog num den - 52) minExponent
    let mantissa := Tie.toEven.round (num * power 2 (-exponent)) (den * power 2 exponent)
    min (bits mantissa exponent) infinityBits

end Binary64

end Renko
