import Renko.Number.Decimal

/-! # Texts of numbers

Two ways in which a binary64 number is written as its shortest decimal. They differ in where they
leave plain digits for an exponent, in what they add to a whole number, and in which of two equally
near decimals they take.
-/

namespace Renko

/-- How a shortest decimal is laid out. -/
structure NumberStyle where
  /-- Which of two decimals that are equally near is taken. -/
  tie : Tie
  /-- Whether a number with so many digits before the point is written without an exponent. -/
  plain : Int → Bool
  /-- What follows a whole number that is written without an exponent. -/
  wholeEnd : String

namespace NumberStyle

/-- The style of messages: never an exponent, and nothing behind a whole number. -/
def message : NumberStyle := ⟨.up, fun _ => true, ""⟩

/-- The style of reports: plain from 1e-5 up to 1e16, with a digit behind every point. -/
def report : NumberStyle := ⟨.toEven, fun point => decide (-5 < point ∧ point ≤ 16), ".0"⟩

/-- Digits with the point in its place. -/
def plainDigits (style : NumberStyle) (digits : List Char) (point : Int) : List Char :=
  if point ≤ 0 then '0' :: '.' :: (List.replicate (-point).toNat '0' ++ digits)
  else if point < digits.length then
    digits.take point.toNat ++ '.' :: digits.drop point.toNat
  else digits ++ List.replicate (point.toNat - digits.length) '0' ++ style.wholeEnd.toList

/-- Digits with the point behind the first one and an exponent. -/
def scientific (digits : List Char) (point : Int) : List Char :=
  let fraction := digits.drop 1
  digits.take 1 ++ (if fraction.isEmpty then [] else '.' :: fraction) ++
    'e' :: (toString (point - 1)).toList

def decimal (style : NumberStyle) (decimal : Decimal) : List Char :=
  if decimal.coefficient = 0 then '0' :: style.wholeEnd.toList
  else if style.plain decimal.point then style.plainDigits decimal.digits decimal.point
  else scientific decimal.digits decimal.point

/-- The sign of a number that has one. -/
def sign (negative : Bool) : List Char := if negative then ['-'] else []

/-- A number in a style. The sign of zero is kept. -/
def write (style : NumberStyle) (x : Float) : String :=
  match Binary64.ofFloat x with
  | .undefined => "NaN"
  | .infinite negative => String.ofList (sign negative ++ "inf".toList)
  | .finite negative mantissa exponent =>
    let decimal := if mantissa = 0 then ⟨0, 0⟩ else Decimal.ofBinary style.tie mantissa exponent
    String.ofList (sign negative ++ style.decimal decimal)

end NumberStyle

end Renko
