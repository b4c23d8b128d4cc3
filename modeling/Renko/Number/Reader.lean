import Renko.Number.Decimal

/-! # Reading numbers

Whole numbers of 64 bits with a sign, decimal or behind `0x` hexadecimal, and binary64 numbers as
decimals, with or without an exponent. Nothing else may stand in the text, not even blanks.
-/

namespace Renko

/-- Why a text is no number. -/
inductive NumberFault
  | emptyWhole
  | invalidDigit
  | tooLarge
  | tooSmall
  | emptyDecimal
  | invalidDecimal
  deriving DecidableEq

namespace NumberFault

def message : NumberFault → String
  | emptyWhole => "cannot parse integer from empty string"
  | invalidDigit => "invalid digit found in string"
  | tooLarge => "number too large to fit in target type"
  | tooSmall => "number too small to fit in target type"
  | emptyDecimal => "cannot parse float from empty string"
  | invalidDecimal => "invalid float literal"

end NumberFault

namespace Whole

/-- The value of a digit in a base of at most sixteen. -/
def digit? (base : Nat) (c : Char) : Option Nat :=
  let value? :=
    if '0' ≤ c ∧ c ≤ '9' then some (c.toNat - '0'.toNat)
    else if 'a' ≤ c ∧ c ≤ 'f' then some (c.toNat - 'a'.toNat + 10)
    else if 'A' ≤ c ∧ c ≤ 'F' then some (c.toNat - 'A'.toNat + 10)
    else none
  value?.filter (· < base)

/-- Reads digits from the left onto the value of those already read. The first digit that is none,
or that takes the value past the limit, decides. -/
def readDigits (base limit : Nat) (overflow : NumberFault) :
    Nat → List Char → Except NumberFault Nat
  | value, [] => .ok value
  | value, c :: rest =>
    match digit? base c with
    | none => .error .invalidDigit
    | some digit =>
      let value := base * value + digit
      if value ≤ limit then readDigits base limit overflow value rest else .error overflow

/-- The largest number of 64 bits with a sign, 2^63 - 1. -/
def largest : Nat := 0x7FFFFFFFFFFFFFFF

/-- Reads an optional sign and at least one digit. -/
def readSigned (base : Nat) (text : List Char) : Except NumberFault Int :=
  match text with
  | [] => .error .emptyWhole
  | ['-'] => .error .invalidDigit
  | ['+'] => .error .invalidDigit
  | '-' :: digits =>
    (readDigits base (largest + 1) .tooSmall 0 digits).map fun value => -(value : Int)
  | '+' :: digits => (readDigits base largest .tooLarge 0 digits).map Int.ofNat
  | digits => (readDigits base largest .tooLarge 0 digits).map Int.ofNat

/-- Reads a whole number of 64 bits. -/
def read (text : String) : Except NumberFault Int :=
  match text.toList with
  | '0' :: 'x' :: digits => readSigned 16 digits
  | digits => readSigned 10 digits

end Whole

namespace Decimal

/-- The number that a list of decimal digits stands for. -/
def value (digits : List Char) : Nat :=
  digits.foldl (fun value c => 10 * value + (c.toNat - '0'.toNat)) 0

/-- The number that the digits of an exponent stand for. Digits are no longer counted once it has
reached 65536. -/
def exponentValue (digits : List Char) : Nat :=
  digits.foldl
    (fun value c => if value < 65536 then 10 * value + (c.toNat - '0'.toNat) else value) 0

/-- Reads an exponent: an optional sign and at least one digit, to the end of the text. -/
def readExponent (text : List Char) : Option Int :=
  let (negative, digits) := match text with
    | '-' :: digits => (true, digits)
    | '+' :: digits => (false, digits)
    | digits => (false, digits)
  if digits.isEmpty || !digits.all Char.isDigit then none
  else
    let value : Int := exponentValue digits
    some (if negative then -value else value)

/-- Reads digits with an optional point, at least one of them, and an optional exponent. -/
def read? (text : List Char) : Option Decimal :=
  let whole := text.takeWhile Char.isDigit
  let rest := text.dropWhile Char.isDigit
  let (fraction, rest) := match rest with
    | '.' :: rest => (rest.takeWhile Char.isDigit, rest.dropWhile Char.isDigit)
    | rest => ([], rest)
  if whole.isEmpty && fraction.isEmpty then none
  else
    let coefficient := value (whole ++ fraction)
    match rest with
    | [] => some ⟨coefficient, -fraction.length⟩
    | mark :: exponent =>
      if mark = 'e' ∨ mark = 'E' then
        (readExponent exponent).map fun exponent => ⟨coefficient, exponent - fraction.length⟩
      else none

end Decimal

namespace Binary64

/-- Reads a number without its sign; the words for infinity and for no number may be in any case. -/
def readMagnitude (negative : Bool) (text : List Char) : Option Float :=
  match Decimal.read? text with
  | some decimal => some (decimal.toFloat negative)
  | none =>
    let word := String.ofList (text.map Char.toLower)
    if word = "inf" ∨ word = "infinity" then some (signed negative infinityBits)
    else if word = "nan" then some (0 / 0)
    else none

/-- Reads a binary64 number: the one nearest to the decimal in the text. -/
def read (text : String) : Except NumberFault Float :=
  let number? := match text.toList with
    | '-' :: rest => readMagnitude true rest
    | '+' :: rest => readMagnitude false rest
    | rest => readMagnitude false rest
  match number? with
  | some number => .ok number
  | none => .error (if text.isEmpty then .emptyDecimal else .invalidDecimal)

end Binary64

end Renko
