/-! # Scalars

The numbers that charts, books and summaries are written over, and what is refused of them.
-/

/-! ## Prices and volumes

Charts, books and summaries are written over any type of scalars: over binary64 numbers, which are
what a run uses, and over the rational numbers, where the same rules can be followed without
rounding. A scalar type has the few operations that the rules need and no laws, since binary64
arithmetic satisfies hardly any.
-/

namespace Renko

/-- A number type that prices and volumes can have. -/
class Scalar (α : Type) extends Add α, Sub α, Zero α, LT α, BEq α where
  /-- Whether one scalar is below another can be decided. -/
  decidableLT : DecidableLT α
  /-- Neither infinite nor undefined. -/
  isFinite : α → Bool
  /-- The size of a scalar, without its sign. -/
  abs : α → α
  /-- How many times the second scalar fits into the first; nothing below zero, and no multiple of
  an undefined distance. -/
  wholeSteps : α → α → Nat
  /-- The quotient of two counts. -/
  ratio : Nat → Nat → α

namespace Scalar

instance (α : Type) [Scalar α] : DecidableLT α := Scalar.decidableLT

variable {α : Type} [Scalar α]

/-- The larger of two scalars; of a number and an undefined value it is the number. -/
def larger (first second : α) : α :=
  if first < second || !(first == first) then second else first

/-- The smaller of two scalars; of a number and an undefined value it is the number. -/
def smaller (first second : α) : α :=
  if second < first || !(first == first) then second else first

/-- A quotient of binary64 numbers is cut to a whole number; past the largest 64-bit word it stays
there. -/
instance : Scalar Float where
  decidableLT := inferInstance
  isFinite := Float.isFinite
  abs := Float.abs
  wholeSteps distance size := (distance / size).toUInt64.toNat
  ratio part whole := Float.ofNat part / Float.ofNat whole

/-- A quotient of rational numbers is rounded down to a whole number. -/
instance : Scalar Rat where
  toZero := Zero.ofOfNat0
  decidableLT := inferInstance
  isFinite _ := true
  abs := Rat.abs
  wholeSteps distance size := (distance / size).floor.toNat
  ratio part whole := mkRat part whole

end Scalar

/-! ## What a run can refuse

The causes for which a chart, a schedule or a book refuses an operation, and the two checks of
numbers that every run makes.
-/

/-- Why a chart, a schedule or a book refuses. -/
inductive TradeFault (α : Type)
  | invalidBrickSize (value : α)
  | invalidSlippage (value : α)
  | positionAlreadyOpen
  | noOpenPosition
  | noBricks
  deriving DecidableEq

variable {α : Type} [Scalar α]

/-- A brick size is finite and above zero. -/
def validBrickSize (value : α) : Bool := Scalar.isFinite value && decide (0 < value)

/-- A slippage is finite and not below zero. -/
def validSlippage (value : α) : Bool := Scalar.isFinite value && !decide (value < 0)

/-- Passes on a valid brick size. -/
def checkBrickSize (value : α) : Except (TradeFault α) α :=
  if validBrickSize value then .ok value else .error (.invalidBrickSize value)

def checkSlippage (value : α) : Except (TradeFault α) α :=
  if validSlippage value then .ok value else .error (.invalidSlippage value)

end Renko
