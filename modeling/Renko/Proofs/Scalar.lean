import Mathlib
import Renko.Brick
import Renko.Proofs.Scalar.Unpacked
import Renko.Scalar

/-! # Scalars and their checks

What charts and books need of the two types of scalars: rational ones obey the laws of order, both
measure a distance alike, and the checks of a run let the valid ones pass.
-/

/-! ## Rational numbers

Over rational numbers the comparisons are those of the order, and a distance holds its whole steps
and less than one more (`Renko.Scalar.wholeSteps_bounds`).
-/

namespace Renko

namespace Scalar

/-- Of two rational numbers the larger is the maximum. -/
theorem larger_eq_max (first second : Rat) : larger first second = max first second := by
  unfold larger
  by_cases less : first < second
  · rw [if_pos (by simp [less]), max_eq_right less.le]
  · rw [if_neg (by simp [less]), max_eq_left (not_lt.mp less)]

/-- Of two rational numbers the smaller is the minimum. -/
theorem smaller_eq_min (first second : Rat) : smaller first second = min first second := by
  unfold smaller
  by_cases less : second < first
  · rw [if_pos (by simp [less]), min_eq_right less.le]
  · rw [if_neg (by simp [less]), min_eq_left (not_lt.mp less)]

/-- A distance holds its whole steps and less than one more. -/
theorem wholeSteps_bounds {distance size : Rat} (positive : 0 < size) (forward : 0 ≤ distance) :
    wholeSteps distance size * size ≤ distance ∧
      distance < wholeSteps distance size * size + size := by
  have quotient : 0 ≤ distance / size := div_nonneg forward positive.le
  have rounded : ((wholeSteps distance size : Nat) : Rat) = (⌊distance / size⌋ : Int) := by
    have whole : 0 ≤ ⌊distance / size⌋ := Int.floor_nonneg.mpr quotient
    change (((distance / size).floor.toNat : Nat) : Rat) = ((distance / size).floor : Int)
    exact_mod_cast Int.toNat_of_nonneg whole
  rw [rounded]
  constructor
  · exact (le_div_iff₀ positive).mp (Int.floor_le _)
  · have below := (div_lt_iff₀ positive).mp (Int.lt_floor_add_one (distance / size))
    linarith

/-- Whole sizes that are added to a distance are whole steps of it. -/
theorem wholeSteps_add_mul {distance size : Rat} (positive : 0 < size) (forward : 0 ≤ distance)
    (count : Nat) :
    wholeSteps (distance + count * size) size = wholeSteps distance size + count := by
  have whole : 0 ≤ ⌊distance / size⌋ := Int.floor_nonneg.mpr (div_nonneg forward positive.le)
  change ⌊(distance + count * size) / size⌋.toNat = ⌊distance / size⌋.toNat + count
  rw [add_div, mul_div_cancel_right₀ _ positive.ne', Int.floor_add_natCast,
    Int.toNat_add whole (Int.natCast_nonneg count), Int.toNat_natCast]

/-- A distance below the size holds no step. -/
theorem wholeSteps_of_lt {distance size : Rat} (forward : 0 ≤ distance) (less : distance < size) :
    wholeSteps distance size = 0 := by
  have positive := forward.trans_lt less
  change ⌊distance / size⌋.toNat = 0
  rw [Int.floor_eq_zero_iff.mpr ⟨div_nonneg forward positive.le, (div_lt_one positive).mpr less⟩]
  rfl

end Scalar

/-! ## Two ways to measure a distance

A tick is measured twice: once by its distance from the open without the sign, once by its distance
in the direction of its price. Over rational and over binary64 numbers both hold the same number of
whole steps (`Renko.Scalar.Directed`). Subtraction of binary64 numbers is as exact in one direction
as in the other (`Renko.Unpacked.directed_sub`); an undefined or infinite difference is one in both.
-/

namespace Unpacked

open Float.Model Float.Model.UnpackedFloat

private theorem abs_round (sign : Sign) (mantissa : Nat) (exponent : Int) :
    (UnpackedFloat.round .binary64 sign mantissa exponent).abs =
      UnpackedFloat.round .binary64 .positive mantissa exponent := by
  simp only [UnpackedFloat.round, roundWithAccuracy]
  split <;> rfl

/-- A rounded number without its sign is the exact one rounded without its sign. -/
private theorem directed_normalize (mantissa : Int) (exponent : Int) :
    (if 0 < mantissa then UnpackedFloat.normalize .binary64 mantissa exponent .positive
      else UnpackedFloat.normalize .binary64 (-mantissa) exponent .positive) =
      (UnpackedFloat.normalize .binary64 mantissa exponent .positive).abs := by
  rcases lt_trichotomy mantissa 0 with less | rfl | greater
  · rw [if_neg (by omega)]
    have below : compare mantissa 0 = .lt := compare_lt_iff_lt.mpr less
    have above : compare (-mantissa) 0 = .gt := compare_gt_iff_gt.mpr (by omega)
    simp only [UnpackedFloat.normalize, below, above, abs_round]
  · rfl
  · rw [if_pos greater]
    have above : compare mantissa 0 = .gt := compare_gt_iff_gt.mpr greater
    simp only [UnpackedFloat.normalize, above, abs_round]

/-- The difference of two numbers in the direction of the second is their difference without its
sign, up to the sign of a zero. -/
theorem directed_sub (anchor price : UnpackedFloat) (anchorFits : Representable anchor)
    (priceFits : Representable price) :
    let directed := if anchor.lt price then UnpackedFloat.sub .binary64 price anchor
      else UnpackedFloat.sub .binary64 anchor price
    directed = (UnpackedFloat.sub .binary64 price anchor).abs ∨
      (UnpackedFloat.sub .binary64 price anchor).abs = .zero .positive ∧
        directed = .zero .negative := by
  intro directed
  cases anchor with
  | notANumber => cases price <;> exact Or.inl rfl
  | infinity anchorSign =>
      cases price with
      | notANumber => exact Or.inl rfl
      | infinity priceSign => cases anchorSign <;> cases priceSign <;> exact Or.inl rfl
      | zero priceSign => cases anchorSign <;> exact Or.inl rfl
      | finite priceSign => cases anchorSign <;> cases priceSign <;> exact Or.inl rfl
  | zero anchorSign =>
      cases price with
      | notANumber => exact Or.inl rfl
      | infinity priceSign => cases priceSign <;> exact Or.inl rfl
      | zero priceSign =>
          cases anchorSign <;> cases priceSign
          · exact Or.inl rfl
          · exact Or.inr ⟨rfl, rfl⟩
          · exact Or.inl rfl
          · exact Or.inl rfl
      | finite priceSign => cases priceSign <;> exact Or.inl rfl
  | finite anchorSign anchor anchorExponent anchorPositive =>
      cases price with
      | notANumber => exact Or.inl rfl
      | infinity priceSign => cases anchorSign <;> cases priceSign <;> exact Or.inl rfl
      | zero priceSign => cases anchorSign <;> exact Or.inl rfl
      | finite priceSign price priceExponent pricePositive =>
          left
          have order := lt_finite_iff anchorFits priceFits
          simp only [directed, UnpackedFloat.sub, decreaseExponent, order, min_comm anchorExponent]
          rw [← directed_normalize, Int.neg_sub]

/-- What a binary64 number stands for. -/
def ofFloat (number : Float) : UnpackedFloat := number.toModel.unpack

/-- Every binary64 number fits its format. -/
theorem representable_ofFloat (number : Float) : Representable (ofFloat number) :=
  representable_unpack _

private theorem ofFloat_sub (first second : Float) :
    ofFloat (first - second) =
      stored (UnpackedFloat.sub .binary64 (ofFloat first) (ofFloat second)) :=
  rfl

private theorem ofFloat_abs (number : Float) : ofFloat number.abs = (ofFloat number).abs :=
  stored_eq_self (representable_ofFloat number).abs

/-- Numbers are compared as they are taken apart. -/
theorem lt_iff (first second : Float) :
    first < second ↔ (ofFloat first).lt (ofFloat second) = true := by
  change decide _ = true ↔ _
  exact decide_eq_true_iff

private theorem wholeSteps_eq (distance size : Float) :
    Scalar.wholeSteps distance size =
      (stored (UnpackedFloat.div .binary64 (ofFloat distance) (ofFloat size))).toUInt64.toNat :=
  rfl

/-- Zero holds no whole steps, whatever its sign and the size of a step. -/
theorem wholeSteps_of_zero {distance : Float} {sign : Sign} (size : Float)
    (zero : ofFloat distance = .zero sign) : Scalar.wholeSteps distance size = 0 := by
  have quotient : UnpackedFloat.div .binary64 (.zero sign) (ofFloat size) = .notANumber ∨
      ∃ sign', UnpackedFloat.div .binary64 (.zero sign) (ofFloat size) = .zero sign' := by
    cases ofFloat size with
    | notANumber => exact Or.inl rfl
    | infinity sizeSign => exact Or.inr ⟨_, rfl⟩
    | zero sizeSign => exact Or.inl rfl
    | finite sizeSign => exact Or.inr ⟨_, rfl⟩
  rw [wholeSteps_eq, zero]
  rcases quotient with undefined | ⟨sign', vanishing⟩
  · rw [undefined, stored_eq_self (by trivial)]
    rfl
  · rw [vanishing, stored_eq_self (by trivial)]
    rfl

end Unpacked

/-- Scalars on which both measurements of a tick agree: the distance of a price from an anchor holds
as many whole steps without its sign as in the direction of the price. -/
class Scalar.Directed (α : Type) [Scalar α] : Prop where
  wholeSteps_abs_sub : ∀ anchor price size : α,
    Scalar.wholeSteps (Scalar.abs (price - anchor)) size =
      Scalar.wholeSteps ((Direction.toward anchor price).distance anchor price) size

instance : Scalar.Directed Rat where
  wholeSteps_abs_sub anchor price size := by
    change Scalar.wholeSteps (Rat.abs (price - anchor)) size = _
    unfold Direction.toward
    split
    · rename_i above
      rw [Rat.abs_of_nonneg (sub_nonneg.mpr (le_of_lt above))]
      rfl
    · rename_i below
      rw [Rat.abs_of_nonpos (sub_nonpos.mpr (not_lt.mp below)), neg_sub]
      rfl

instance : Scalar.Directed Float where
  wholeSteps_abs_sub anchor price size := by
    change Scalar.wholeSteps (price - anchor).abs size = _
    have plain : Unpacked.ofFloat (price - anchor).abs = Unpacked.stored (.abs
        (.sub .binary64 (Unpacked.ofFloat price) (Unpacked.ofFloat anchor))) := by
      rw [Unpacked.ofFloat_abs, Unpacked.ofFloat_sub, Unpacked.stored_abs]
    have directed : Unpacked.ofFloat ((Direction.toward anchor price).distance anchor price) =
        Unpacked.stored (if (Unpacked.ofFloat anchor).lt (Unpacked.ofFloat price) then
          .sub .binary64 (Unpacked.ofFloat price) (Unpacked.ofFloat anchor)
        else .sub .binary64 (Unpacked.ofFloat anchor) (Unpacked.ofFloat price)) := by
      simp only [Direction.toward, Unpacked.lt_iff]
      split <;> rfl
    rcases Unpacked.directed_sub _ _ (Unpacked.representable_ofFloat anchor)
      (Unpacked.representable_ofFloat price) with same | ⟨zero, negative⟩
    · rw [Unpacked.wholeSteps_eq, Unpacked.wholeSteps_eq, plain, directed, same]
    · rw [zero] at plain
      rw [negative] at directed
      rw [Unpacked.wholeSteps_of_zero size (plain.trans (Unpacked.stored_eq_self (by trivial))),
        Unpacked.wholeSteps_of_zero size (directed.trans (Unpacked.stored_eq_self (by trivial)))]

/-! ## Valid sizes and slippages

The two checks of binary64 numbers let a finite number above zero pass
(`Renko.validBrickSize_iff`) and a finite one that is zero or above (`Renko.validSlippage_iff`).
-/

namespace Unpacked

open Float.Model Float.Model.UnpackedFloat

/-- So they are where they may be equal. -/
theorem le_iff (first second : Float) :
    first ≤ second ↔ (ofFloat first).le (ofFloat second) = true := by
  change decide _ = true ↔ _
  exact decide_eq_true_iff

/-- A finite number that is not below zero is zero or above. -/
theorem not_neg_iff {number : Float} (finite : number.isFinite = true) :
    ¬number < 0 ↔ 0 ≤ number := by
  have zero : ofFloat 0 = .zero .positive := rfl
  change (ofFloat number).isFinite = true at finite
  rw [lt_iff, le_iff, zero]
  cases taken : ofFloat number with
  | notANumber => rw [taken] at finite; cases finite
  | infinity sign => rw [taken] at finite; cases finite
  | zero sign => exact iff_of_true Bool.false_ne_true rfl
  | finite sign mantissa exponent positive =>
      cases sign with
      | positive => exact iff_of_true Bool.false_ne_true rfl
      | negative => exact iff_of_false (not_not_intro rfl) Bool.false_ne_true

end Unpacked

section

variable {α : Type} [Scalar α] {size : α}

/-- A valid size passes the check. -/
theorem checkBrickSize_of_valid (valid : validBrickSize size = true) :
    checkBrickSize size = .ok size :=
  if_pos valid

/-- An invalid size is refused by the check. -/
theorem checkBrickSize_of_invalid (invalid : validBrickSize size = false) :
    checkBrickSize size = .error (.invalidBrickSize size) :=
  if_neg (Bool.eq_false_iff.mp invalid)

end

/-- A binary64 size is valid if it is finite and above zero. -/
theorem validBrickSize_iff {size : Float} :
    validBrickSize size = true ↔ size.isFinite = true ∧ 0 < size := by
  rw [validBrickSize, Bool.and_eq_true, decide_eq_true_eq]
  rfl

/-- A binary64 slippage is valid if it is finite and not below zero. -/
theorem validSlippage_iff {slippage : Float} :
    validSlippage slippage = true ↔ slippage.isFinite = true ∧ 0 ≤ slippage := by
  rw [validSlippage, Bool.and_eq_true, Bool.not_eq_true', decide_eq_false_iff_not]
  exact and_congr_right Unpacked.not_neg_iff

/-- A valid rational size is above zero. -/
theorem positive_of_validBrickSize {size : Rat} (valid : validBrickSize size = true) :
    0 < size := by
  rw [validBrickSize, Bool.and_eq_true] at valid
  exact of_decide_eq_true valid.2

end Renko
