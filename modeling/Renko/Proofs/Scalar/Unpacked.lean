import Mathlib
import Renko.Scalar

/-! # Binary64 numbers taken apart

The arithmetic of binary64 numbers is defined on unpacked numbers: signs, mantissas and exponents.
A word is unpacked by its fields (`Renko.Unpacked.unpack_eq_ofFields`), so a number that a word
stands for survives being packed again (`Renko.Unpacked.stored_eq_self`), and packing treats the
sign apart from the rest (`Renko.Unpacked.stored_abs`). Two finite numbers are in the order of the
exact difference of their mantissas at a common exponent (`Renko.Unpacked.lt_finite_iff`).
-/

namespace Renko.Unpacked

open Float.Model Float.Model.UnpackedFloat

/-- Bits that are not all zero stand for a number above zero. -/
theorem toNat_pos_of_ne_zero {w : Nat} {vector : BitVec w} (nonzero : vector ≠ 0#w) :
    0 < vector.toNat :=
  Nat.pos_of_ne_zero fun zero => nonzero (BitVec.eq_of_toNat_eq zero)

/-- What a word with the given fields stands for. -/
def ofFields (sign : Sign) (exponent : BitVec 11) (mantissa : BitVec 52) : UnpackedFloat :=
  if exponent = -1#11 then if mantissa = 0#52 then .infinity sign else .notANumber
  else if exponent = 0#11 then
    if nonzero : mantissa = 0#52 then .zero sign
    else .finite sign mantissa.toNat (-1074) (toNat_pos_of_ne_zero nonzero)
  else .finite sign (2 ^ 52 + mantissa.toNat) (exponent.toNat - 1075) (by positivity)

private theorem ofBitVec_toBitVec (sign : Sign) : Sign.ofBitVec sign.toBitVec = sign := by
  cases sign <;> rfl

private theorem toNat_leading_append (mantissa : BitVec 52) :
    (1#1 ++ mantissa).toNat = 2 ^ 52 + mantissa.toNat := by
  rw [BitVec.toNat_append, ← Nat.shiftLeft_add_eq_or_of_lt mantissa.isLt]
  simp [Nat.shiftLeft_eq]

/-- A word stands for what its fields say. -/
theorem unpack_eq_ofFields (word : BitVec 64) :
    UnpackedFloat.unpack .binary64 word =
      ofFields (.ofBitVec (@unpackSign .binary64 word))
        (@unpackExponent .binary64 word) (@unpackMantissa .binary64 word) := by
  have bias : (Format.binary64.exponentBias : Int) = 1023 := rfl
  unfold UnpackedFloat.unpack ofFields
  by_cases full : @unpackExponent .binary64 word = -1#11
  · simp only [full, ↓reduceIte]
  · by_cases empty : @unpackExponent .binary64 word = 0#11
    · by_cases zero : @unpackMantissa .binary64 word = 0#52
      · simp only [empty, zero, ↓reduceIte, ↓reduceDIte]
      · simp only [empty, zero, ↓reduceIte, ↓reduceDIte, bias]
        rfl
    · simp only [full, empty, ↓reduceIte, bias, toNat_leading_append]
      rfl

private theorem unpackSign_packComponents {spec : Format} (sign : Sign)
    (exponent : BitVec spec.exponentBits) (mantissa : BitVec spec.mantissaBitsWithoutImplicit) :
    unpackSign (packComponents spec sign exponent mantissa) = sign.toBitVec := by
  ext place single
  obtain rfl : place = 0 := by omega
  simp [unpackSign, packComponents, BitVec.getLsbD_append, BitVec.getElem_append]

/-- Fields that are packed are unpacked as the number that they stand for. -/
theorem unpack_packComponents (sign : Sign) (exponent : BitVec 11) (mantissa : BitVec 52) :
    UnpackedFloat.unpack .binary64 (packComponents .binary64 sign exponent mantissa) =
      ofFields sign exponent mantissa := by
  rw [unpack_eq_ofFields, unpackExponent_packComponents, unpackMantissa_packComponents,
    unpackSign_packComponents, ofBitVec_toBitVec]

private theorem unpack_packComponents_positive (sign : Sign) (exponent : BitVec 11)
    (mantissa : BitVec 52) :
    UnpackedFloat.unpack .binary64 (packComponents .binary64 .positive exponent mantissa) =
      (UnpackedFloat.unpack .binary64 (packComponents .binary64 sign exponent mantissa)).abs := by
  rw [unpack_packComponents, unpack_packComponents]
  unfold ofFields
  split
  · split <;> rfl
  · split
    · split <;> rfl
    · rfl

/-- What is left of a number once it has been packed into a word. -/
def stored (number : UnpackedFloat) : UnpackedFloat :=
  UnpackedFloat.unpack .binary64 (UnpackedFloat.pack .binary64 number)

/-- Taking the sign away commutes with packing. -/
theorem stored_abs (number : UnpackedFloat) : stored number.abs = (stored number).abs := by
  cases number with
  | notANumber => rfl
  | infinity sign => cases sign <;> rfl
  | zero sign => cases sign <;> rfl
  | finite sign mantissa exponent positive =>
      simp only [stored, UnpackedFloat.abs, UnpackedFloat.pack]
      split
      · exact unpack_packComponents_positive sign _ _
      · split
        · exact unpack_packComponents_positive sign _ _
        · exact unpack_packComponents_positive sign _ _

/-- The unpacked numbers that words stand for. A finite one has a mantissa of 53 bits, unless its
exponent is the smallest. -/
def Representable : UnpackedFloat → Prop
  | .finite _ mantissa exponent _ =>
    mantissa < 2 ^ 53 ∧ -1074 ≤ exponent ∧ exponent ≤ 971 ∧
      (exponent = -1074 ∨ 2 ^ 52 ≤ mantissa)
  | _ => True

/-- What fields stand for fits the format. -/
theorem representable_ofFields (sign : Sign) (exponent : BitVec 11) (mantissa : BitVec 52) :
    Representable (ofFields sign exponent mantissa) := by
  have exponentBound : exponent.toNat < 2048 := exponent.isLt
  have mantissaBound : mantissa.toNat < 2 ^ 52 := mantissa.isLt
  unfold ofFields
  split
  · split <;> trivial
  · rename_i bounded
    split
    · split
      · trivial
      · exact ⟨by omega, by omega, by omega, Or.inl rfl⟩
    · rename_i nonzero
      have below : exponent.toNat ≠ 2047 := fun same => bounded (BitVec.eq_of_toNat_eq same)
      have above : 0 < exponent.toNat := toNat_pos_of_ne_zero nonzero
      exact ⟨by omega, by omega, by omega, Or.inr (by omega)⟩

/-- What is unpacked fits the format. -/
theorem representable_unpack (word : BitVec 64) :
    Representable (UnpackedFloat.unpack .binary64 word) := by
  rw [unpack_eq_ofFields]
  exact representable_ofFields _ _ _

/-- A number that fits the format does so without its sign. -/
theorem Representable.abs {number : UnpackedFloat} (representable : Representable number) :
    Representable number.abs := by
  cases number <;> exact representable

private theorem ofFields_normal (sign : Sign) {mantissa : Nat} {exponent : Int}
    (positive : 0 < mantissa) (full : 2 ^ 52 ≤ mantissa) (narrow : mantissa < 2 ^ 53)
    (lower : -1074 ≤ exponent) (upper : exponent ≤ 971) :
    ofFields sign (BitVec.ofNat 11 (exponent + 1075).toNat) (BitVec.ofNat 52 mantissa) =
      .finite sign mantissa exponent positive := by
  have field : (BitVec.ofNat 11 (exponent + 1075).toNat).toNat = (exponent + 1075).toNat := by
    rw [BitVec.toNat_ofNat]
    omega
  have fraction : (BitVec.ofNat 52 mantissa).toNat = mantissa - 2 ^ 52 := by
    rw [BitVec.toNat_ofNat]
    omega
  have bounded : BitVec.ofNat 11 (exponent + 1075).toNat ≠ -1#11 := by
    intro same
    have top : (-1#11).toNat = 2047 := rfl
    rw [same, top] at field
    omega
  have nonzero : BitVec.ofNat 11 (exponent + 1075).toNat ≠ 0#11 := by
    intro same
    have bottom : (0#11).toNat = 0 := rfl
    rw [same, bottom] at field
    omega
  unfold ofFields
  rw [if_neg bounded, if_neg nonzero]
  simp only [UnpackedFloat.finite.injEq, true_and]
  omega

private theorem ofFields_subnormal (sign : Sign) {mantissa : Nat} (positive : 0 < mantissa)
    (small : mantissa < 2 ^ 52) :
    ofFields sign 0#11 (BitVec.ofNat 52 mantissa) = .finite sign mantissa (-1074) positive := by
  have fraction : (BitVec.ofNat 52 mantissa).toNat = mantissa := by
    rw [BitVec.toNat_ofNat]
    omega
  have nonzero : BitVec.ofNat 52 mantissa ≠ 0#52 := by
    intro same
    have bottom : (0#52).toNat = 0 := rfl
    rw [same, bottom] at fraction
    omega
  unfold ofFields
  rw [if_neg (by decide), if_pos rfl, dif_neg nonzero]
  simp only [UnpackedFloat.finite.injEq, true_and, and_true]
  exact fraction

/-- A number that a word stands for survives being packed. -/
theorem stored_eq_self {number : UnpackedFloat} (representable : Representable number) :
    stored number = number := by
  cases number with
  | notANumber => rfl
  | infinity sign => cases sign <;> rfl
  | zero sign => cases sign <;> rfl
  | finite sign mantissa exponent positive =>
      obtain ⟨narrow, lower, upper, normal⟩ := representable
      have bias : (exponent + Format.binary64.exponentBias +
          Format.binary64.mantissaBitsWithoutImplicit).toNat = (exponent + 1075).toNat := by
        change (exponent + 1023 + 52).toNat = _
        omega
      have width : Format.binary64.mantissaBits = 53 := rfl
      simp only [stored, UnpackedFloat.pack, bias, width]
      rw [if_neg (by change ¬ 2048 ≤ _; omega)]
      by_cases full : 2 ^ 52 ≤ mantissa
      · have length : mantissa.log2 = 52 := (Nat.log2_eq_iff positive.ne').mpr ⟨full, narrow⟩
        rw [if_pos (by rw [length]), unpack_packComponents]
        exact ofFields_normal sign positive full narrow lower upper
      · have length : mantissa.log2 < 52 := (Nat.log2_lt positive.ne').mpr (by omega)
        obtain rfl : exponent = -1074 := normal.resolve_right full
        rw [if_neg (by omega), unpack_packComponents]
        exact ofFields_subnormal sign positive (by omega)

/-- Mantissas brought to a common exponent are in the order of the exponents, and of the mantissas
where the exponents are the same. -/
private theorem shifted_lt_iff {first second : Nat} {firstExponent secondExponent : Int}
    (firstNarrow : first < 2 ^ 53) (secondNarrow : second < 2 ^ 53)
    (firstNormal : firstExponent = -1074 ∨ 2 ^ 52 ≤ first)
    (secondNormal : secondExponent = -1074 ∨ 2 ^ 52 ≤ second)
    (firstLower : -1074 ≤ firstExponent) (secondLower : -1074 ≤ secondExponent) :
    first <<< (firstExponent - min firstExponent secondExponent).toNat <
        second <<< (secondExponent - min firstExponent secondExponent).toNat ↔
      firstExponent < secondExponent ∨ firstExponent = secondExponent ∧ first < second := by
  rw [Nat.shiftLeft_eq, Nat.shiftLeft_eq]
  have doubled (shift : Nat) (positive : 0 < shift) : 2 ≤ 2 ^ shift :=
    Nat.le_self_pow positive.ne' 2
  rcases lt_trichotomy firstExponent secondExponent with less | same | greater
  · -- a larger exponent leaves room for at least one more bit than any mantissa has
    have rise := doubled (secondExponent - firstExponent).toNat (by omega)
    rw [min_eq_left less.le, Int.sub_self, Int.toNat_zero, Nat.pow_zero, Nat.mul_one]
    have wide : 2 ^ 52 ≤ second := secondNormal.resolve_left (by omega)
    have product := Nat.mul_le_mul wide rise
    exact ⟨fun _ => Or.inl less, fun _ => by omega⟩
  · subst same
    simp only [min_self, Int.sub_self, Int.toNat_zero, Nat.pow_zero, Nat.mul_one, lt_irrefl,
      false_or, true_and]
  · have rise := doubled (firstExponent - secondExponent).toNat (by omega)
    rw [min_eq_right greater.le, Int.sub_self, Int.toNat_zero, Nat.pow_zero, Nat.mul_one]
    have wide : 2 ^ 52 ≤ first := firstNormal.resolve_left (by omega)
    have product := Nat.mul_le_mul wide rise
    exact ⟨fun below => by omega, fun order => by omega⟩

/-- Which of two finite numbers is the smaller one is read off their exact difference. -/
theorem lt_finite_iff {firstSign secondSign : Sign} {first second : Nat}
    {firstExponent secondExponent : Int} {firstPositive : 0 < first} {secondPositive : 0 < second}
    (firstFits : Representable (.finite firstSign first firstExponent firstPositive))
    (secondFits : Representable (.finite secondSign second secondExponent secondPositive)) :
    UnpackedFloat.lt (.finite firstSign first firstExponent firstPositive)
        (.finite secondSign second secondExponent secondPositive) = true ↔
      0 < secondSign.apply
            (second <<< (secondExponent - min secondExponent firstExponent).toNat : Nat) -
          firstSign.apply
            (first <<< (firstExponent - min secondExponent firstExponent).toNat : Nat) := by
  obtain ⟨firstNarrow, firstLower, -, firstNormal⟩ := firstFits
  obtain ⟨secondNarrow, secondLower, -, secondNormal⟩ := secondFits
  have rising := shifted_lt_iff firstNarrow secondNarrow firstNormal secondNormal firstLower
    secondLower
  have falling := shifted_lt_iff secondNarrow firstNarrow secondNormal firstNormal secondLower
    firstLower
  rw [min_comm] at rising
  have secondShifted :
      0 < second <<< (secondExponent - min secondExponent firstExponent).toNat := by
    rw [Nat.shiftLeft_eq]
    positivity
  have firstShifted : 0 < first <<< (firstExponent - min secondExponent firstExponent).toNat := by
    rw [Nat.shiftLeft_eq]
    positivity
  cases firstSign <;> cases secondSign
  · have order : UnpackedFloat.lt (.finite .negative first firstExponent firstPositive)
        (.finite .negative second secondExponent secondPositive) = true ↔
          secondExponent < firstExponent ∨ secondExponent = firstExponent ∧ second < first := by
      simp only [UnpackedFloat.lt, UnpackedFloat.compare, beq_iff_eq, Option.some.injEq,
        Ordering.swap_eq_lt, Ordering.then_eq_gt, compare_gt_iff_gt, compare_eq_iff_eq,
        @eq_comm _ secondExponent]
    rw [order, ← falling]
    simp only [Sign.apply]
    omega
  · simp only [UnpackedFloat.lt, UnpackedFloat.compare, Sign.apply]
    exact iff_of_true rfl (by omega)
  · simp only [UnpackedFloat.lt, UnpackedFloat.compare, Sign.apply]
    exact iff_of_false (by decide) (by omega)
  · have order : UnpackedFloat.lt (.finite .positive first firstExponent firstPositive)
        (.finite .positive second secondExponent secondPositive) = true ↔
          firstExponent < secondExponent ∨ firstExponent = secondExponent ∧ first < second := by
      simp only [UnpackedFloat.lt, UnpackedFloat.compare, beq_iff_eq, Option.some.injEq,
        Ordering.then_eq_lt, compare_lt_iff_lt, compare_eq_iff_eq]
    rw [order, ← rising]
    simp only [Sign.apply]
    omega

end Renko.Unpacked
