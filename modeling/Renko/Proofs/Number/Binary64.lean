import Mathlib
import Renko.Number.Binary64
import Renko.Proofs.Scalar.Unpacked

/-! # Binary64 numbers and their bits

The bits of a binary64 number are those of its mantissa and exponent
(`Renko.Binary64.signed_of_finite`). The number nearest to a quotient is the one whose mantissa is
at most a half away on the grid that the quotient calls for (`Renko.Binary64.nearest_of_grid`),
however the quotient is written (`Renko.Binary64.nearest_congr`).
-/

namespace Renko

namespace Unpacked

open Float.Model Float.Model.UnpackedFloat

private theorem toNat_unpackMantissa (word : BitVec 64) :
    (@unpackMantissa .binary64 word).toNat = word.toNat % 2 ^ 52 := by
  change (word.toNat >>> 0) % 2 ^ 52 = _
  rw [Nat.shiftRight_zero]

private theorem toNat_unpackExponent (word : BitVec 64) :
    (@unpackExponent .binary64 word).toNat = word.toNat / 2 ^ 52 % 2 ^ 11 := by
  change (word.toNat >>> 52) % 2 ^ 11 = _
  rw [Nat.shiftRight_eq_div_pow]

private theorem toNat_unpackSign (word : BitVec 64) :
    (@unpackSign .binary64 word).toNat = word.toNat / 2 ^ 63 := by
  change (word.toNat >>> 63) % 2 ^ 1 = _
  rw [Nat.shiftRight_eq_div_pow]
  omega

/-- A word is made of its fields. -/
theorem packComponents_unpack (word : BitVec 64) :
    packComponents .binary64 (.ofBitVec (@unpackSign .binary64 word))
      (@unpackExponent .binary64 word) (@unpackMantissa .binary64 word) = word := by
  have sign (field : BitVec 1) : (Sign.ofBitVec field).toBitVec = field := by
    revert field
    decide
  have bound : word.toNat < 2 ^ 64 := word.isLt
  refine BitVec.eq_of_toNat_eq ?_
  rw [packComponents, sign, BitVec.toNat_append, ← Nat.shiftLeft_add_eq_or_of_lt (BitVec.isLt _),
    BitVec.toNat_append, ← Nat.shiftLeft_add_eq_or_of_lt (BitVec.isLt _), Nat.shiftLeft_eq,
    Nat.shiftLeft_eq, toNat_unpackSign, toNat_unpackExponent, toNat_unpackMantissa]
  change (word.toNat / 2 ^ 63 * 2 ^ 11 + word.toNat / 2 ^ 52 % 2 ^ 11) * 2 ^ 52 +
    word.toNat % 2 ^ 52 = _
  omega

/-- Packing undoes the reading of fields, except that it keeps one undefined number only. -/
theorem pack_ofFields (sign : Sign) (exponent : BitVec 11) (mantissa : BitVec 52)
    (defined : ofFields sign exponent mantissa ≠ .notANumber) :
    UnpackedFloat.pack .binary64 (ofFields sign exponent mantissa) =
      packComponents .binary64 sign exponent mantissa := by
  have mantissaBound : mantissa.toNat < 2 ^ 52 := mantissa.isLt
  have width : Format.binary64.mantissaBits = 53 := rfl
  revert defined
  unfold ofFields
  by_cases full : exponent = -1#11
  · rw [if_pos full]
    by_cases zero : mantissa = 0#52
    · rw [if_pos zero, full, zero]
      exact fun _ => rfl
    · rw [if_neg zero]
      exact fun defined => absurd rfl defined
  · rw [if_neg full]
    intro _
    by_cases empty : exponent = 0#11
    · rw [if_pos empty]
      by_cases zero : mantissa = 0#52
      · rw [dif_pos zero, empty, zero]
        rfl
      · have length : mantissa.toNat.log2 < 52 :=
          (Nat.log2_lt (toNat_pos_of_ne_zero zero).ne').mpr mantissaBound
        rw [dif_neg zero, empty]
        simp only [UnpackedFloat.pack, width]
        rw [if_neg (by decide), if_neg (by omega), BitVec.ofNat_toNat, BitVec.setWidth_eq]
    · have bounded : exponent.toNat ≠ 2047 := fun same => full (BitVec.eq_of_toNat_eq same)
      have exponentBound : exponent.toNat < 2048 := exponent.isLt
      have length : (2 ^ 52 + mantissa.toNat).log2 = 52 :=
        (Nat.log2_eq_iff (by omega)).mpr ⟨by omega, by omega⟩
      have bias : ((exponent.toNat : Int) - 1075 + Format.binary64.exponentBias +
          Format.binary64.mantissaBitsWithoutImplicit).toNat = exponent.toNat := by
        change ((exponent.toNat : Int) - 1075 + 1023 + 52).toNat = _
        omega
      have fraction : BitVec.ofNat 52 (2 ^ 52 + mantissa.toNat) = mantissa := by
        refine BitVec.eq_of_toNat_eq ?_
        rw [BitVec.toNat_ofNat]
        omega
      rw [if_neg empty]
      simp only [UnpackedFloat.pack, width, bias, length]
      rw [if_neg (by change ¬ 2048 ≤ _; omega), if_pos trivial, BitVec.ofNat_toNat,
        BitVec.setWidth_eq]
      exact congrArg _ fraction

private theorem ofFields_eq_notANumber_iff {sign : Sign} {exponent : BitVec 11}
    {mantissa : BitVec 52} :
    ofFields sign exponent mantissa = .notANumber ↔ exponent = -1#11 ∧ mantissa ≠ 0#52 := by
  unfold ofFields
  by_cases full : exponent = -1#11
  · rw [if_pos full, and_iff_right full]
    by_cases zero : mantissa = 0#52
    · rw [if_pos zero]
      exact iff_of_false (fun same => nomatch same) fun nonzero => nonzero zero
    · rw [if_neg zero]
      exact iff_of_true rfl zero
  · rw [if_neg full]
    refine iff_of_false ?_ fun both => full both.1
    split
    · split <;> exact fun same => nomatch same
    · exact fun same => nomatch same

/-- A valid word is what its reading is packed into. -/
theorem pack_unpack {word : BitVec 64} (valid : Format.binary64.Valid word) :
    UnpackedFloat.pack .binary64 (UnpackedFloat.unpack .binary64 word) = word := by
  by_cases undefined : UnpackedFloat.unpack .binary64 word = .notANumber
  · rw [undefined]
    rw [unpack_eq_ofFields, ofFields_eq_notANumber_iff] at undefined
    exact (valid.eq_packedNaN undefined.1 undefined.2).symm
  · rw [unpack_eq_ofFields] at undefined ⊢
    rw [pack_ofFields _ _ _ undefined, packComponents_unpack]

end Unpacked

/-- Powers of a base above zero are above zero. -/
theorem power_pos {base : Nat} (positive : 0 < base) (exponent : Int) : 0 < power base exponent :=
  Nat.pow_pos positive

/-- The two powers of an exponent make up the power with its sign. -/
theorem power_div_power {base : Nat} (positive : 0 < base) (exponent : Int) :
    (power base exponent : ℚ) / power base (-exponent) = (base : ℚ) ^ exponent := by
  have nonzero : (base : ℚ) ≠ 0 := Nat.cast_ne_zero.mpr positive.ne'
  have split : exponent = (exponent.toNat : Int) - ((-exponent).toNat : Int) := by omega
  conv_rhs => rw [split, zpow_sub₀ nonzero, zpow_natCast, zpow_natCast]
  simp only [power, Nat.pow_eq, Nat.cast_pow]

/-- A quotient reaches a power if its numerator, scaled, reaches its denominator, scaled. -/
theorem zpow_le_div_iff {base num den : Nat} (basePositive : 0 < base) (positive : 0 < den)
    (exponent : Int) : (base : ℚ) ^ exponent ≤ (num : ℚ) / den ↔
      den * power base exponent ≤ num * power base (-exponent) := by
  rw [← power_div_power basePositive, div_le_div_iff₀ (Nat.cast_pos.mpr (power_pos basePositive _))
    (Nat.cast_pos.mpr positive), mul_comm]
  exact_mod_cast Iff.rfl

/-- Rounding looks at the quotient only. -/
theorem Tie.round_mul_right (tie : Tie) (num den : Nat) {factor : Nat} (positive : 0 < factor) :
    tie.round (num * factor) (den * factor) = tie.round num den := by
  unfold Tie.round
  simp only [Nat.mul_div_mul_right _ _ positive, Nat.mul_mod_mul_right, ← Nat.mul_assoc,
    Nat.mul_lt_mul_right positive]

private theorem Tie.round_congr (tie : Tie) {num den otherNum otherDen : Nat} (positive : 0 < den)
    (otherPositive : 0 < otherDen) (same : num * otherDen = otherNum * den) :
    tie.round num den = tie.round otherNum otherDen := by
  rw [← tie.round_mul_right num den otherPositive, same, Nat.mul_comm den otherDen,
    tie.round_mul_right otherNum otherDen positive]

/-- Rounding leaves two whole numbers to choose from. -/
theorem Tie.round_eq_or (tie : Tie) (num den : Nat) :
    tie.round num den = num / den ∨ tie.round num den = num / den + 1 := by
  unfold Tie.round
  dsimp only
  have odd : num / den % 2 < 2 := Nat.mod_lt _ Nat.two_pos
  split
  · exact .inl rfl
  · split
    · exact .inr rfl
    · cases tie <;> dsimp only <;> omega

/-- A quotient that is at most a half away from a whole number rounds to it, should the number be
even, and one that is closer does in any case. -/
theorem Tie.toEven_round_eq {num den whole : Nat} (positive : 0 < den)
    (near : |(num : ℚ) / den - whole| ≤ 1 / 2)
    (odd : whole % 2 = 1 → |(num : ℚ) / den - whole| < 1 / 2) :
    Tie.toEven.round num den = whole := by
  have denCast : (0 : ℚ) < den := Nat.cast_pos.mpr positive
  have distance : |(num : ℚ) / den - whole| = |(num : ℚ) - whole * den| / den := by
    rw [div_sub' denCast.ne', abs_div, abs_of_pos denCast, mul_comm (whole : ℚ)]
  rw [distance, div_le_div_iff₀ denCast two_pos] at near
  rw [distance, div_lt_div_iff₀ denCast two_pos] at odd
  have near : |(num : ℤ) - whole * den| * 2 ≤ 1 * den := by exact_mod_cast near
  have odd : whole % 2 = 1 → |(num : ℤ) - whole * den| * 2 < 1 * den := fun is => by
    exact_mod_cast odd is
  -- how far the quotient, rounded down, is from the whole number
  obtain ⟨steps, down⟩ : ∃ steps : ℤ, (num / den : ℕ) = whole + steps :=
    ⟨(num / den : ℕ) - whole, by ring⟩
  have split : (num : ℤ) - whole * den = steps * den + (num % den : ℕ) := by
    have divided : ((den * (num / den) + num % den : ℕ) : ℤ) = num :=
      congrArg Nat.cast (Nat.div_add_mod num den)
    rw [Nat.cast_add, Nat.cast_mul, down] at divided
    rw [← divided]
    ring
  have less : num % den < den := Nat.mod_lt num positive
  rw [split] at near odd
  unfold Tie.round
  dsimp only
  have notAbove : steps < 1 := by
    by_contra above
    have : den ≤ steps * den := le_mul_of_one_le_left (by omega) (not_lt.mp above)
    have := (le_abs_self _).trans (Int.le_ediv_of_mul_le two_pos near)
    omega
  have notBelow : -2 < steps := by
    by_contra below
    have : steps * den ≤ -2 * den := mul_le_mul_of_nonneg_right (not_lt.mp below) (by omega)
    have := (neg_le_abs _).trans (Int.le_ediv_of_mul_le two_pos near)
    omega
  obtain rfl | rfl : steps = 0 ∨ steps = -1 := by omega
  · rw [zero_mul, zero_add, Nat.abs_cast] at near odd
    split_ifs <;> omega
  · rw [abs_of_nonpos (by omega)] at near odd
    split_ifs <;> omega

namespace Binary64

/-- A number lies between the power of two of its length and the next. -/
theorem zpow_log2_le {number : Nat} (positive : 0 < number) :
    (2 : ℚ) ^ (number.log2 : Int) ≤ number ∧ (number : ℚ) < 2 ^ (number.log2 + 1 : Int) := by
  constructor
  · rw [zpow_natCast]
    exact_mod_cast Nat.log2_self_le positive.ne'
  · rw [← Nat.cast_succ, zpow_natCast]
    exact_mod_cast (Nat.lt_log2_self : number < 2 ^ (number.log2 + 1))

/-- The exponent of the power of two below a quotient is its logarithm, rounded down. -/
theorem floorLog_eq_log {num den : Nat} (numPositive : 0 < num) (denPositive : 0 < den) :
    floorLog num den = Int.log 2 ((num : ℚ) / den) := by
  have positive : (0 : ℚ) < (num : ℚ) / den :=
    div_pos (Nat.cast_pos.mpr numPositive) (Nat.cast_pos.mpr denPositive)
  have denCast : (0 : ℚ) < den := Nat.cast_pos.mpr denPositive
  obtain ⟨numLow, numHigh⟩ := zpow_log2_le numPositive
  obtain ⟨denLow, denHigh⟩ := zpow_log2_le denPositive
  have two : (2 : ℚ) ≠ 0 := two_ne_zero
  -- the lengths of the two numbers leave two candidates
  have below : (2 : ℚ) ^ ((num.log2 : Int) - den.log2 - 1) ≤ (num : ℚ) / den := by
    rw [le_div_iff₀ denCast]
    calc (2 : ℚ) ^ ((num.log2 : Int) - den.log2 - 1) * den
        ≤ 2 ^ ((num.log2 : Int) - den.log2 - 1) * 2 ^ (den.log2 + 1 : Int) :=
          mul_le_mul_of_nonneg_left denHigh.le (zpow_nonneg (by norm_num) _)
      _ = 2 ^ (num.log2 : Int) := by rw [← zpow_add₀ two]; congr 1; omega
      _ ≤ num := numLow
  have above : (num : ℚ) / den < 2 ^ ((num.log2 : Int) - den.log2 + 1) := by
    rw [div_lt_iff₀ denCast]
    calc (num : ℚ) < 2 ^ (num.log2 + 1 : Int) := numHigh
      _ = 2 ^ ((num.log2 : Int) - den.log2 + 1) * 2 ^ (den.log2 : Int) := by
          rw [← zpow_add₀ two]; congr 1; omega
      _ ≤ 2 ^ ((num.log2 : Int) - den.log2 + 1) * den :=
          mul_le_mul_of_nonneg_left denLow (zpow_nonneg (by norm_num) _)
  have atLeast := (Int.zpow_le_iff_le_log Nat.one_lt_two positive).mp below
  have less := (Int.lt_zpow_iff_log_lt Nat.one_lt_two positive).mp above
  unfold floorLog
  by_cases reached : den * power 2 ((num.log2 : Int) - den.log2) ≤
      num * power 2 (-((num.log2 : Int) - den.log2))
  · have exact := (Int.zpow_le_iff_le_log Nat.one_lt_two positive).mp
      ((zpow_le_div_iff Nat.two_pos denPositive _).mpr reached)
    simp only [if_pos reached]
    omega
  · have short := (Int.lt_zpow_iff_log_lt Nat.one_lt_two positive).mp
      (not_le.mp (mt (zpow_le_div_iff Nat.two_pos denPositive _).mp reached))
    simp only [if_neg reached]
    omega

/-- The nearest number depends on the quotient only. -/
theorem nearest_congr {num den otherNum otherDen : Nat} (positive : 0 < den)
    (otherPositive : 0 < otherDen) (same : num * otherDen = otherNum * den) :
    nearest num den = nearest otherNum otherDen := by
  unfold nearest
  have zero : num = 0 ↔ otherNum = 0 := by
    constructor
    · rintro rfl
      rw [Nat.zero_mul] at same
      exact (Nat.mul_eq_zero.mp same.symm).resolve_right positive.ne'
    · rintro rfl
      rw [Nat.zero_mul] at same
      exact (Nat.mul_eq_zero.mp same).resolve_right otherPositive.ne'
  by_cases nothing : num = 0
  · rw [if_pos nothing, if_pos (zero.mp nothing)]
  · rw [if_neg nothing, if_neg (mt zero.mpr nothing)]
    have quotient : (num : ℚ) / den = (otherNum : ℚ) / otherDen := by
      rw [div_eq_div_iff (Nat.cast_ne_zero.mpr positive.ne')
        (Nat.cast_ne_zero.mpr otherPositive.ne')]
      exact_mod_cast same
    have log : floorLog num den = floorLog otherNum otherDen := by
      rw [floorLog_eq_log (Nat.pos_of_ne_zero nothing) positive,
        floorLog_eq_log (Nat.pos_of_ne_zero (mt zero.mpr nothing)) otherPositive, quotient]
    simp only [log]
    have scaled (exponent : Int) :
        Tie.toEven.round (num * power 2 (-exponent)) (den * power 2 exponent) =
          Tie.toEven.round (otherNum * power 2 (-exponent)) (otherDen * power 2 exponent) := by
      refine Tie.toEven.round_congr (Nat.mul_pos positive (power_pos Nat.two_pos _))
        (Nat.mul_pos otherPositive (power_pos Nat.two_pos _)) ?_
      rw [Nat.mul_mul_mul_comm, same, Nat.mul_mul_mul_comm]
    rw [scaled]

/-- The mantissas and exponents of finite numbers: 53 bits, unless the exponent is the smallest. -/
structure Normalized (mantissa : Nat) (exponent : Int) : Prop where
  short : mantissa < 2 * leadingBit
  low : minExponent ≤ exponent
  high : exponent ≤ 971
  leading : exponent = minExponent ∨ leadingBit ≤ mantissa

/-- A number below so many bits, in units of an exponent, has its logarithm below them. -/
theorem log_lt_of_bound {number : ℚ} {exponent : Int} {length : Nat} (positive : 0 < number)
    (high : number / 2 ^ exponent < 2 ^ length) : Int.log 2 number < length + exponent := by
  rw [div_lt_iff₀ (zpow_pos two_pos exponent), ← zpow_natCast, ← zpow_add₀ two_ne_zero] at high
  exact (Int.lt_zpow_iff_log_lt Nat.one_lt_two positive).mp (by exact_mod_cast high)

/-- A number of so many bits, in units of an exponent, has its logarithm above them. -/
theorem le_log_of_bound {number : ℚ} {exponent : Int} {length : Nat} (positive : 0 < number)
    (low : 2 ^ length ≤ number / 2 ^ exponent) : length + exponent ≤ Int.log 2 number := by
  rw [le_div_iff₀ (zpow_pos two_pos exponent), ← zpow_natCast, ← zpow_add₀ two_ne_zero] at low
  exact (Int.zpow_le_iff_le_log Nat.one_lt_two positive).mp (by exact_mod_cast low)

/-- On the grid that a quotient calls for, the number nearest to it is any mantissa that is at most
a half away, should it be even, and any that is closer. -/
theorem nearest_of_grid {num den mantissa : Nat} {exponent : Int} (numPositive : 0 < num)
    (denPositive : 0 < den) (grid : max (Int.log 2 ((num : ℚ) / den) - 52) minExponent = exponent)
    (near : |(num : ℚ) / den / 2 ^ exponent - mantissa| ≤ 1 / 2)
    (odd : mantissa % 2 = 1 → |(num : ℚ) / den / 2 ^ exponent - mantissa| < 1 / 2) :
    nearest num den = min (bits mantissa exponent) infinityBits := by
  have scale := @power_pos 2 Nat.two_pos exponent
  have unscale := @power_pos 2 Nat.two_pos (-exponent)
  have scaled : (num : ℚ) / den / 2 ^ exponent =
      (num * power 2 (-exponent) : Nat) / (den * power 2 exponent : Nat) := by
    have split := @power_div_power 2 Nat.two_pos exponent
    rw [Nat.cast_ofNat] at split
    rw [← split, div_div, mul_div_assoc', Nat.cast_mul, Nat.cast_mul, div_div_eq_mul_div]
  rw [scaled] at near odd
  unfold nearest
  rw [if_neg numPositive.ne', floorLog_eq_log numPositive denPositive]
  simp only [grid]
  rw [Tie.toEven_round_eq (Nat.mul_pos denPositive scale) near odd]

/-! ### Words -/

open Float.Model (UnpackedFloat)
open Float.Model.UnpackedFloat (packedNaN)

/-- Two numbers of the same word are the same. -/
theorem eq_of_toBits_eq {first second : Float} (same : first.toBits = second.toBits) :
    first = second := by
  obtain ⟨⟨firstBits, firstValid⟩⟩ := first
  obtain ⟨⟨secondBits, secondValid⟩⟩ := second
  obtain rfl : firstBits = secondBits := same
  rfl

/-- A number is made again of its bits. -/
theorem ofBits_toBits (x : Float) : Float.ofBits x.toBits = x := by
  refine eq_of_toBits_eq ?_
  change UInt64.ofBitVec (UnpackedFloat.pack .binary64 (.unpack .binary64 x.toBits.toBitVec)) = _
  exact congrArg UInt64.ofBitVec (Unpacked.pack_unpack x.toModel.valid)

/-- There is one undefined number only. -/
theorem eq_undefined {x : Float} (undefined : ofFloat x = .undefined) : x = 0 / 0 := by
  have word : x.toBits.toBitVec = packedNaN .binary64 := by
    simp only [ofFloat] at undefined
    split at undefined
    · rename_i full
      split at undefined
      · cases undefined
      · rename_i fraction
        refine x.toModel.valid.eq_packedNaN (BitVec.eq_of_toNat_eq ?_) fun zero => fraction ?_
        · exact (Unpacked.toNat_unpackExponent _).trans full
        · exact (Unpacked.toNat_unpackMantissa _).symm.trans (congrArg BitVec.toNat zero)
    · split at undefined <;> cases undefined
  refine eq_of_toBits_eq (UInt64.toBitVec_inj.mp (word.trans ?_))
  decide +kernel

private theorem signed_eq {x : Float} {bits : Nat} {negative : Bool}
    (sign : negative = decide (signBit ≤ x.toBits.toNat)) (rest : bits = x.toBits.toNat % signBit) :
    signed negative bits = x := by
  have bound : x.toBits.toNat < 2 * signBit := x.toBits.toNat_lt
  have word : (if negative then signBit + bits else bits) = x.toBits.toNat := by
    simp only [sign, rest, decide_eq_true_eq]
    split
    · rename_i above
      rw [Nat.mod_eq_sub_mod above, Nat.mod_eq_of_lt (by omega), Nat.add_sub_cancel' above]
    · rename_i below
      exact Nat.mod_eq_of_lt (not_le.mp below)
  rw [signed, word, UInt64.ofNat_toNat, ofBits_toBits]

/-- An infinite number is the one of its sign. -/
theorem signed_of_infinite {x : Float} {negative : Bool}
    (infinite : ofFloat x = .infinite negative) : signed negative infinityBits = x := by
  simp only [ofFloat] at infinite
  split at infinite
  · rename_i full
    split at infinite
    · rename_i fraction
      refine signed_eq (Binary64.infinite.inj infinite).symm ?_
      simp only [leadingBit, infinityBits, signBit] at *
      omega
    · cases infinite
  · split at infinite <;> cases infinite

/-- The bits of a finite number are those of its mantissa and exponent. -/
theorem signed_of_finite {x : Float} {negative : Bool} {mantissa : Nat} {exponent : Int}
    (finite : ofFloat x = .finite negative mantissa exponent) :
    signed negative (bits mantissa exponent) = x := by
  simp only [ofFloat] at finite
  split at finite
  · split at finite <;> cases finite
  · split at finite
    · rename_i empty
      obtain ⟨rfl, rfl, rfl⟩ := Binary64.finite.inj finite
      refine signed_eq rfl ?_
      simp only [bits, leadingBit, signBit] at *
      omega
    · obtain ⟨rfl, rfl, rfl⟩ := Binary64.finite.inj finite
      refine signed_eq rfl ?_
      simp only [bits, leadingBit, signBit] at *
      omega

/-- What is read off the bits of a finite number is normalized. -/
theorem normalized_of_finite {x : Float} {negative : Bool} {mantissa : Nat} {exponent : Int}
    (finite : ofFloat x = .finite negative mantissa exponent) : Normalized mantissa exponent := by
  simp only [ofFloat] at finite
  split at finite
  · split at finite <;> cases finite
  · split at finite
    · obtain ⟨rfl, rfl, rfl⟩ := Binary64.finite.inj finite
      have fraction : x.toBits.toNat % leadingBit < leadingBit := Nat.mod_lt _ (by decide)
      exact ⟨by omega, le_refl _, by decide, .inl rfl⟩
    · obtain ⟨rfl, rfl, rfl⟩ := Binary64.finite.inj finite
      have fraction : x.toBits.toNat % leadingBit < leadingBit := Nat.mod_lt _ (by decide)
      exact ⟨by omega, by omega, by simp only [minExponent]; omega, .inr (by omega)⟩

end Binary64

end Renko
