import Mathlib
import Renko.Number.Decimal
import Renko.Proofs.Number.Binary64

/-! # Decimals of binary64 numbers

Around every finite number lies a stretch, and whatever lies in it reads as that number
(`Renko.Decimal.Stretch.nearest_of_contains`). Seventeen digits are enough to find a decimal in it
(`Renko.Decimal.exists_shortest?`), so the decimal that a number is written as reads back as that
number, and it is of moderate size (`Renko.Decimal.ofBinary_reads`): none of the short cuts for huge
and tiny decimals apply to it.
-/

namespace Renko.Decimal

open Binary64 (Normalized bits nearest floorLog leadingBit minExponent infinityBits log_lt_of_bound
  le_log_of_bound zpow_log2_le floorLog_eq_log nearest_of_grid)

/-- A decimal that is not zero and whose digits are neither too many nor too far from the point. -/
structure Moderate (decimal : Decimal) : Prop where
  nonzero : decimal.coefficient ≠ 0
  short : decimal.coefficient.log2 < 5000
  low : -400 ≤ decimal.magnitude
  high : decimal.magnitude ≤ 400

/-- No short cut is taken in reading a moderate decimal. -/
theorem nearestBits_of_moderate {decimal : Decimal} (moderate : decimal.Moderate) :
    decimal.nearestBits = nearest (decimal.coefficient * power 10 decimal.exponent)
      (power 10 (-decimal.exponent)) := by
  unfold nearestBits
  rw [if_neg (not_or.mpr ⟨moderate.nonzero, not_lt.mpr moderate.low⟩),
    if_neg (not_lt.mpr moderate.high)]

/-- Decimals of the same value read as the same number. -/
theorem nearestBits_congr {decimal other : Decimal} (moderate : decimal.Moderate)
    (otherModerate : other.Moderate)
    (same : decimal.coefficient * power 10 decimal.exponent * power 10 (-other.exponent) =
      other.coefficient * power 10 other.exponent * power 10 (-decimal.exponent)) :
    decimal.nearestBits = other.nearestBits := by
  rw [nearestBits_of_moderate moderate, nearestBits_of_moderate otherModerate]
  exact Binary64.nearest_congr (power_pos (by decide) _) (power_pos (by decide) _) same

/-- What a decimal stands for. -/
def number (decimal : Decimal) : ℚ := decimal.coefficient * 10 ^ decimal.exponent

/-- Four digits are more than thirteen bits. -/
private theorem two_pow_le_ten_pow (count : Nat) : (2 : ℚ) ^ (13 * (count / 4)) ≤ 10 ^ count := by
  calc (2 : ℚ) ^ (13 * (count / 4)) = (2 ^ 13) ^ (count / 4) := pow_mul _ _ _
    _ ≤ (10 ^ 4) ^ (count / 4) := pow_le_pow_left₀ (by norm_num) (by norm_num) _
    _ = 10 ^ (4 * (count / 4)) := (pow_mul _ _ _).symm
    _ ≤ 10 ^ count := pow_le_pow_right₀ (by norm_num) (Nat.mul_div_le _ _)

/-- Three digits are less than ten bits. -/
private theorem ten_pow_le_two_pow (count : Nat) :
    (10 : ℚ) ^ count ≤ 2 ^ (10 * ((count + 2) / 3)) := by
  calc (10 : ℚ) ^ count ≤ 10 ^ (3 * ((count + 2) / 3)) :=
        pow_le_pow_right₀ (by norm_num) (by omega)
    _ = (10 ^ 3) ^ ((count + 2) / 3) := pow_mul _ _ _
    _ ≤ (2 ^ 10) ^ ((count + 2) / 3) := pow_le_pow_left₀ (by norm_num) (by norm_num) _
    _ = 2 ^ (10 * ((count + 2) / 3)) := (pow_mul _ _ _).symm

/-- A decimal in the range of finite numbers is moderate, unless it is on too fine a grid. -/
theorem moderate_of_bounds {decimal : Decimal} (coarse : -400 ≤ decimal.exponent)
    (low : 1 ≤ decimal.number * 2 ^ 1075) (high : decimal.number < 2 ^ 1024) :
    decimal.Moderate := by
  obtain ⟨coefficient, exponent⟩ := decimal
  have filled : coefficient ≠ 0 := by
    rintro rfl
    norm_num [number] at low
  obtain ⟨least, most⟩ := zpow_log2_le (Nat.pos_of_ne_zero filled)
  rw [zpow_natCast] at least
  rw [← Nat.cast_succ, zpow_natCast] at most
  suffices bounds : coefficient.log2 < 5000 ∧ -400 ≤ magnitude ⟨coefficient, exponent⟩ ∧
      magnitude ⟨coefficient, exponent⟩ ≤ 400 from ⟨filled, bounds.1, bounds.2.1, bounds.2.2⟩
  simp only [magnitude, number] at *
  -- bits of the coefficient are weighed against those that the exponent makes up for
  rcases Int.eq_nat_or_neg exponent with ⟨count, rfl | rfl⟩
  · rw [zpow_natCast] at high
    have more : (2 : ℚ) ^ (coefficient.log2 + 13 * (count / 4)) < 2 ^ 1024 := by
      rw [pow_add]
      exact (mul_le_mul least (two_pow_le_ten_pow count) (by positivity) (by positivity)).trans_lt
        high
    rw [pow_lt_pow_iff_right₀ one_lt_two] at more
    omega
  · have tens : (0 : ℚ) < 10 ^ count := by positivity
    rw [zpow_neg, zpow_natCast, ← div_eq_mul_inv] at low high
    rw [div_lt_iff₀ tens] at high
    rw [div_mul_eq_mul_div, le_div_iff₀ tens, one_mul] at low
    have more : (2 : ℚ) ^ coefficient.log2 < 2 ^ (1024 + 10 * ((count + 2) / 3)) := by
      rw [pow_add]
      exact (least.trans_lt high).trans_le
        (mul_le_mul_of_nonneg_left (ten_pow_le_two_pow count) (by positivity))
    have less : (2 : ℚ) ^ (13 * (count / 4)) < 2 ^ (coefficient.log2 + 1 + 1075) := by
      rw [pow_add _ _ 1075]
      exact ((two_pow_le_ten_pow count).trans low).trans_lt
        (mul_lt_mul_of_pos_right most (by positivity))
    rw [pow_lt_pow_iff_right₀ one_lt_two] at more less
    omega

/-! ### The stretch around a number -/

namespace Stretch

/-- A number lies in a stretch. -/
def Contains (stretch : Stretch) (number : ℚ) : Prop :=
  if stretch.closed then stretch.low ≤ number * stretch.den ∧ number * stretch.den ≤ stretch.high
  else stretch.low < number * stretch.den ∧ number * stretch.den < stretch.high

variable {stretch : Stretch} {tie : Tie}

private theorem contains_of_holds {candidate : Nat} (holds : stretch.holds candidate = true) :
    stretch.Contains candidate := by
  unfold Stretch.holds at holds
  unfold Contains
  dsimp only at holds
  split at holds
  · rw [if_pos ‹_›]
    exact_mod_cast of_decide_eq_true holds
  · rw [if_neg ‹_›]
    exact_mod_cast of_decide_eq_true holds

/-- What lies in a stretch in units of a power of ten lies in it, units apart. -/
theorem contains_of_scale {exponent : Int} {number : ℚ}
    (contains : (stretch.scale exponent).Contains number) :
    stretch.Contains (number * 10 ^ exponent) := by
  have up : (0 : ℚ) < power 10 (-exponent) := Nat.cast_pos.mpr (power_pos (by decide) _)
  have split := @power_div_power 10 (by decide) exponent
  rw [Nat.cast_ofNat] at split
  have same : number * (stretch.den * power 10 exponent) =
      number * 10 ^ exponent * stretch.den * power 10 (-exponent) := by
    rw [← split]
    field_simp
  simp only [Contains, scale, Nat.cast_mul, same] at contains ⊢
  simpa only [mul_le_mul_iff_left₀ up, mul_lt_mul_iff_left₀ up] using contains

/-- How far below a mantissa the stretch around it begins, in units of its exponent. -/
def below (mantissa : Nat) (exponent : Int) : ℚ :=
  if mantissa = leadingBit ∧ minExponent < exponent then 1 / 4 else 1 / 2

section

variable {mantissa : Nat} {exponent : Int}

private theorem den_around_pos : (0 : ℚ) < (around mantissa exponent).den :=
  Nat.cast_pos.mpr (power_pos Nat.two_pos _)

private theorem unit_around :
    (power 2 (exponent - 2) : ℚ) = 2 ^ exponent / 4 * (around mantissa exponent).den := by
  have split := @power_div_power 2 Nat.two_pos (exponent - 2)
  rw [neg_sub, Nat.cast_ofNat, zpow_sub₀ two_ne_zero] at split
  have den : (power 2 (2 - exponent) : ℚ) ≠ 0 := (@den_around_pos mantissa exponent).ne'
  rw [(div_eq_iff den).mp split]
  norm_num [around]

private theorem value_around : ((around mantissa exponent).value : ℚ) =
    mantissa * 2 ^ exponent * (around mantissa exponent).den := by
  change ((4 * mantissa * power 2 (exponent - 2) : Nat) : ℚ) = _
  rw [Nat.cast_mul, @unit_around mantissa]
  push_cast
  ring

private theorem high_around : ((around mantissa exponent).high : ℚ) =
    (mantissa + 1 / 2) * 2 ^ exponent * (around mantissa exponent).den := by
  change (((4 * mantissa + 2) * power 2 (exponent - 2) : Nat) : ℚ) = _
  rw [Nat.cast_mul, @unit_around mantissa]
  push_cast
  ring

private theorem low_around (filled : mantissa ≠ 0) : ((around mantissa exponent).low : ℚ) =
    (mantissa - below mantissa exponent) * 2 ^ exponent * (around mantissa exponent).den := by
  change (((4 * mantissa - if _ then 1 else 2) * power 2 (exponent - 2) : Nat) : ℚ) = _
  rw [Nat.cast_mul, @unit_around mantissa, below]
  split_ifs
  · rw [Nat.cast_sub (by omega)]
    push_cast
    ring
  · rw [Nat.cast_sub (by omega)]
    push_cast
    ring

/-- What lies in the stretch around a mantissa is close to it, in units of its exponent. -/
theorem bounds_of_contains {number : ℚ} (filled : mantissa ≠ 0)
    (contains : (around mantissa exponent).Contains number) :
    mantissa - below mantissa exponent ≤ number / 2 ^ exponent ∧
      number / 2 ^ exponent ≤ mantissa + 1 / 2 ∧
      (mantissa % 2 = 1 → mantissa - below mantissa exponent < number / 2 ^ exponent ∧
        number / 2 ^ exponent < mantissa + 1 / 2) := by
  have unit : (0 : ℚ) < 2 ^ exponent := zpow_pos two_pos _
  have den := @den_around_pos mantissa exponent
  have closed : (around mantissa exponent).closed = (mantissa % 2 == 0) := rfl
  simp only [Contains, low_around filled, high_around, closed, beq_iff_eq,
    mul_le_mul_iff_left₀ den, mul_lt_mul_iff_left₀ den, ← le_div_iff₀ unit, ← div_le_iff₀ unit,
    ← lt_div_iff₀ unit, ← div_lt_iff₀ unit] at contains
  split_ifs at contains with even
  · exact ⟨contains.1, contains.2, fun odd => by omega⟩
  · exact ⟨contains.1.le, contains.2.le, fun _ => contains⟩

end

private theorem below_le (mantissa : Nat) (exponent : Int) : below mantissa exponent ≤ 1 / 2 := by
  unfold below
  split_ifs <;> norm_num

section

variable {num den mantissa : Nat} {exponent : Int}

private theorem bits_le_infinityBits (normalized : Normalized mantissa exponent) :
    bits mantissa exponent ≤ infinityBits := by
  obtain ⟨short, lowest, highest, leading⟩ := normalized
  simp only [bits, minExponent, leadingBit, infinityBits] at *
  omega

private theorem lt_of_contains {number : ℚ} (normalized : Normalized mantissa exponent)
    (filled : mantissa ≠ 0) (contains : (around mantissa exponent).Contains number) :
    number / 2 ^ exponent < 2 ^ (52 + 1) := by
  obtain ⟨-, high, -⟩ := bounds_of_contains filled contains
  have short : (mantissa : ℚ) + 1 ≤ 2 ^ 53 := by
    exact_mod_cast (Nat.succ_le_of_lt normalized.short : mantissa + 1 ≤ 2 * leadingBit)
  linarith

/-- What lies in the stretch around a number, on the same grid, is rounded to it. -/
private theorem nearest_on_same_grid (normalized : Normalized mantissa exponent)
    (filled : mantissa ≠ 0) (numPositive : 0 < num) (denPositive : 0 < den)
    (contains : (around mantissa exponent).Contains (num / den))
    (reached : 2 ^ 52 ≤ (num : ℚ) / den / 2 ^ exponent ∨ exponent = minExponent) :
    nearest num den = bits mantissa exponent := by
  obtain ⟨low, high, inside⟩ := bounds_of_contains filled contains
  have half := below_le mantissa exponent
  have positive : (0 : ℚ) < num / den :=
    div_pos (Nat.cast_pos.mpr numPositive) (Nat.cast_pos.mpr denPositive)
  have grid : max (Int.log 2 ((num : ℚ) / den) - 52) minExponent = exponent := by
    have lowest := normalized.low
    have less := log_lt_of_bound positive (lt_of_contains normalized filled contains)
    rcases reached with reached | lowest
    · have least := le_log_of_bound positive reached
      omega
    · omega
  have near : |(num : ℚ) / den / 2 ^ exponent - mantissa| ≤ 1 / 2 :=
    abs_le.mpr ⟨by linarith, by linarith⟩
  have odd (is : mantissa % 2 = 1) : |(num : ℚ) / den / 2 ^ exponent - mantissa| < 1 / 2 := by
    obtain ⟨low, high⟩ := inside is
    exact abs_lt.mpr ⟨by linarith, by linarith⟩
  rw [nearest_of_grid numPositive denPositive grid near odd]
  exact min_eq_left (bits_le_infinityBits normalized)

/-- What lies in the stretch around a power of two, below it, is on a grid that is twice as fine. It
is rounded to the power of two there. -/
private theorem nearest_on_finer_grid (normalized : Normalized mantissa exponent)
    (filled : mantissa ≠ 0) (numPositive : 0 < num) (denPositive : 0 < den)
    (contains : (around mantissa exponent).Contains (num / den))
    (less : (num : ℚ) / den / 2 ^ exponent < 2 ^ 52) (notLowest : exponent ≠ minExponent) :
    nearest num den = bits mantissa exponent := by
  obtain ⟨low, -, -⟩ := bounds_of_contains filled contains
  have half := below_le mantissa exponent
  have lowest := normalized.low
  have positive : (0 : ℚ) < num / den :=
    div_pos (Nat.cast_pos.mpr numPositive) (Nat.cast_pos.mpr denPositive)
  have power : mantissa = leadingBit := by
    refine le_antisymm ?_ (normalized.leading.resolve_left notLowest)
    by_contra more
    have moreCast : (2 : ℚ) ^ 52 + 1 ≤ mantissa := by
      exact_mod_cast (not_le.mp more : leadingBit < mantissa)
    linarith
  have mantissaCast : (mantissa : ℚ) = 2 ^ 52 := by exact_mod_cast power
  rw [show below mantissa exponent = 1 / 4 from
    if_pos ⟨power, lt_of_le_of_ne lowest (Ne.symm notLowest)⟩] at low
  have finer : (num : ℚ) / den / 2 ^ (exponent - 1) = 2 * (num / den / 2 ^ exponent) := by
    rw [zpow_sub₀ two_ne_zero, zpow_one]
    field_simp
  have grid : max (Int.log 2 ((num : ℚ) / den) - 52) minExponent = exponent - 1 := by
    have least : (52 : Nat) + (exponent - 1) ≤ Int.log 2 ((num : ℚ) / den) :=
      le_log_of_bound positive (by rw [finer]; linarith)
    have most : Int.log 2 ((num : ℚ) / den) < (53 : Nat) + (exponent - 1) :=
      log_lt_of_bound positive (by rw [finer]; linarith)
    omega
  have near : |(num : ℚ) / den / 2 ^ (exponent - 1) - (2 * leadingBit : Nat)| ≤ 1 / 2 := by
    rw [finer, ← power, Nat.cast_mul, Nat.cast_ofNat, mantissaCast]
    exact abs_le.mpr ⟨by linarith, by linarith⟩
  have same : bits (2 * leadingBit) (exponent - 1) = bits mantissa exponent := by
    simp only [bits, power, minExponent, leadingBit] at *
    omega
  rw [nearest_of_grid numPositive denPositive grid near (fun odd => by simp at odd), same]
  exact min_eq_left (bits_le_infinityBits normalized)

/-- Whatever lies in the stretch around a finite number reads as that number. -/
theorem nearest_of_contains (normalized : Normalized mantissa exponent) (filled : mantissa ≠ 0)
    (numPositive : 0 < num) (denPositive : 0 < den)
    (contains : (around mantissa exponent).Contains (num / den)) :
    nearest num den = bits mantissa exponent := by
  by_cases reached : 2 ^ 52 ≤ (num : ℚ) / den / 2 ^ exponent ∨ exponent = minExponent
  · exact nearest_on_same_grid normalized filled numPositive denPositive contains reached
  · obtain ⟨less, notLowest⟩ := not_or.mp reached
    exact nearest_on_finer_grid normalized filled numPositive denPositive contains
      (not_le.mp less) notLowest

end

/-- What is found in a stretch lies in it. -/
theorem contains_of_whole? {whole : Nat} (found : stretch.whole? tie = some whole) :
    stretch.Contains whole := by
  unfold whole? at found
  dsimp only at found
  split at found
  · rename_i down up
    obtain rfl := Option.some.inj found
    rcases tie.round_eq_or stretch.value stretch.den with same | same
    · exact same ▸ contains_of_holds down
    · exact same ▸ contains_of_holds up
  · rename_i down _
    exact Option.some.inj found ▸ contains_of_holds down
  · rename_i _ up
    exact Option.some.inj found ▸ contains_of_holds up
  · cases found

/-- A stretch that is wider than a unit has a whole number in it. -/
theorem exists_whole? (tie : Tie) (denPositive : 0 < stretch.den)
    (low : stretch.low ≤ stretch.value) (high : stretch.value < stretch.high)
    (wide : stretch.low + stretch.den < stretch.high) :
    ∃ whole, stretch.whole? tie = some whole := by
  have atMost : stretch.value / stretch.den * stretch.den ≤ stretch.value := Nat.div_mul_le_self _ _
  have past : stretch.value < (stretch.value / stretch.den + 1) * stretch.den :=
    Nat.lt_mul_of_div_lt (Nat.lt_succ_self _) denPositive
  have either : stretch.holds (stretch.value / stretch.den) = true ∨
      stretch.holds (stretch.value / stretch.den + 1) = true := by
    rw [Nat.succ_mul] at past
    simp only [holds, Nat.succ_mul]
    by_cases inside : stretch.low < stretch.value / stretch.den * stretch.den
    · refine .inl ?_
      split <;> exact decide_eq_true (by omega)
    · refine .inr ?_
      split <;> exact decide_eq_true (by omega)
  unfold whole?
  dsimp only
  split <;> simp_all

/-- What a search finds lies in the stretch. -/
theorem contains_of_search {left : Nat} {exponent : Int} {decimal : Decimal}
    (found : stretch.search tie left exponent = some decimal) :
    stretch.Contains decimal.number := by
  induction left generalizing exponent with
  | zero => cases found
  | succ left inductionHypothesis =>
      unfold search at found
      split at found
      · rename_i whole here
        obtain rfl := Option.some.inj found
        exact contains_of_scale (contains_of_whole? here)
      · exact inductionHypothesis found

/-- A search that comes to a grid with a number in the stretch finds one. -/
theorem exists_search {left further : Nat} (within : further < left) {exponent : Int} {whole : Nat}
    (there : (stretch.scale (exponent - further)).whole? tie = some whole) :
    ∃ decimal, stretch.search tie left exponent = some decimal := by
  induction left generalizing exponent further with
  | zero => cases Nat.not_lt_zero _ within
  | succ left inductionHypothesis =>
      unfold search
      split
      · exact ⟨_, rfl⟩
      · rename_i nothing
        cases further with
        | zero =>
            rw [Nat.cast_zero, sub_zero, nothing] at there
            cases there
        | succ further =>
            refine inductionHypothesis (Nat.lt_of_succ_lt_succ within) ?_
            rw [← there, Nat.cast_succ, sub_sub, add_comm]

/-- A power of two is no less than the power of ten it is taken for, as far as the numbers reach. -/
private theorem ten_zpow_le {exponent : Int} (low : -1075 ≤ exponent) (high : exponent < 1025) :
    (10 : ℚ) ^ (exponent * 30103 / 100000) ≤ 2 ^ exponent := by
  have table : ∀ index : Nat, index < 2100 →
      power 10 (((index : Int) - 1075) * 30103 / 100000) * power 2 (-((index : Int) - 1075)) ≤
        power 2 ((index : Int) - 1075) * power 10 (-(((index : Int) - 1075) * 30103 / 100000)) := by
    decide +kernel
  obtain ⟨index, shifted⟩ := Int.eq_ofNat_of_zero_le (sub_nonneg.mpr low)
  have here := table index (by omega)
  rw [← shifted, sub_neg_eq_add, add_sub_cancel_right] at here
  have tens := @power_div_power 10 (by decide) (exponent * 30103 / 100000)
  have twos := @power_div_power 2 Nat.two_pos exponent
  rw [Nat.cast_ofNat] at tens twos
  rw [← tens, ← twos, div_le_div_iff₀ (Nat.cast_pos.mpr (power_pos (by decide) _))
    (Nat.cast_pos.mpr (power_pos Nat.two_pos _))]
  exact_mod_cast here

variable {mantissa : Nat} {exponent : Int}

private theorem log_around (normalized : Normalized mantissa exponent) (filled : mantissa ≠ 0) :
    ∃ log, floorLog (around mantissa exponent).value (around mantissa exponent).den = log ∧
      -1075 ≤ log ∧ log < 1025 ∧ (2 : ℚ) ^ log ≤ mantissa * 2 ^ exponent := by
  have den := @den_around_pos mantissa exponent
  have value : 0 < (around mantissa exponent).value :=
    Nat.mul_pos (by omega) (power_pos Nat.two_pos _)
  have filledCast : (1 : ℚ) ≤ mantissa := by exact_mod_cast Nat.pos_of_ne_zero filled
  have positive : (0 : ℚ) < mantissa * 2 ^ exponent :=
    mul_pos (by linarith) (zpow_pos two_pos _)
  have cancelled : (mantissa : ℚ) * 2 ^ exponent / 2 ^ exponent = mantissa :=
    mul_div_cancel_right₀ _ (zpow_pos two_pos _).ne'
  obtain ⟨short, lowest, highest, -⟩ := normalized
  simp only [minExponent] at lowest
  have least : (0 : Nat) + exponent ≤ Int.log 2 ((mantissa : ℚ) * 2 ^ exponent) :=
    le_log_of_bound positive (by rwa [cancelled, pow_zero])
  have less : Int.log 2 ((mantissa : ℚ) * 2 ^ exponent) < (53 : Nat) + exponent :=
    log_lt_of_bound positive (by rw [cancelled]; exact_mod_cast short)
  refine ⟨Int.log 2 ((mantissa : ℚ) * 2 ^ exponent), ?_, by omega, by omega, ?_⟩
  · rw [floorLog_eq_log value (Nat.cast_pos.mp den), value_around,
      mul_div_cancel_right₀ _ den.ne']
  · exact_mod_cast Int.zpow_log_le_self Nat.one_lt_two positive

/-- The value of a stretch does not begin far behind the point. -/
private theorem le_point (normalized : Normalized mantissa exponent) (filled : mantissa ≠ 0) :
    -324 ≤ (around mantissa exponent).point := by
  obtain ⟨log, same, low, -⟩ := log_around normalized filled
  unfold point
  dsimp only
  rw [same]
  split <;> omega

/-- The first digit of the value stands no later than in the place that is counted. -/
private theorem ten_zpow_point_le (normalized : Normalized mantissa exponent)
    (filled : mantissa ≠ 0) :
    (10 : ℚ) ^ ((around mantissa exponent).point - 1) ≤ mantissa * 2 ^ exponent := by
  obtain ⟨log, same, low, high, below⟩ := log_around normalized filled
  have den := @den_around_pos mantissa exponent
  unfold point
  dsimp only
  rw [same]
  split
  · rename_i reached
    have scaled := (zpow_le_div_iff (by decide : 0 < 10) (Nat.cast_pos.mp den) _).mpr reached
    rw [value_around, mul_div_cancel_right₀ _ den.ne', Nat.cast_ofNat] at scaled
    rwa [add_sub_cancel_right]
  · rw [add_sub_cancel_right]
    exact (ten_zpow_le low high).trans below

private theorem mantissa_lt_width (normalized : Normalized mantissa exponent) :
    (mantissa : ℚ) < 10 ^ 16 * (1 / 2 + below mantissa exponent) := by
  have short : (mantissa : ℚ) < 2 ^ 53 := by exact_mod_cast normalized.short
  unfold below
  split_ifs with power
  · have same : (mantissa : ℚ) = 2 ^ 52 := by exact_mod_cast power.1
    rw [same]
    norm_num
  · refine short.trans ?_
    norm_num

/-- The last grid is finer than the stretch is wide, so it has a number in it. -/
theorem exists_on_last_grid (tie : Tie) (normalized : Normalized mantissa exponent)
    (filled : mantissa ≠ 0) : ∃ whole,
      ((around mantissa exponent).scale ((around mantissa exponent).point - 1 - 16)).whole? tie =
        some whole := by
  have den := @den_around_pos mantissa exponent
  have unit : (0 : ℚ) < 2 ^ exponent := zpow_pos two_pos _
  have place := ten_zpow_point_le normalized filled
  generalize (around mantissa exponent).point - 1 = first at place ⊢
  have up := power_pos (by decide : 0 < 10) (-(first - 16))
  have split : (power 10 (first - 16) : ℚ) = 10 ^ (first - 16) * power 10 (-(first - 16)) := by
    have split := @power_div_power 10 (by decide) (first - 16)
    rw [Nat.cast_ofNat] at split
    exact (div_eq_iff (Nat.cast_ne_zero.mpr up.ne')).mp split
  have fine : (10 : ℚ) ^ (first - 16) < (1 / 2 + below mantissa exponent) * 2 ^ exponent := by
    rw [zpow_sub₀ (by norm_num), div_lt_iff₀ (zpow_pos (by norm_num) _)]
    calc (10 : ℚ) ^ first ≤ mantissa * 2 ^ exponent := place
      _ < 10 ^ 16 * (1 / 2 + below mantissa exponent) * 2 ^ exponent :=
        mul_lt_mul_of_pos_right (mantissa_lt_width normalized) unit
      _ = (1 / 2 + below mantissa exponent) * 2 ^ exponent * 10 ^ (16 : Int) := by
        rw [mul_rotate]
        norm_num
  refine exists_whole? tie ?_ ?_ ?_ ?_
  · exact Nat.mul_pos (Nat.cast_pos.mp den) (power_pos (by decide) _)
  · exact Nat.mul_le_mul_right _ (Nat.mul_le_mul_right _ (Nat.sub_le _ _))
  · exact Nat.mul_lt_mul_of_pos_right
      (Nat.mul_lt_mul_of_pos_right (Nat.lt_add_of_pos_right Nat.two_pos)
        (power_pos Nat.two_pos _)) up
  · have upCast : (0 : ℚ) < power 10 (-(first - 16)) := Nat.cast_pos.mpr up
    have inner : ((around mantissa exponent).low : ℚ) +
        (around mantissa exponent).den * 10 ^ (first - 16) < (around mantissa exponent).high := by
      rw [low_around filled, high_around, mul_comm _ ((10 : ℚ) ^ _), ← add_mul]
      refine mul_lt_mul_of_pos_right ?_ den
      linarith
    have scaled := mul_lt_mul_of_pos_right inner upCast
    rw [add_mul, mul_assoc _ ((10 : ℚ) ^ _), ← split] at scaled
    exact_mod_cast scaled

/-- A search does not go beyond its grids. -/
private theorem lt_exponent_of_search {left : Nat} {exponent : Int} {decimal : Decimal}
    (found : stretch.search tie left exponent = some decimal) :
    exponent - left < decimal.exponent := by
  induction left generalizing exponent with
  | zero => cases found
  | succ left inductionHypothesis =>
      unfold search at found
      split at found
      · obtain rfl := Option.some.inj found
        dsimp only
        omega
      · have later := inductionHypothesis found
        omega

end Stretch

/-- Zeros at the end of a coefficient make no difference. -/
theorem number_trim (fuel : Nat) (decimal : Decimal) :
    (trim fuel decimal).number = decimal.number := by
  induction fuel generalizing decimal with
  | zero => rfl
  | succ fuel inductionHypothesis =>
      unfold trim
      split
      · rename_i zero
        have tenfold : (decimal.coefficient : ℚ) = (decimal.coefficient / 10 : Nat) * 10 := by
          exact_mod_cast (Nat.div_mul_cancel (Nat.dvd_of_mod_eq_zero zero.2)).symm
        rw [inductionHypothesis, number, number, tenfold, zpow_add₀ (by norm_num), zpow_one]
        ring
      · rfl

private theorem le_exponent_trim (fuel : Nat) (decimal : Decimal) :
    decimal.exponent ≤ (trim fuel decimal).exponent := by
  induction fuel generalizing decimal with
  | zero => exact le_refl _
  | succ fuel inductionHypothesis =>
      unfold trim
      split
      · have later := inductionHypothesis ⟨decimal.coefficient / 10, decimal.exponent + 1⟩
        dsimp only at later
        omega
      · exact le_refl _

variable {mantissa : Nat} {exponent : Int}

/-- **Seventeen digits suffice.** Every finite number that is not zero has a shortest decimal, on a
grid that is not too fine, and the decimal lies in the stretch around the number. -/
theorem exists_shortest? (tie : Tie) (normalized : Normalized mantissa exponent)
    (filled : mantissa ≠ 0) : ∃ decimal, shortest? tie mantissa exponent = some decimal ∧
      -400 ≤ decimal.exponent ∧ (Stretch.around mantissa exponent).Contains decimal.number := by
  obtain ⟨whole, there⟩ := Stretch.exists_on_last_grid tie normalized filled
  obtain ⟨decimal, found⟩ := Stretch.exists_search (by decide : 16 < 17) there
  refine ⟨trim 17 decimal, Option.map_eq_some_iff.mpr ⟨decimal, found, rfl⟩, ?_, ?_⟩
  · have first := Stretch.le_point normalized filled
    have last := Stretch.lt_exponent_of_search found
    have trimmed := le_exponent_trim 17 decimal
    omega
  · rw [number_trim]
    exact Stretch.contains_of_search found

/-- A decimal in the stretch around a number is neither huge nor tiny. -/
theorem moderate_of_contains {decimal : Decimal} (coarse : -400 ≤ decimal.exponent)
    (normalized : Normalized mantissa exponent) (filled : mantissa ≠ 0)
    (contains : (Stretch.around mantissa exponent).Contains decimal.number) : decimal.Moderate := by
  obtain ⟨low, high, -⟩ := Stretch.bounds_of_contains filled contains
  obtain ⟨narrow, lowest, highest, -⟩ := normalized
  simp only [minExponent] at lowest
  have half := Stretch.below_le mantissa exponent
  have unit : (0 : ℚ) < 2 ^ exponent := zpow_pos two_pos _
  have narrowCast : (mantissa : ℚ) + 1 ≤ 2 ^ 53 := by
    exact_mod_cast (Nat.succ_le_of_lt narrow : mantissa + 1 ≤ 2 * leadingBit)
  have filledCast : (1 : ℚ) ≤ mantissa := by exact_mod_cast Nat.pos_of_ne_zero filled
  refine moderate_of_bounds coarse ?_ ?_
  · have least : (2 : ℚ) ^ (-(1075 : Nat) : Int) ≤ decimal.number := by
      calc (2 : ℚ) ^ (-(1075 : Nat) : Int) ≤ 2 ^ (-1 + exponent) :=
            zpow_le_zpow_right₀ one_le_two (by omega)
        _ = 2⁻¹ * 2 ^ exponent := by rw [zpow_add₀ two_ne_zero, zpow_neg_one]
        _ ≤ decimal.number := (le_div_iff₀ unit).mp (by linarith)
    rwa [zpow_neg, zpow_natCast, inv_le_iff_one_le_mul₀ (by positivity)] at least
  · calc decimal.number < 2 ^ 53 * 2 ^ exponent := (div_lt_iff₀ unit).mp (by linarith)
      _ = 2 ^ ((53 : Nat) + exponent) := by rw [zpow_add₀ two_ne_zero, zpow_natCast]
      _ ≤ 2 ^ ((1024 : Nat) : Int) := zpow_le_zpow_right₀ one_le_two (by omega)
      _ = 2 ^ 1024 := zpow_natCast 2 1024

/-- A decimal in the stretch around a number reads as that number. -/
theorem nearestBits_of_contains {decimal : Decimal} (moderate : decimal.Moderate)
    (normalized : Normalized mantissa exponent) (filled : mantissa ≠ 0)
    (contains : (Stretch.around mantissa exponent).Contains decimal.number) :
    decimal.nearestBits = bits mantissa exponent := by
  have split := @power_div_power 10 (by decide) decimal.exponent
  rw [Nat.cast_ofNat] at split
  rw [nearestBits_of_moderate moderate]
  refine Stretch.nearest_of_contains normalized filled
    (Nat.mul_pos (Nat.pos_of_ne_zero moderate.nonzero) (power_pos (by decide) _))
    (power_pos (by decide) _) ?_
  rwa [Nat.cast_mul, mul_div_assoc, split]

/-- What a finite number is written as is of moderate size and reads as that number. -/
theorem ofBinary_reads (tie : Tie) (normalized : Normalized mantissa exponent)
    (filled : mantissa ≠ 0) : (ofBinary tie mantissa exponent).Moderate ∧
      (ofBinary tie mantissa exponent).nearestBits = bits mantissa exponent := by
  obtain ⟨decimal, found, coarse, contains⟩ := exists_shortest? tie normalized filled
  have moderate := moderate_of_contains coarse normalized filled contains
  rw [ofBinary, found]
  exact ⟨moderate, nearestBits_of_contains moderate normalized filled contains⟩

end Renko.Decimal
