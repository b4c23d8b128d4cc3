import Renko.Proofs.Scalar

/-! # The order of prices

Defined scalars are in a linear order, up to the signs of zeros (`Renko.Scalar.Ordered`): so are
binary64 numbers, which compare as whole numbers do (`Renko.Unpacked.compare_eq_compare_rank`). The
larger of two greatest values is therefore the greatest of all (`Renko.Scalar.isGreatest_larger`),
and likewise for the smaller of two least ones.
-/

namespace Renko

namespace Unpacked

open Float.Model Float.Model.UnpackedFloat

/-- Where a number stands among all numbers that words stand for. Both zeros stand at one place; an
undefined number stands nowhere. -/
def rank : UnpackedFloat → Int
  | .notANumber => 0
  | .infinity sign => sign.apply (2 ^ 64)
  | .zero _ => 0
  | .finite sign mantissa exponent _ => sign.apply ((exponent + 1074) * 2 ^ 53 + mantissa)

/-- Between two exponents there is room for all mantissas. -/
private theorem compare_finite {first second : Nat} (firstExponent secondExponent : Int)
    (firstNarrow : first < 2 ^ 53) (secondNarrow : second < 2 ^ 53) :
    (compare firstExponent secondExponent).then (compare first second) =
      compare ((firstExponent + 1074) * 2 ^ 53 + (first : Int))
        ((secondExponent + 1074) * 2 ^ 53 + (second : Int)) := by
  symm
  rcases lt_trichotomy firstExponent secondExponent with less | rfl | greater
  · rw [compare_lt_iff_lt.mpr less]
    exact compare_lt_iff_lt.mpr (by omega)
  · rw [compare_eq_iff_eq.mpr (rfl : firstExponent = firstExponent)]
    change _ = compare first second
    rcases lt_trichotomy first second with less | rfl | greater
    · rw [compare_lt_iff_lt.mpr less]
      exact compare_lt_iff_lt.mpr (by omega)
    · rw [compare_eq_iff_eq.mpr (rfl : first = first)]
      exact compare_eq_iff_eq.mpr rfl
    · rw [compare_gt_iff_gt.mpr greater]
      exact compare_gt_iff_gt.mpr (by omega)
  · rw [compare_gt_iff_gt.mpr greater]
    exact compare_gt_iff_gt.mpr (by omega)

private theorem swap_compare (first second : Int) :
    (compare first second).swap = compare (-first) (-second) := by
  rcases lt_trichotomy first second with less | rfl | greater
  · rw [compare_lt_iff_lt.mpr less, compare_gt_iff_gt.mpr (Int.neg_lt_neg less)]
    rfl
  · rw [compare_eq_iff_eq.mpr rfl, compare_eq_iff_eq.mpr rfl]
    rfl
  · rw [compare_gt_iff_gt.mpr greater, compare_lt_iff_lt.mpr (Int.neg_lt_neg greater)]
    rfl

/-- A finite number stands between zero and the infinity of its sign. -/
private theorem rank_finite {sign : Sign} {mantissa : Nat} {exponent : Int}
    {positive : 0 < mantissa} (fits : Representable (.finite sign mantissa exponent positive)) :
    0 < (exponent + 1074) * 2 ^ 53 + (mantissa : Int) ∧
      (exponent + 1074) * 2 ^ 53 + (mantissa : Int) < 2 ^ 64 := by
  obtain ⟨narrow, lower, upper, -⟩ := fits
  omega

/-- Defined numbers compare as their ranks do. -/
theorem compare_eq_compare_rank {first second : UnpackedFloat} (firstFits : Representable first)
    (secondFits : Representable second) (firstDefined : first ≠ .notANumber)
    (secondDefined : second ≠ .notANumber) :
    first.compare second = some (compare (rank first) (rank second)) := by
  have below {low high : Int} (less : low < high) : some .lt = some (compare low high) :=
    congrArg some (compare_lt_iff_lt.mpr less).symm
  have above {low high : Int} (greater : high < low) : some .gt = some (compare low high) :=
    congrArg some (compare_gt_iff_gt.mpr greater).symm
  cases first with
  | notANumber => exact absurd rfl firstDefined
  | infinity firstSign =>
      cases second with
      | notANumber => exact absurd rfl secondDefined
      | infinity secondSign => cases firstSign <;> cases secondSign <;> rfl
      | zero secondSign => cases firstSign <;> rfl
      | finite secondSign second secondExponent secondPositive =>
          have bounds := rank_finite secondFits
          cases firstSign with
          | negative => exact below (by cases secondSign <;> simp only [rank, Sign.apply] <;> omega)
          | positive => exact above (by cases secondSign <;> simp only [rank, Sign.apply] <;> omega)
  | zero firstSign =>
      cases second with
      | notANumber => exact absurd rfl secondDefined
      | infinity secondSign => cases secondSign <;> rfl
      | zero secondSign => rfl
      | finite secondSign second secondExponent secondPositive =>
          have bounds := rank_finite secondFits
          cases secondSign with
          | negative => exact above (by simp only [rank, Sign.apply]; omega)
          | positive => exact below (by simp only [rank, Sign.apply]; omega)
  | finite firstSign first firstExponent firstPositive =>
      have firstBounds := rank_finite firstFits
      cases second with
      | notANumber => exact absurd rfl secondDefined
      | infinity secondSign =>
          cases secondSign with
          | negative => exact above (by cases firstSign <;> simp only [rank, Sign.apply] <;> omega)
          | positive => exact below (by cases firstSign <;> simp only [rank, Sign.apply] <;> omega)
      | zero secondSign =>
          cases firstSign with
          | negative => exact below (by simp only [rank, Sign.apply]; omega)
          | positive => exact above (by simp only [rank, Sign.apply]; omega)
      | finite secondSign second secondExponent secondPositive =>
          have secondBounds := rank_finite secondFits
          have magnitudes := compare_finite firstExponent secondExponent firstFits.1 secondFits.1
          cases firstSign <;> cases secondSign
          · simp only [UnpackedFloat.compare, rank, Sign.apply, magnitudes, swap_compare]
          · exact below (by simp only [rank, Sign.apply]; omega)
          · exact above (by simp only [rank, Sign.apply]; omega)
          · simp only [UnpackedFloat.compare, rank, Sign.apply, magnitudes]

/-- Packing undefines no number. -/
theorem stored_ne_notANumber {number : UnpackedFloat} (defined : number ≠ .notANumber) :
    stored number ≠ .notANumber := by
  cases number with
  | notANumber => exact absurd rfl defined
  | infinity sign => cases sign <;> rintro ⟨⟩
  | zero sign => cases sign <;> rintro ⟨⟩
  | finite sign mantissa exponent positive =>
      have small (exponent : BitVec 11) (mantissa : BitVec 52) (bounded : exponent ≠ -1#11) :
          ofFields sign exponent mantissa ≠ .notANumber := by
        unfold ofFields
        rw [if_neg bounded]
        split
        · split <;> rintro ⟨⟩
        · rintro ⟨⟩
      simp only [stored, UnpackedFloat.pack]
      split
      · rw [packedInfinity, unpack_packComponents]
        rintro ⟨⟩
      · rename_i fits
        split
        · rw [unpack_packComponents]
          apply small
          intro full
          have field := congrArg BitVec.toNat full
          rw [BitVec.toNat_ofNat] at field
          change _ % 2048 = 2047 at field
          change ¬2048 ≤ _ at fits
          omega
        · rw [unpack_packComponents]
          exact small _ _ (by decide)

private theorem compare_ofFloat {first second : Float} (firstDefined : ofFloat first ≠ .notANumber)
    (secondDefined : ofFloat second ≠ .notANumber) :
    (ofFloat first).compare (ofFloat second) =
      some (compare (rank (ofFloat first)) (rank (ofFloat second))) :=
  compare_eq_compare_rank (representable_ofFloat first) (representable_ofFloat second) firstDefined
    secondDefined

/-- Nothing compares with an undefined number. -/
theorem defined_of_le {first second : Float} (atMost : first ≤ second) :
    ofFloat first ≠ .notANumber ∧ ofFloat second ≠ .notANumber := by
  rw [le_iff, UnpackedFloat.le] at atMost
  constructor
  · intro undefined
    rw [undefined] at atMost
    exact Bool.false_ne_true atMost
  · intro undefined
    rw [undefined] at atMost
    cases taken : ofFloat first <;> rw [taken] at atMost <;> exact Bool.false_ne_true atMost

/-- Defined numbers are ordered as their ranks are. -/
theorem le_iff_rank {first second : Float} (firstDefined : ofFloat first ≠ .notANumber)
    (secondDefined : ofFloat second ≠ .notANumber) :
    first ≤ second ↔ rank (ofFloat first) ≤ rank (ofFloat second) := by
  rw [le_iff, UnpackedFloat.le, compare_ofFloat firstDefined secondDefined, Option.any_some]
  exact Int.isLE_compare

/-- One is below another if its rank is. -/
theorem lt_iff_rank {first second : Float} (firstDefined : ofFloat first ≠ .notANumber)
    (secondDefined : ofFloat second ≠ .notANumber) :
    first < second ↔ rank (ofFloat first) < rank (ofFloat second) := by
  rw [lt_iff, UnpackedFloat.lt, compare_ofFloat firstDefined secondDefined, beq_iff_eq,
    Option.some.injEq, compare_lt_iff_lt]

private theorem beq_self_iff (number : Float) :
    (number == number) = true ↔ ofFloat number ≠ .notANumber := by
  change ((ofFloat number).compare (ofFloat number) == some .eq) = true ↔ _
  by_cases defined : ofFloat number = .notANumber
  · rw [defined]
    exact iff_of_false Bool.false_ne_true fun same => same rfl
  · rw [compare_ofFloat defined defined]
    exact iff_of_true (by simp) defined

private theorem normalize_ne_notANumber (mantissa exponent : Int) (zeroSign : Sign) :
    UnpackedFloat.normalize .binary64 mantissa exponent zeroSign ≠ .notANumber := by
  have rounded (sign : Sign) (mantissa : Nat) (exponent : Int) :
      UnpackedFloat.round .binary64 sign mantissa exponent ≠ .notANumber := by
    simp only [UnpackedFloat.round, roundWithAccuracy]
    split <;> rintro ⟨⟩
  unfold UnpackedFloat.normalize
  split
  · exact rounded _ _ _
  · rintro ⟨⟩
  · exact rounded _ _ _

/-- Adding a finite number keeps a number defined. -/
theorem add_ne_notANumber {first second : UnpackedFloat} (finite : second.isFinite = true)
    (defined : first ≠ .notANumber) : UnpackedFloat.add .binary64 first second ≠ .notANumber := by
  cases second with
  | notANumber => cases finite
  | infinity sign => cases finite
  | zero secondSign =>
      cases first with
      | notANumber => exact absurd rfl defined
      | infinity sign => exact fun same => nomatch same
      | zero sign => cases sign <;> cases secondSign <;> exact fun same => nomatch same
      | finite sign mantissa exponent positive => exact fun same => nomatch same
  | finite secondSign second secondExponent secondPositive =>
      cases first with
      | notANumber => exact absurd rfl defined
      | infinity sign => exact fun same => nomatch same
      | zero sign => exact fun same => nomatch same
      | finite sign first exponent positive => exact normalize_ne_notANumber _ _ _

private theorem sub_eq_add_neg (first second : UnpackedFloat) :
    UnpackedFloat.sub .binary64 first second = UnpackedFloat.add .binary64 first second.neg := by
  cases first with
  | notANumber => rfl
  | infinity sign => cases second <;> rfl
  | zero sign => cases second <;> rfl
  | finite sign first exponent positive =>
      cases second with
      | notANumber => rfl
      | infinity secondSign => rfl
      | zero secondSign => rfl
      | finite secondSign second secondExponent secondPositive =>
          cases secondSign with
          | negative =>
              exact congrArg (UnpackedFloat.normalize .binary64 · _ .positive) (sub_neg_eq_add _ _)
          | positive => rfl

private theorem isFinite_neg (number : UnpackedFloat) : number.neg.isFinite = number.isFinite := by
  cases number <;> rfl

/-- A step of finite size away from a defined number leads to a defined one. -/
theorem ofFloat_step_ne {size anchor : Float} (finite : size.isFinite = true)
    (defined : ofFloat anchor ≠ .notANumber) (direction : Direction) :
    ofFloat (direction.step size anchor) ≠ .notANumber := by
  change (ofFloat size).isFinite = true at finite
  have added : UnpackedFloat.add .binary64 (ofFloat anchor) (ofFloat size) ≠ .notANumber :=
    add_ne_notANumber finite defined
  have taken : UnpackedFloat.sub .binary64 (ofFloat anchor) (ofFloat size) ≠ .notANumber :=
    sub_eq_add_neg _ _ ▸ add_ne_notANumber ((isFinite_neg _).trans finite) defined
  cases direction with
  | up => exact stored_ne_notANumber added
  | down => exact stored_ne_notANumber taken

end Unpacked

namespace Scalar

variable {α : Type} [Scalar α]

/-- A scalar that equals itself; of binary64 numbers only the undefined one does not. -/
def Defined (scalar : α) : Prop := (scalar == scalar) = true

/-- Scalars whose defined values are in a linear order, up to the signs of zeros. Steps of a valid
size lead from defined values to defined ones. -/
class Ordered (α : Type) [Scalar α] [LE α] : Prop where
  defined_of_le : ∀ {first second : α}, first ≤ second → Defined first ∧ Defined second
  le_total : ∀ {first second : α}, Defined first → Defined second →
    first ≤ second ∨ second ≤ first
  le_trans : ∀ {first second third : α}, first ≤ second → second ≤ third → first ≤ third
  lt_iff_not_le : ∀ {first second : α}, Defined first → Defined second →
    (first < second ↔ ¬second ≤ first)
  defined_step : ∀ {size anchor : α}, validBrickSize size = true → Defined anchor →
    ∀ direction : Direction, Defined (direction.step size anchor)

instance : Ordered Rat where
  defined_of_le _ := ⟨beq_self_eq_true _, beq_self_eq_true _⟩
  le_total _ _ := Rat.le_total
  le_trans := Rat.le_trans
  lt_iff_not_le _ _ := Rat.not_le.symm
  defined_step _ _ _ := beq_self_eq_true _

instance : Ordered Float where
  defined_of_le atMost := by
    obtain ⟨first, second⟩ := Unpacked.defined_of_le atMost
    exact ⟨(Unpacked.beq_self_iff _).mpr first, (Unpacked.beq_self_iff _).mpr second⟩
  le_total firstDefined secondDefined := by
    have first := (Unpacked.beq_self_iff _).mp firstDefined
    have second := (Unpacked.beq_self_iff _).mp secondDefined
    rw [Unpacked.le_iff_rank first second, Unpacked.le_iff_rank second first]
    exact Int.le_total _ _
  le_trans low high := by
    obtain ⟨first, second⟩ := Unpacked.defined_of_le low
    obtain ⟨-, third⟩ := Unpacked.defined_of_le high
    rw [Unpacked.le_iff_rank first second] at low
    rw [Unpacked.le_iff_rank second third] at high
    exact (Unpacked.le_iff_rank first third).mpr (low.trans high)
  lt_iff_not_le firstDefined secondDefined := by
    have first := (Unpacked.beq_self_iff _).mp firstDefined
    have second := (Unpacked.beq_self_iff _).mp secondDefined
    rw [Unpacked.lt_iff_rank first second, Unpacked.le_iff_rank second first, not_le]
  defined_step valid anchorDefined direction := by
    have anchor := (Unpacked.beq_self_iff _).mp anchorDefined
    have finite := (validBrickSize_iff.mp valid).1
    exact (Unpacked.beq_self_iff _).mpr (Unpacked.ofFloat_step_ne finite anchor direction)

/-- A finite number is defined. -/
theorem defined_of_isFinite {number : Float} (finite : number.isFinite = true) :
    Defined number := by
  refine (Unpacked.beq_self_iff number).mpr fun undefined => ?_
  change (Unpacked.ofFloat number).isFinite = true at finite
  rw [undefined] at finite
  exact Bool.false_ne_true finite

variable [LE α] [Ordered α]

private theorem Defined.le_self {scalar : α} (defined : Defined scalar) : scalar ≤ scalar :=
  (Ordered.le_total defined defined).elim id id

private theorem larger_cases {first second : α} (firstDefined : Defined first)
    (secondDefined : Defined second) :
    larger first second = second ∧ first ≤ second ∨
      larger first second = first ∧ second ≤ first := by
  unfold larger
  rw [show (first == first) = true from firstDefined, Bool.not_true, Bool.or_false]
  by_cases less : first < second
  · rw [if_pos (decide_eq_true less)]
    have notAbove := (Ordered.lt_iff_not_le firstDefined secondDefined).mp less
    exact .inl ⟨rfl, (Ordered.le_total firstDefined secondDefined).resolve_right notAbove⟩
  · rw [if_neg (mt of_decide_eq_true less)]
    have above := mt (Ordered.lt_iff_not_le firstDefined secondDefined).mpr less
    exact .inr ⟨rfl, not_not.mp above⟩

private theorem smaller_cases {first second : α} (firstDefined : Defined first)
    (secondDefined : Defined second) :
    smaller first second = second ∧ second ≤ first ∨
      smaller first second = first ∧ first ≤ second := by
  unfold smaller
  rw [show (first == first) = true from firstDefined, Bool.not_true, Bool.or_false]
  by_cases less : second < first
  · rw [if_pos (decide_eq_true less)]
    have notAbove := (Ordered.lt_iff_not_le secondDefined firstDefined).mp less
    exact .inl ⟨rfl, (Ordered.le_total firstDefined secondDefined).resolve_left notAbove⟩
  · rw [if_neg (mt of_decide_eq_true less)]
    have above := mt (Ordered.lt_iff_not_le secondDefined firstDefined).mpr less
    exact .inr ⟨rfl, not_not.mp above⟩

/-- The larger of two greatest values is the greatest of all. -/
theorem isGreatest_larger {first second : α} {firsts seconds : Set α}
    (greatestFirst : IsGreatest firsts first) (greatestSecond : IsGreatest seconds second) :
    IsGreatest (firsts ∪ seconds) (larger first second) := by
  obtain ⟨inFirsts, boundsFirst⟩ := greatestFirst
  obtain ⟨inSeconds, boundsSecond⟩ := greatestSecond
  have firstDefined := (Ordered.defined_of_le (boundsFirst inFirsts)).1
  have secondDefined := (Ordered.defined_of_le (boundsSecond inSeconds)).1
  rcases larger_cases firstDefined secondDefined with ⟨same, atMost⟩ | ⟨same, atMost⟩
  · rw [same]
    refine ⟨.inr inSeconds, ?_⟩
    rintro other (early | late)
    · exact Ordered.le_trans (boundsFirst early) atMost
    · exact boundsSecond late
  · rw [same]
    refine ⟨.inl inFirsts, ?_⟩
    rintro other (early | late)
    · exact boundsFirst early
    · exact Ordered.le_trans (boundsSecond late) atMost

/-- The smaller of two least values is the least of all. -/
theorem isLeast_smaller {first second : α} {firsts seconds : Set α}
    (leastFirst : IsLeast firsts first) (leastSecond : IsLeast seconds second) :
    IsLeast (firsts ∪ seconds) (smaller first second) := by
  obtain ⟨inFirsts, boundsFirst⟩ := leastFirst
  obtain ⟨inSeconds, boundsSecond⟩ := leastSecond
  have firstDefined := (Ordered.defined_of_le (boundsFirst inFirsts)).1
  have secondDefined := (Ordered.defined_of_le (boundsSecond inSeconds)).1
  rcases smaller_cases firstDefined secondDefined with ⟨same, atMost⟩ | ⟨same, atMost⟩
  · rw [same]
    refine ⟨.inr inSeconds, ?_⟩
    rintro other (early | late)
    · exact Ordered.le_trans atMost (boundsFirst early)
    · exact boundsSecond late
  · rw [same]
    refine ⟨.inl inFirsts, ?_⟩
    rintro other (early | late)
    · exact boundsFirst early
    · exact Ordered.le_trans atMost (boundsSecond late)

/-- A defined number is the greatest of itself. -/
theorem isGreatest_singleton {scalar : α} (defined : Defined scalar) :
    IsGreatest {scalar} scalar :=
  ⟨rfl, fun _ same => same ▸ defined.le_self⟩

/-- A defined number is the least of itself. -/
theorem isLeast_singleton {scalar : α} (defined : Defined scalar) : IsLeast {scalar} scalar :=
  ⟨rfl, fun _ same => same ▸ defined.le_self⟩

/-- Values that are no greatest ones do not move the greatest one. -/
theorem isGreatest_larger_of_mem {first second : α} {values : Set α}
    (firstGreatest : IsGreatest values first) (member : second ∈ values) :
    IsGreatest values (larger first second) ∧ IsGreatest values (larger second first) := by
  have single := isGreatest_singleton (Ordered.defined_of_le (firstGreatest.2 member)).1
  have within := Set.singleton_subset_iff.mpr member
  constructor
  · have both := isGreatest_larger firstGreatest single
    rwa [Set.union_eq_left.mpr within] at both
  · have both := isGreatest_larger single firstGreatest
    rwa [Set.union_eq_right.mpr within] at both

end Scalar

end Renko
