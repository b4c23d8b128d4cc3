import Mathlib
import Renko.Number.Reader
import Renko.Number.Text
import Renko.Proofs.Number.Decimal

/-! # Numbers read back

The digits of a decimal stand for its coefficient wherever the point is put between or around them,
so what a report says of a number reads as that number (`Renko.Binary64.read_report`): infinite
ones, the undefined one and negative zero included.
-/

namespace Renko

/-- Whether a text begins with a minus sign, and what follows its sign, should it have one. -/
def splitSign (text : List Char) : Bool × List Char :=
  match text with
  | '-' :: rest => (true, rest)
  | '+' :: rest => (false, rest)
  | rest => (false, rest)

/-- A minus sign is split off. -/
theorem splitSign_minus (rest : List Char) : splitSign ('-' :: rest) = (true, rest) :=
  rfl

/-- So is a plus sign. -/
theorem splitSign_plus (rest : List Char) : splitSign ('+' :: rest) = (false, rest) :=
  rfl

/-- A text that begins with a digit has no sign. -/
theorem splitSign_of_digit {c : Char} (digit : c.isDigit = true) (rest : List Char) :
    splitSign (c :: rest) = (false, c :: rest) := by
  unfold splitSign
  split
  · rename_i same
    obtain ⟨rfl, -⟩ := List.cons.inj same
    cases digit
  · rename_i same
    obtain ⟨rfl, -⟩ := List.cons.inj same
    cases digit
  · rfl

namespace Decimal

/-- Lists of decimal digits. -/
def Digits (text : List Char) : Prop := ∀ c ∈ text, c.isDigit = true

/-- A number is written in digits. -/
theorem digits_toDigits (number : Nat) : Digits (Nat.toDigits 10 number) :=
  fun _ member => Nat.isDigit_of_mem_toDigits (by decide) (by decide) member

/-- Zeros are digits. -/
theorem digits_zeros (count : Nat) : Digits (List.replicate count '0') :=
  fun c member => by rw [List.eq_of_mem_replicate member]; rfl

/-- Digits after digits are digits. -/
theorem Digits.append {first second : List Char} (firstDigits : Digits first)
    (secondDigits : Digits second) : Digits (first ++ second) :=
  List.forall_mem_append.mpr ⟨firstDigits, secondDigits⟩

/-- Digits in front count for as many places as others follow. -/
theorem value_append (first second : List Char) :
    value (first ++ second) = 10 ^ second.length * value first + value second := by
  change Nat.ofDigitChars 10 (first ++ second) 0 = _
  rw [Nat.ofDigitChars_append, Nat.ofDigitChars_eq_ofDigitChars_zero]
  rfl

/-- The digits of a number stand for it. -/
theorem value_toDigits (number : Nat) : value (Nat.toDigits 10 number) = number :=
  Nat.ofDigitChars_ten_toDigits

/-- Zeros stand for nothing. -/
theorem value_zeros (count : Nat) : value (List.replicate count '0') = 0 :=
  Nat.ofDigitChars_replicate_zero

/-- Reads a number without a sign. -/
def whole? (text : List Char) : Option Nat :=
  if text.isEmpty || !text.all Char.isDigit then none else some (value text)

/-- Digits read as the number that they stand for. -/
theorem whole?_of_digits {digits : List Char} (all : Digits digits) (nonempty : digits ≠ []) :
    whole? digits = some (value digits) := by
  unfold whole?
  rw [List.isEmpty_eq_false_iff.mpr nonempty, List.all_eq_true.mpr all]
  rfl

/-- No mark is among digits. -/
theorem Digits.notMem {text : List Char} {mark : Char} (digits : Digits text)
    (other : mark.isDigit = false) : mark ∉ text := by
  intro member
  rw [digits mark member] at other
  cases other

/-- Text behind digits begins where the first other character stands. -/
theorem span_digits {text rest : List Char} {c : Char} (digits : Digits text)
    (other : c.isDigit = false) :
    (text ++ c :: rest).takeWhile Char.isDigit = text ∧
      (text ++ c :: rest).dropWhile Char.isDigit = c :: rest := by
  have stop : ¬c.isDigit = true := by rw [other]; exact Bool.false_ne_true
  rw [List.takeWhile_append_of_pos digits, List.dropWhile_append_of_pos digits,
    List.takeWhile_cons_of_neg stop, List.dropWhile_cons_of_neg stop, List.append_nil]
  exact ⟨rfl, rfl⟩

private theorem span_all_digits {text : List Char} (digits : Digits text) :
    text.takeWhile Char.isDigit = text ∧ text.dropWhile Char.isDigit = [] :=
  ⟨List.takeWhile_eq_self_iff.mpr digits, List.dropWhile_eq_nil_iff.mpr digits⟩

/-- Digits with a point among them. -/
theorem read?_pointed {whole fraction : List Char} (wholeDigits : Digits whole)
    (fractionDigits : Digits fraction) (nonempty : whole ≠ []) :
    read? (whole ++ '.' :: fraction) = some ⟨value (whole ++ fraction), -fraction.length⟩ := by
  obtain ⟨wholeTaken, wholeLeft⟩ := @span_digits whole fraction '.' wholeDigits rfl
  obtain ⟨taken, left⟩ := span_all_digits fractionDigits
  unfold read?
  simp only [wholeTaken, wholeLeft, taken, left, List.isEmpty_eq_false_iff.mpr nonempty,
    Bool.false_and, Bool.false_eq_true, ↓reduceIte]

/-- Digits with a point among them, or none, and an exponent. -/
theorem read?_scientific {whole fraction text : List Char} (wholeDigits : Digits whole)
    (fractionDigits : Digits fraction) (nonempty : whole ≠ []) {exponent : Int}
    (reads : readExponent text = some exponent) :
    read? (whole ++ (if fraction.isEmpty then [] else '.' :: fraction) ++ 'e' :: text) =
      some ⟨value (whole ++ fraction), exponent - fraction.length⟩ := by
  obtain ⟨first, later, rfl⟩ := List.exists_cons_of_ne_nil nonempty
  by_cases nothing : fraction = []
  · obtain ⟨taken, left⟩ := @span_digits _ text 'e' wholeDigits rfl
    rw [nothing, List.isEmpty_nil, if_pos rfl, List.append_nil]
    unfold read?
    simp only [taken, left]
    change (readExponent text).map
      (fun exponent => (⟨value (first :: later ++ []), exponent - 0⟩ : Decimal)) = _
    rw [reads, List.append_nil]
    rfl
  · obtain ⟨wholeTaken, wholeLeft⟩ :=
      @span_digits _ (fraction ++ 'e' :: text) '.' wholeDigits rfl
    obtain ⟨taken, left⟩ := @span_digits _ text 'e' fractionDigits rfl
    rw [List.isEmpty_eq_false_iff.mpr nothing, if_neg Bool.false_ne_true, List.append_assoc]
    change read? (first :: later ++ '.' :: (fraction ++ 'e' :: text)) = _
    unfold read?
    simp only [wholeTaken, wholeLeft, taken, left]
    change (readExponent text).map _ = _
    rw [reads]
    rfl

/-- Adding digits to a number makes it no smaller. -/
theorem le_ofDigitChars (digits : List Char) (start : Nat) :
    start ≤ Nat.ofDigitChars 10 digits start := by
  rw [Nat.ofDigitChars_eq_ofDigitChars_zero]
  exact (Nat.le_mul_of_pos_left _ (by positivity)).trans (Nat.le_add_right _ _)

/-- Exponents up to 65535 are read in full. -/
theorem exponentValue_eq {digits : List Char} (small : value digits < 65536) :
    exponentValue digits = value digits := by
  have onto (later : List Char) (start : Nat)
      (small : Nat.ofDigitChars 10 later start < 65536) :
      later.foldl (fun value c =>
        if value < 65536 then 10 * value + (c.toNat - '0'.toNat) else value) start =
        Nat.ofDigitChars 10 later start := by
    induction later generalizing start with
    | nil => rfl
    | cons c later inductionHypothesis =>
        have within := (le_ofDigitChars (c :: later) start).trans_lt small
        rw [Nat.ofDigitChars_cons] at small ⊢
        rw [List.foldl_cons, if_pos within]
        exact inductionHypothesis _ small
  exact onto digits 0 small

private theorem Digits.head_ne {c mark : Char} {text : List Char} (digits : Digits (c :: text))
    (other : mark.isDigit = false) : c ≠ mark := by
  rintro rfl
  exact digits.notMem other (.head _)

private theorem readExponent_digits {digits : List Char} (all : Digits digits)
    (nonempty : digits ≠ []) (small : value digits < 65536) :
    readExponent digits = some (value digits) ∧
      readExponent ('-' :: digits) = some (-(value digits : Int)) := by
  have checked : (digits.isEmpty || !digits.all Char.isDigit) = false := by
    rw [List.isEmpty_eq_false_iff.mpr nonempty, List.all_eq_true.mpr all]
    rfl
  constructor
  · obtain ⟨first, later, rfl⟩ := List.exists_cons_of_ne_nil nonempty
    unfold readExponent
    split
    rename_i negative digits matched
    split at matched
    · rename_i same
      exact absurd (List.cons.inj same).1 (all.head_ne rfl)
    · rename_i same
      exact absurd (List.cons.inj same).1 (all.head_ne rfl)
    · obtain ⟨rfl, rfl⟩ := Prod.mk.inj matched
      rw [checked, exponentValue_eq small]
      rfl
  · change (if (digits.isEmpty || !digits.all Char.isDigit) = true then none
      else some (-(exponentValue digits : Int))) = _
    rw [checked, exponentValue_eq small]
    rfl

/-- An exponent that is not too large reads back from its text. -/
theorem readExponent_toString {exponent : Int} (small : exponent.natAbs < 65536) :
    readExponent (toString exponent).toList = some exponent := by
  have reads := readExponent_digits (digits_toDigits exponent.natAbs) Nat.toDigits_ne_nil
    (by rwa [value_toDigits])
  rw [value_toDigits] at reads
  rw [Int.toString_eq_repr, Int.repr_eq_if]
  split
  · rw [Nat.toList_repr, show exponent.toNat = exponent.natAbs by omega, reads.1]
    exact congrArg some (by omega)
  · rw [String.toList_append, Nat.toList_repr, show (-exponent).toNat = exponent.natAbs by omega]
    refine reads.2.trans (congrArg some (by omega))

/-! ### Layouts -/

private theorem digits_digits (decimal : Decimal) : Digits decimal.digits := by
  unfold digits
  split
  · exact fun c absent => nomatch absent
  · exact digits_toDigits _

private theorem value_digits {decimal : Decimal} (nonzero : decimal.coefficient ≠ 0) :
    decimal.digits ≠ [] ∧ value decimal.digits = decimal.coefficient := by
  unfold digits
  rw [if_neg nonzero]
  exact ⟨Nat.toDigits_ne_nil, value_toDigits _⟩

private theorem length_digits {decimal : Decimal} (nonzero : decimal.coefficient ≠ 0) :
    decimal.digits.length ≤ decimal.coefficient.log2 + 1 ∧
      decimal.coefficient < 10 ^ decimal.digits.length := by
  unfold digits
  rw [if_neg nonzero]
  have positive := @Nat.length_toDigits_pos 10 decimal.coefficient
  constructor
  · refine (Nat.length_toDigits_le_iff (by decide) (Nat.succ_pos _)).mpr ?_
    exact Nat.lt_log2_self.trans_le (Nat.pow_le_pow_left (by decide) _)
  · exact (Nat.length_toDigits_le_iff (by decide) positive).mp (le_refl _)

/-- The first digit of a moderate decimal is not too far from the point for an exponent. -/
theorem point_lt {decimal : Decimal} (moderate : decimal.Moderate) :
    (decimal.point - 1).natAbs < 65536 := by
  obtain ⟨nonzero, short, low, high⟩ := moderate
  have length := (length_digits nonzero).1
  simp only [point, magnitude] at *
  omega

/-- The zeros that fill up a whole number, and the one behind its point, do not change it. -/
theorem nearestBits_filled {decimal : Decimal} (moderate : decimal.Moderate) {zeros : Nat}
    (whole : decimal.exponent = zeros) (short : decimal.point ≤ 16) :
    nearestBits ⟨10 ^ (zeros + 1) * decimal.coefficient, -1⟩ = decimal.nearestBits := by
  have nonzero : 10 ^ (zeros + 1) * decimal.coefficient ≠ 0 :=
    Nat.mul_ne_zero (by positivity) moderate.nonzero
  have below : 10 ^ (zeros + 1) * decimal.coefficient < 2 ^ 57 := by
    calc 10 ^ (zeros + 1) * decimal.coefficient
        < 10 ^ (zeros + 1) * 10 ^ decimal.digits.length :=
          Nat.mul_lt_mul_of_pos_left (length_digits moderate.nonzero).2 (by positivity)
      _ = 10 ^ (zeros + 1 + decimal.digits.length) := (pow_add _ _ _).symm
      _ ≤ 10 ^ 17 := Nat.pow_le_pow_right (by decide) (by rw [point, whole] at short; omega)
      _ ≤ 2 ^ 57 := by decide
  have length := (Nat.log2_lt nonzero).mpr below
  refine nearestBits_congr ⟨nonzero, by dsimp only; omega, ?_, ?_⟩ moderate ?_
  · simp only [magnitude]
    omega
  · simp only [magnitude]
    omega
  · change 10 ^ (zeros + 1) * decimal.coefficient * 1 * power 10 (-decimal.exponent) =
      decimal.coefficient * power 10 decimal.exponent * 10
    rw [whole, power, power, Int.toNat_neg_natCast, Int.toNat_natCast, Nat.pow_eq, Nat.pow_eq,
      pow_zero, pow_succ]
    ring

/-- What a report writes with a point reads as the same number. -/
private theorem read?_plainDigits {decimal : Decimal} (moderate : decimal.Moderate)
    (plain : NumberStyle.report.plain decimal.point = true) :
    ∃ read, read? (NumberStyle.report.plainDigits decimal.digits decimal.point) = some read ∧
      read.nearestBits = decimal.nearestBits := by
  obtain ⟨filled, reads⟩ := value_digits moderate.nonzero
  have all := digits_digits decimal
  have zero : Digits ['0'] := digits_zeros 1
  have place : decimal.point = decimal.digits.length + decimal.exponent := rfl
  have length := List.length_pos_iff.mpr filled
  unfold NumberStyle.plainDigits
  by_cases small : decimal.point ≤ 0
  · refine ⟨decimal, ?_, rfl⟩
    rw [if_pos small]
    refine (read?_pointed zero ((digits_zeros _).append all) (List.cons_ne_nil _ _)).trans ?_
    rw [value_append, value_append, value_zeros, reads, List.length_append,
      List.length_replicate]
    have exponent : -(((-decimal.point).toNat + decimal.digits.length : Nat) : Int) =
        decimal.exponent := by omega
    rw [exponent]
    simp [value]
  by_cases broken : decimal.point < decimal.digits.length
  · refine ⟨decimal, ?_, rfl⟩
    rw [if_neg small, if_pos broken, read?_pointed, List.take_append_drop, reads,
      List.length_drop]
    · have exponent : -((decimal.digits.length - decimal.point.toNat : Nat) : Int) =
        decimal.exponent := by omega
      rw [exponent]
    · exact fun c member => all c (List.mem_of_mem_take member)
    · exact fun c member => all c (List.mem_of_mem_drop member)
    · rw [← List.length_pos_iff, List.length_take]
      omega
  · -- zeros fill up to the point, so the decimal that is read has a longer coefficient
    obtain ⟨zeros, whole⟩ := Int.eq_ofNat_of_zero_le (show 0 ≤ decimal.exponent by omega)
    have filling : decimal.point.toNat - decimal.digits.length = zeros := by omega
    rw [if_neg small, if_neg broken, filling]
    refine ⟨_, read?_pointed (all.append (digits_zeros _)) zero ?_, ?_⟩
    · exact List.append_ne_nil_of_left_ne_nil filled _
    · rw [value_append, value_append, value_zeros, reads, List.length_replicate, Nat.add_zero,
        ← Nat.mul_assoc]
      refine Eq.trans ?_ (nearestBits_filled moderate whole (of_decide_eq_true plain).2)
      rw [pow_succ']
      rfl

/-- What a report says of a decimal reads as the same number. -/
theorem read?_report {decimal : Decimal} (moderate : decimal.Moderate) :
    ∃ read, read? (NumberStyle.report.decimal decimal) = some read ∧
      read.nearestBits = decimal.nearestBits := by
  unfold NumberStyle.decimal
  rw [if_neg moderate.nonzero]
  by_cases plain : NumberStyle.report.plain decimal.point = true
  · rw [if_pos plain]
    exact read?_plainDigits moderate plain
  · obtain ⟨filled, reads⟩ := value_digits moderate.nonzero
    have all := digits_digits decimal
    have place : decimal.point = decimal.digits.length + decimal.exponent := rfl
    have length := List.length_pos_iff.mpr filled
    refine ⟨decimal, ?_, rfl⟩
    rw [if_neg plain]
    refine (read?_scientific (fun c member => all c (List.mem_of_mem_take member))
      (fun c member => all c (List.mem_of_mem_drop member)) ?_
      (readExponent_toString (point_lt moderate))).trans ?_
    · rw [← List.length_pos_iff, List.length_take]
      omega
    · have exponent : decimal.point - 1 - ((decimal.digits.length - 1 : Nat) : Int) =
          decimal.exponent := by omega
      rw [List.take_append_drop, reads, List.length_drop, exponent]

end Decimal

namespace Binary64

/-- What a report says of a decimal begins with a digit. -/
theorem exists_first_digit (decimal : Decimal) :
    ∃ c later, NumberStyle.report.decimal decimal = c :: later ∧ c.isDigit = true := by
  unfold NumberStyle.decimal
  by_cases zero : decimal.coefficient = 0
  · rw [if_pos zero]
    exact ⟨_, _, rfl, rfl⟩
  · rw [if_neg zero]
    have all := Decimal.digits_digits decimal
    obtain ⟨first, later, digits⟩ := List.exists_cons_of_ne_nil (Decimal.value_digits zero).1
    rw [digits] at all ⊢
    have digit := all first (.head _)
    split
    · unfold NumberStyle.plainDigits
      split
      · exact ⟨_, _, rfl, rfl⟩
      · rename_i positive
        split
        · obtain ⟨count, place⟩ : ∃ count, decimal.point.toNat = count + 1 :=
            ⟨decimal.point.toNat - 1, by omega⟩
          rw [place]
          exact ⟨_, _, rfl, digit⟩
        · exact ⟨_, _, rfl, digit⟩
    · exact ⟨_, _, rfl, digit⟩

/-- A number is read behind its sign. -/
theorem magnitude_eq (text : List Char) :
    (match text with
      | '-' :: rest => readMagnitude true rest
      | '+' :: rest => readMagnitude false rest
      | rest => readMagnitude false rest) =
      readMagnitude (splitSign text).1 (splitSign text).2 := by
  unfold splitSign
  split <;> rfl

private theorem splitSign_sign {c : Char} (digit : c.isDigit = true) (negative : Bool)
    (later : List Char) :
    splitSign (NumberStyle.sign negative ++ c :: later) = (negative, c :: later) := by
  cases negative with
  | true => rfl
  | false => exact splitSign_of_digit digit later

private theorem read_signed {negative : Bool} {c : Char} {later : List Char} {x : Float}
    (digit : c.isDigit = true) (reads : readMagnitude negative (c :: later) = some x) :
    read (String.ofList (NumberStyle.sign negative ++ c :: later)) = .ok x := by
  have magnitude := magnitude_eq (NumberStyle.sign negative ++ c :: later)
  rw [splitSign_sign digit, reads] at magnitude
  rw [read, String.toList_ofList]
  split
  · rename_i found matched
    exact congrArg Except.ok (Option.some.inj (matched.symm.trans magnitude))
  · rename_i matched
    cases matched.symm.trans magnitude

/-- What a report says of a finite number reads as its bits. -/
theorem exists_read_finite {x : Float} {negative : Bool} {mantissa : Nat} {exponent : Int}
    (finite : ofFloat x = .finite negative mantissa exponent) :
    ∃ decimal read, NumberStyle.report.write x =
        String.ofList (NumberStyle.sign negative ++ NumberStyle.report.decimal decimal) ∧
      Decimal.read? (NumberStyle.report.decimal decimal) = some read ∧
      read.nearestBits = bits mantissa exponent := by
  have normalized := normalized_of_finite finite
  unfold NumberStyle.write
  rw [finite]
  by_cases zero : mantissa = 0
  · obtain rfl : exponent = minExponent :=
      normalized.leading.resolve_right (by rw [zero]; decide)
    simp only [zero]
    exact ⟨⟨0, 0⟩, ⟨0, -1⟩, rfl, rfl, rfl⟩
  · obtain ⟨moderate, exact⟩ := Decimal.ofBinary_reads NumberStyle.report.tie normalized zero
    obtain ⟨read, reads, same⟩ := Decimal.read?_report moderate
    simp only [if_neg zero]
    exact ⟨_, read, rfl, reads, same.trans exact⟩

/-- **Numbers survive reports.** What a report says of a number reads as that number. -/
theorem read_report (x : Float) : read (NumberStyle.report.write x) = .ok x := by
  cases stands : ofFloat x with
  | undefined =>
      rw [NumberStyle.write, stands, eq_undefined stands]
      rfl
  | infinite negative =>
      have word (negative : Bool) :
          read (String.ofList (NumberStyle.sign negative ++ "inf".toList)) =
            .ok (signed negative infinityBits) := by
        cases negative <;> rfl
      rw [NumberStyle.write, stands]
      exact (word negative).trans (congrArg Except.ok (signed_of_infinite stands))
  | finite negative mantissa exponent =>
      obtain ⟨decimal, read, text, reads, same⟩ := exists_read_finite stands
      obtain ⟨c, later, begins, digit⟩ := exists_first_digit decimal
      rw [text]
      rw [begins] at reads ⊢
      refine read_signed digit ?_
      unfold readMagnitude
      rw [reads]
      change some (signed negative read.nearestBits) = some x
      rw [same, signed_of_finite stands]

/-- What the texts of numbers in reports are made of. -/
def Character (c : Char) : Prop :=
  c.isDigit = true ∨ c ∈ ['.', '-', 'e', 'N', 'a', 'i', 'n', 'f']

private theorem character_of_digits {digits : List Char} (all : Decimal.Digits digits) :
    ∀ c ∈ digits, Character c :=
  fun c member => .inl (all c member)

private theorem character_toString (exponent : Int) :
    ∀ c ∈ (toString exponent).toList, Character c := by
  have digits := character_of_digits (Decimal.digits_toDigits exponent.natAbs)
  rw [Int.toString_eq_repr, Int.repr_eq_if]
  split
  · rw [Nat.toList_repr, show exponent.toNat = exponent.natAbs by omega]
    exact digits
  · rw [String.toList_append, Nat.toList_repr, show (-exponent).toNat = exponent.natAbs by omega]
    exact List.forall_mem_cons.mpr ⟨.inr (by decide), digits⟩

private theorem character_decimal (decimal : Decimal) :
    ∀ c ∈ NumberStyle.report.decimal decimal, Character c := by
  have digits := Decimal.digits_digits decimal
  have point : Character '.' := .inr (by decide)
  have zeros (count : Nat) := character_of_digits (Decimal.digits_zeros count)
  unfold NumberStyle.decimal
  split
  · exact List.forall_mem_cons.mpr ⟨.inl rfl, List.forall_mem_cons.mpr ⟨point, zeros 1⟩⟩
  · split
    · unfold NumberStyle.plainDigits
      split
      · refine List.forall_mem_cons.mpr ⟨.inl rfl, List.forall_mem_cons.mpr ⟨point, ?_⟩⟩
        exact List.forall_mem_append.mpr ⟨zeros _, character_of_digits digits⟩
      · split
        · refine List.forall_mem_append.mpr ⟨fun c member => ?_, List.forall_mem_cons.mpr
            ⟨point, fun c member => ?_⟩⟩
          · exact .inl (digits c (List.mem_of_mem_take member))
          · exact .inl (digits c (List.mem_of_mem_drop member))
        · refine List.forall_mem_append.mpr ⟨List.forall_mem_append.mpr
            ⟨character_of_digits digits, zeros _⟩, ?_⟩
          exact List.forall_mem_cons.mpr ⟨point, zeros 1⟩
    · refine List.forall_mem_append.mpr ⟨List.forall_mem_append.mpr ⟨fun c member => ?_, ?_⟩, ?_⟩
      · exact .inl (digits c (List.mem_of_mem_take member))
      · split
        · exact fun c absent => nomatch absent
        · exact List.forall_mem_cons.mpr
            ⟨point, fun c member => .inl (digits c (List.mem_of_mem_drop member))⟩
      · exact List.forall_mem_cons.mpr ⟨.inr (by decide), character_toString _⟩

/-- The text of a number in a report is made of digits, letters, points and signs. -/
theorem character_report (x : Float) : ∀ c ∈ (NumberStyle.report.write x).toList, Character c := by
  have sign (negative : Bool) : ∀ c ∈ NumberStyle.sign negative, Character c := by
    cases negative with
    | true => exact List.forall_mem_singleton.mpr (.inr (by decide))
    | false => exact fun c absent => nomatch absent
  cases stands : ofFloat x with
  | undefined =>
      rw [NumberStyle.write, stands]
      change ∀ c ∈ ['N', 'a', 'N'], Character c
      exact fun c member => .inr ((by decide : ['N', 'a', 'N'] ⊆ _) member)
  | infinite negative =>
      rw [NumberStyle.write, stands]
      change ∀ c ∈ (String.ofList (NumberStyle.sign negative ++ ['i', 'n', 'f'])).toList,
        Character c
      rw [String.toList_ofList]
      exact List.forall_mem_append.mpr ⟨sign negative,
        fun c member => .inr ((by decide : ['i', 'n', 'f'] ⊆ _) member)⟩
  | finite negative mantissa exponent =>
      obtain ⟨decimal, -, text, -⟩ := exists_read_finite stands
      rw [text, String.toList_ofList]
      exact List.forall_mem_append.mpr ⟨sign negative, character_decimal decimal⟩

end Binary64

end Renko
