import Mathlib
import Renko.Proofs.Calendar
import Renko.Tick

/-! # The text of a time

Numbers of a fixed width are ordered as texts, and so are the times that are made of them.
-/

/-! ## Numerals of a width

A number that is padded to a width has as many digits as the width asks for, or more, and then no
zero in front (`Renko.Decimal.numeral_padded`). Numbers that fit a width come as texts in their own
order (`Renko.Decimal.padded_append_lt_iff`).
-/

namespace Renko

/-- Texts of one length come in the order of their beginnings, and then of what follows. -/
theorem Text.append_lt_append_iff {first second : List Char}
    (length : first.length = second.length) (later rest : List Char) :
    first ++ later < second ++ rest ↔ first < second ∨ first = second ∧ later < rest := by
  induction first generalizing second with
  | nil =>
      obtain rfl := List.length_eq_zero_iff.mp length.symm
      simp
  | cons c first inductionHypothesis =>
      cases second with
      | nil => cases length
      | cons d second =>
          rw [List.cons_append, List.cons_append, List.cons_lt_cons_iff, List.cons_lt_cons_iff,
            inductionHypothesis (Nat.succ.inj length), List.cons.injEq]
          tauto

namespace Decimal

/-- What a digit stands for. -/
def digitValue (c : Char) : Nat := c.toNat - '0'.toNat

private theorem toNat_of_digit {c : Char} (digit : c.isDigit = true) :
    c.toNat = 48 + digitValue c ∧ digitValue c ≤ 9 := by
  have bounds : 48 ≤ c.toNat ∧ c.toNat ≤ 57 := by
    simpa [Char.isDigit, UInt32.le_iff_toNat_le] using digit
  have zero : '0'.toNat = 48 := rfl
  unfold digitValue
  omega

private theorem value_cons (c : Char) (digits : List Char) :
    value (c :: digits) = 10 ^ digits.length * digitValue c + value digits := by
  have single : value [c] = digitValue c := Nat.zero_add _
  rw [← single, ← value_append, List.singleton_append]

/-- Digits stand for less than the power of ten with as many zeros. -/
theorem value_lt {digits : List Char} (all : Digits digits) :
    value digits < 10 ^ digits.length := by
  induction digits with
  | nil => exact Nat.one_pos
  | cons c digits inductionHypothesis =>
      obtain ⟨digit, later⟩ := List.forall_mem_cons.mp all
      rw [value_cons, List.length_cons]
      calc 10 ^ digits.length * digitValue c + value digits
          < 10 ^ digits.length * digitValue c + 10 ^ digits.length :=
            Nat.add_lt_add_left (inductionHypothesis later) _
        _ = 10 ^ digits.length * (digitValue c + 1) := rfl
        _ ≤ 10 ^ digits.length * 10 :=
            Nat.mul_le_mul_left _ (Nat.succ_le_succ (toNat_of_digit digit).2)

/-- A leading figure weighs more than all that follows it. -/
theorem mul_add_lt_mul_add_iff {scale first second low other : Nat} (within : low < scale)
    (inside : other < scale) : scale * first + low < scale * second + other ↔
      first < second ∨ first = second ∧ low < other := by
  have heavier {less more : Nat} (below : less < more) : scale * less + scale ≤ scale * more :=
    Nat.mul_le_mul_left scale below
  rcases lt_trichotomy first second with below | rfl | above
  · have := heavier below
    omega
  · omega
  · have := heavier above
    omega

/-- Digits of one length come in the order of the numbers they stand for. -/
theorem lt_iff_value_lt {first second : List Char} (firstDigits : Digits first)
    (secondDigits : Digits second) (length : first.length = second.length) :
    first < second ↔ value first < value second := by
  induction first generalizing second with
  | nil =>
      obtain rfl := List.length_eq_zero_iff.mp length.symm
      simp
  | cons c first inductionHypothesis =>
      cases second with
      | nil => cases length
      | cons d second =>
          obtain ⟨digit, later⟩ := List.forall_mem_cons.mp firstDigits
          obtain ⟨otherDigit, otherLater⟩ := List.forall_mem_cons.mp secondDigits
          have same : first.length = second.length := Nat.succ.inj length
          have onto : c < d ↔ digitValue c < digitValue d := by
            have := (toNat_of_digit digit).1
            have := (toNat_of_digit otherDigit).1
            change c.toNat < d.toNat ↔ _
            omega
          have equal : c = d ↔ digitValue c = digitValue d := by
            have := (toNat_of_digit digit).1
            have := (toNat_of_digit otherDigit).1
            rw [← Char.toNat_inj]
            omega
          rw [List.cons_lt_cons_iff, inductionHypothesis later otherLater same, onto, equal,
            value_cons, value_cons, same,
            mul_add_lt_mul_add_iff (same ▸ value_lt later) (value_lt otherLater)]

/-- A number in digits: as many as a width asks for, or more, and then no zero in front. -/
structure Numeral (width number : Nat) (text : List Char) : Prop where
  digits : Digits text
  value : value text = number
  long : width ≤ text.length
  short : width < text.length → text.head? ≠ some '0'

private theorem head_toDigits {number : Nat} (more : 1 < (Nat.toDigits 10 number).length) :
    (Nat.toDigits 10 number).head? ≠ some '0' := by
  intro zero
  obtain ⟨later, split⟩ := List.head?_eq_some_iff.mp zero
  have all := digits_toDigits number
  have written := value_toDigits number
  rw [split] at all written more
  have none : digitValue '0' = 0 := rfl
  rw [value_cons, none, Nat.mul_zero, Nat.zero_add] at written
  have few := value_lt (List.forall_mem_cons.mp all).2
  rw [written] at few
  have long := (Nat.length_toDigits_le_iff (by decide) (Nat.lt_of_succ_lt_succ more)).mpr few
  rw [split] at long
  exact absurd long (Nat.not_succ_le_self _)

private theorem value_padded (width number : Nat) :
    value (Instant.padded width number).toList = number := by
  obtain ⟨digits, reads⟩ := Instant.padded_reads width number
  rw [whole?_of_digits digits (Instant.padded_ne_nil width number)] at reads
  exact Option.some.inj reads

private theorem toList_padded (width number : Nat) : (Instant.padded width number).toList =
    List.replicate (width - (Nat.toDigits 10 number).length) '0' ++ Nat.toDigits 10 number := by
  rw [Instant.padded, String.toList_ofList]

/-- A padded number is a numeral of its width. -/
theorem numeral_padded {width : Nat} (positive : 0 < width) (number : Nat) :
    Numeral width number (Instant.padded width number).toList := by
  refine ⟨(Instant.padded_reads width number).1, value_padded width number, ?_, ?_⟩
  · rw [toList_padded, List.length_append, List.length_replicate]
    omega
  · intro longer
    have unpadded : width - (Nat.toDigits 10 number).length = 0 := by
      rw [toList_padded, List.length_append, List.length_replicate] at longer
      omega
    rw [toList_padded, unpadded, List.replicate_zero, List.nil_append] at longer ⊢
    exact head_toDigits ((Nat.succ_le_of_lt positive).trans_lt longer)

/-- A number that fits a width has just as many digits. -/
theorem Numeral.length_eq {width number : Nat} {text : List Char}
    (numeral : Numeral width number text) (fits : number < 10 ^ width) : text.length = width := by
  refine le_antisymm (not_lt.mp fun longer => ?_) numeral.long
  have leads := numeral.short longer
  have all := numeral.digits
  have written := numeral.value
  cases text with
  | nil => exact absurd longer (Nat.not_lt_zero width)
  | cons c later =>
      have counts : digitValue c ≠ 0 := by
        intro nothing
        have zero := (toNat_of_digit (all c (.head _))).1
        rw [nothing] at zero
        exact leads (congrArg some (Char.toNat_inj.mp zero))
      rw [value_cons] at written
      have heavy : 10 ^ width ≤ number := by
        calc 10 ^ width ≤ 10 ^ later.length :=
              Nat.pow_le_pow_right (by decide) (Nat.le_of_lt_succ longer)
          _ ≤ 10 ^ later.length * digitValue c :=
              Nat.le_mul_of_pos_right _ (Nat.pos_of_ne_zero counts)
          _ ≤ number := written ▸ Nat.le_add_right _ _
      exact absurd fits (not_lt.mpr heavy)

/-- Padded to a width that they fit, numbers come as texts in their own order. -/
theorem padded_append_lt_iff {width first second : Nat} (positive : 0 < width)
    (fits : first < 10 ^ width) (fitsToo : second < 10 ^ width) (later rest : List Char) :
    (Instant.padded width first).toList ++ later < (Instant.padded width second).toList ++ rest ↔
      first < second ∨ first = second ∧ later < rest := by
  have one := numeral_padded positive first
  have other := numeral_padded positive second
  have length := (one.length_eq fits).trans (other.length_eq fitsToo).symm
  have same : (Instant.padded width first).toList = (Instant.padded width second).toList ↔
      first = second := by
    refine ⟨fun same => ?_, fun same => same ▸ rfl⟩
    rw [← one.value, same, other.value]
  rw [Text.append_lt_append_iff length, lt_iff_value_lt one.digits other.digits length, one.value,
    other.value, same]

end Decimal

/-! ## What the text of a time says

The text of a time is its date in the calendar and its time of day, written as numbers between marks
(`Renko.Instant.told`). From year 0 to year 9999 all of them have the same length, and they are
ordered as texts like the times they tell (`Renko.Instant.text_lt_text_iff`).
-/

open Decimal (Numeral numeral_padded padded_append_lt_iff)

/-- A time of day. -/
structure Clock where
  hour : Nat
  minute : Nat
  second : Nat
  ms : Nat

namespace Clock

/-- The times of day that a clock shows. -/
structure Real (clock : Clock) : Prop where
  hour : clock.hour < 24
  minute : clock.minute < 60
  second : clock.second < 60
  ms : clock.ms < 1000

/-- The milliseconds since midnight. -/
def millis (clock : Clock) : Nat :=
  ((clock.hour * 60 + clock.minute) * 60 + clock.second) * 1000 + clock.ms

def ofMillis (ms : Nat) : Clock :=
  ⟨ms / 3600000, ms / 60000 % 60, ms / 1000 % 60, ms % 1000⟩

/-- A time of day reads back from its parts. -/
theorem millis_ofMillis (ms : Nat) : (ofMillis ms).millis = ms := by
  unfold millis ofMillis
  dsimp only
  omega

/-- The time of day is that of a clock. -/
theorem real_ofMillis {ms : Nat} (within : ms < 86400000) : (ofMillis ms).Real := by
  refine ⟨?_, ?_, ?_, ?_⟩ <;> dsimp only [ofMillis] <;> omega

end Clock

namespace Instant

def date (time : Instant) : Date := .ofDayNumber (time.millis / 86400000)

def clock (time : Instant) : Clock := .ofMillis (time.millis % 86400000).toNat

/-- How a date and a time of day are written: a sign, if the year is below zero or has more than
four digits, and numbers between marks. -/
inductive Stamp (date : Date) (clock : Clock) : List Char → Prop
  | written {year month day hour minute second ms : List Char}
      (inYear : Numeral 4 date.year.natAbs year) (inMonth : Numeral 2 date.month month)
      (inDay : Numeral 2 date.day day) (inHour : Numeral 2 clock.hour hour)
      (inMinute : Numeral 2 clock.minute minute) (inSecond : Numeral 2 clock.second second)
      (inMs : Numeral 3 clock.ms ms) :
      Stamp date clock (yearSign date.year ++ year ++ '-' :: (month ++ '-' :: day) ++
        ' ' :: (hour ++ ':' :: (minute ++ ':' :: (second ++ '.' :: ms))))

/-- What the text of a time tells: a date that the calendar has and a time of day, which together
are the millisecond of the time. It is read back from them. -/
structure Told (time : Instant) : Prop where
  date : time.date.Real
  clock : time.clock.Real
  millis : time.millis = time.date.dayNumber * 86400000 + time.clock.millis
  written : Stamp time.date time.clock time.text.toList
  reads : read? time.text.toList = some (.ofMillis time.millis)

/-- **The text of a time tells its date and its time of day.** -/
theorem told (time : Instant) : time.Told := by
  have within : (time.millis % 86400000).toNat < 86400000 := by omega
  refine ⟨Date.real_iff_exists.mpr ⟨_, rfl⟩, Clock.real_ofMillis within, ?_, ?_, read?_text time⟩
  · rw [date, clock, Date.dayNumber_ofDayNumber, Clock.millis_ofMillis]
    omega
  · have two : 0 < 2 := by decide
    rw [toList_text, dateText, toList_yearText]
    exact .written (numeral_padded (by decide) _) (numeral_padded two _) (numeral_padded two _)
      (numeral_padded two _) (numeral_padded two _) (numeral_padded two _)
      (numeral_padded (by decide) _)

/-- Times have the same text if they lie in the same millisecond, and only then. -/
theorem text_eq_text_iff {first second : Instant} :
    first.text = second.text ↔ first.millis = second.millis := by
  constructor
  · intro same
    have reads := read?_text first
    rw [same, read?_text] at reads
    have starts := congrArg millis (Option.some.inj reads)
    rwa [millis_ofMillis, millis_ofMillis, eq_comm] at starts
  · intro same
    rw [text, text, same]

/-! ### The order of texts -/

/-- Years that are written with four digits and no sign. -/
def FourDigits (year : Int) : Prop := 0 ≤ year ∧ year ≤ 9999

instance (year : Int) : Decidable (FourDigits year) := inferInstanceAs (Decidable (_ ∧ _))

private theorem dateText_append {date : Date} (four : FourDigits date.year) (later : List Char) :
    dateText date ++ later = (padded 4 date.year.natAbs).toList ++ '-' ::
      ((padded 2 date.month).toList ++ '-' :: ((padded 2 date.day).toList ++ later)) := by
  have unsigned : yearSign date.year = [] := by
    rw [yearSign, if_neg (not_lt.mpr four.1), if_pos four.2]
  rw [dateText, toList_yearText, unsigned, List.nil_append, List.append_assoc, List.cons_append,
    List.append_assoc, List.cons_append]

/-- Dates come as texts in their own order. -/
theorem dateText_append_lt_iff {first second : Date} (real : first.Real) (realToo : second.Real)
    (four : FourDigits first.year) (fourToo : FourDigits second.year) (later rest : List Char) :
    dateText first ++ later < dateText second ++ rest ↔
      first.key < second.key ∨ first = second ∧ later < rest := by
  have ofYears : (first.year.natAbs < 10 ^ 4 ∧ second.year.natAbs < 10 ^ 4) ∧
      (first.year.natAbs < second.year.natAbs ↔ first.year < second.year) ∧
      (first.year.natAbs = second.year.natAbs ↔ first.year = second.year) := by
    unfold FourDigits at four fourToo
    omega
  have ofMonths : first.month < 10 ^ 2 ∧ second.month < 10 ^ 2 :=
    ⟨real.month.2.trans_lt (by decide), realToo.month.2.trans_lt (by decide)⟩
  have ofDays : first.day < 10 ^ 2 ∧ second.day < 10 ^ 2 :=
    ⟨(real.day.2.trans (Date.daysOf_le _ _)).trans_lt (by decide),
      (realToo.day.2.trans (Date.daysOf_le _ _)).trans_lt (by decide)⟩
  rw [dateText_append four, dateText_append fourToo,
    padded_append_lt_iff (by decide) ofYears.1.1 ofYears.1.2, List.cons_lt_cons_self,
    padded_append_lt_iff (by decide) ofMonths.1 ofMonths.2, List.cons_lt_cons_self,
    padded_append_lt_iff (by decide) ofDays.1 ofDays.2, ofYears.2.1, ofYears.2.2]
  obtain ⟨year, month, day⟩ := first
  obtain ⟨otherYear, otherMonth, otherDay⟩ := second
  simp only [Date.key, Prod.Lex.toLex_lt_toLex, Date.mk.injEq]
  tauto

/-- Times of day are in the order of their texts. -/
theorem clockText_lt_iff {first second : Nat} (within : first < 86400000)
    (inside : second < 86400000) : clockText first < clockText second ↔ first < second := by
  unfold clockText
  rw [padded_append_lt_iff (by decide) (by omega) (by omega), List.cons_lt_cons_self,
    padded_append_lt_iff (by decide) (by omega) (by omega), List.cons_lt_cons_self,
    padded_append_lt_iff (by decide) (by omega) (by omega), List.cons_lt_cons_self,
    ← List.append_nil (padded 3 (first % 1000)).toList,
    ← List.append_nil (padded 3 (second % 1000)).toList,
    padded_append_lt_iff (by decide) (by omega) (by omega)]
  simp only [lt_irrefl, and_false, or_false]
  omega

/-- From year 0 to year 9999 times come as texts in their own order. -/
theorem text_lt_text_iff {first second : Instant} (four : FourDigits first.date.year)
    (fourToo : FourDigits second.date.year) :
    first.text < second.text ↔ first.millis < second.millis := by
  have earlier : first.date.key < second.date.key ↔
      first.millis / 86400000 < second.millis / 86400000 := Date.strictMono_ofDayNumber.lt_iff_lt
  have sameDay : first.date = second.date ↔
      first.millis / 86400000 = second.millis / 86400000 := by
    refine ⟨fun same => ?_, fun same => congrArg Date.ofDayNumber same⟩
    have days := congrArg Date.dayNumber same
    rwa [date, date, Date.dayNumber_ofDayNumber, Date.dayNumber_ofDayNumber] at days
  rw [String.lt_iff, toList_text, toList_text, ← date, ← date,
    dateText_append_lt_iff first.told.date second.told.date four fourToo, List.cons_lt_cons_self,
    clockText_lt_iff (by omega) (by omega), earlier, sameDay]
  -- the day decides, and within one day the time of day
  omega

private theorem isSome_ofMillis? {ms : Int} :
    (ofMillis? ms).isSome = true ↔ firstMillis ≤ ms ∧ ms ≤ lastMillis := by
  unfold ofMillis?
  by_cases reached : firstMillis ≤ ms ∧ ms ≤ lastMillis
  · rw [if_pos reached]
    exact iff_of_true rfl reached
  · rw [if_neg reached]
    exact iff_of_false Bool.false_ne_true reached

/-- The milliseconds that the calendar reaches are those of the years it has. -/
theorem reached_iff (ms : Int) :
    firstMillis ≤ ms ∧ ms ≤ lastMillis ↔
      -262143 ≤ (ofMillis ms).date.year ∧ (ofMillis ms).date.year ≤ 262142 := by
  have first : (ofMillis firstMillis).date = ⟨-262143, 1, 1⟩ := by decide +kernel
  have last : (ofMillis lastMillis).date = ⟨262142, 12, 31⟩ := by decide +kernel
  have real := (ofMillis ms).told.date
  rw [← (real.key_bounds _).1, ← (real.key_bounds _).2, ← first, ← last, date, date, date]
  simp only [Date.strictMono_ofDayNumber.le_iff_le, millis_ofMillis, firstMillis, lastMillis]
  omega

/-- **Texts tell times.** Days are counted along the calendar. A millisecond has a tick if the
calendar has its year, and the tick is stamped with it. The text of any time tells its date and its
time of day, from which its millisecond is read back; so times of different milliseconds have
different texts, and nanoseconds do not show. Times in years of four digits come as texts in their
own order. -/
theorem texts_tell_times :
    ((⟨1970, 1, 1⟩ : Date).Real ∧ (⟨1970, 1, 1⟩ : Date).dayNumber = 0 ∧
      ∀ date : Date, date.Real → date.next.Real ∧ date.next.dayNumber = date.dayNumber + 1) ∧
    (∀ (ms : Int) (price volume : Float),
      ((Tick.ofMillis? ms price volume).isSome = true ↔ firstMillis ≤ ms ∧ ms ≤ lastMillis) ∧
      (firstMillis ≤ ms ∧ ms ≤ lastMillis ↔
        -262143 ≤ (ofMillis ms).date.year ∧ (ofMillis ms).date.year ≤ 262142) ∧
      ∀ tick ∈ Tick.ofMillis? ms price volume,
        tick = ⟨ofMillis ms, price, volume⟩ ∧ tick.time.millis = ms ∧ tick.time.Told) ∧
    (∀ first second : Instant, first.text = second.text ↔ first.millis = second.millis) ∧
    (∀ ms ns : Int, 0 ≤ ns → ns < 1000000 →
      (⟨ms * 1000000 + ns⟩ : Instant).Told ∧
        (⟨ms * 1000000 + ns⟩ : Instant).text = (ofMillis ms).text) ∧
    ∀ first second : Instant, FourDigits first.date.year → FourDigits second.date.year →
      (first.text < second.text ↔ first.millis < second.millis) := by
  refine ⟨⟨⟨by decide, by decide⟩, by decide, fun date real => real.dayNumber_next⟩, ?_, ?_, ?_, ?_⟩
  · intro ms price volume
    refine ⟨?_, reached_iff ms, ?_⟩
    · rw [Tick.ofMillis?, Option.isSome_map]
      exact isSome_ofMillis?
    · intro tick made
      obtain ⟨time, stamped, rfl⟩ := Option.map_eq_some_iff.mp made
      obtain ⟨-, -, rfl⟩ := ofMillis?_eq_some_iff.mp stamped
      exact ⟨rfl, millis_ofMillis ms, told _⟩
  · exact fun first second => text_eq_text_iff
  · intro ms ns positive below
    refine ⟨told _, text_eq_text_iff.mpr ?_⟩
    rw [millis_ofMillis]
    change (ms * 1000000 + ns) / 1000000 = ms
    omega
  · exact fun first second four fourToo => text_lt_text_iff four fourToo

/-- The last millisecond before 1970, the last nanosecond of a leap day, and the day after it. -/
theorem texts_tell_times_of_leap_day :
    let leapDay : Date := ⟨2000, 2, 29⟩
    let eve : Tick Float := ⟨ofMillis (-1), 1.5, 2⟩
    let ends : Instant := ⟨951868799999 * 1000000 + 999999⟩
    (leapDay.Real ∧ leapDay.next = ⟨2000, 3, 1⟩ ∧
      leapDay.next.Real ∧ leapDay.next.dayNumber = leapDay.dayNumber + 1) ∧
    (eve ∈ Tick.ofMillis? (-1) (1.5 : Float) 2 ∧ eve.time.text = "1969-12-31 23:59:59.999" ∧
      eve.time.Told) ∧
    ((0 : Int) ≤ 999999 ∧ (999999 : Int) < 1000000 ∧
      ends.text = (ofMillis 951868799999).text) ∧
    FourDigits eve.time.date.year ∧ FourDigits ends.date.year ∧
      (eve.time.text < ends.text ↔ eve.time.millis < ends.millis) := by
  intro leapDay eve ends
  have real : leapDay.Real := ⟨by decide, by decide⟩
  have made : eve ∈ Tick.ofMillis? (-1) (1.5 : Float) 2 := rfl
  have four : FourDigits eve.time.date.year := by decide +kernel
  have fourToo : FourDigits ends.date.year := by decide +kernel
  obtain ⟨⟨-, -, follows⟩, made_iff, -, floors, orders⟩ := texts_tell_times
  obtain ⟨-, -, told⟩ := (made_iff (-1) 1.5 2).2.2 eve made
  exact ⟨⟨real, by decide, follows leapDay real⟩, ⟨made, by decide +kernel, told⟩,
    ⟨by decide, by decide, (floors 951868799999 999999 (by decide) (by decide)).2⟩,
    four, fourToo, orders eve.time ends four fourToo⟩

end Instant

end Renko
