import Mathlib
import Renko.Calendar
import Renko.Proofs.Number.Text

/-! # The calendar

Dates and times are read back from what is written of them, and the dates are those of the calendar.
-/

/-! ## Dates and times read back

Every day has a date whose day it is (`Renko.Date.dayNumber_ofDayNumber`), in any year. The text of
an instant is made of numbers between marks, and reads as the start of the millisecond the instant
lies in (`Renko.Instant.read?_text`).
-/

namespace Renko

namespace Date

/-- The centuries and the years past them that a day is reckoned in. -/
theorem exists_yearAndDay (day : Nat) : ∃ century ofCentury year,
    min (day / 36524) 3 = century ∧ day - century * 36524 = ofCentury ∧
      min (ofCentury % 1461 / 365) 3 = year ∧
      yearAndDay day =
        (century * 100 + ofCentury / 1461 * 4 + year, ofCentury % 1461 - year * 365) :=
  ⟨_, _, _, rfl, rfl, rfl, rfl⟩

/-- The days before a year that starts in March, counted from the start of its 400 years, and the
day of the year add up to the day. -/
theorem yearAndDay_sound {day : Nat} (within : day < 146097) :
    (yearAndDay day).1 < 400 ∧ (yearAndDay day).2 < 366 ∧
      (yearAndDay day).1 * 365 + (yearAndDay day).1 / 4 - (yearAndDay day).1 / 100 +
        (yearAndDay day).2 = day := by
  obtain ⟨century, ofCentury, year, hundreds, left, years, split⟩ := exists_yearAndDay day
  rw [split]
  have fours : (century * 100 + ofCentury / 1461 * 4 + year) / 4 =
      century * 25 + ofCentury / 1461 := by omega
  have centuries : (century * 100 + ofCentury / 1461 * 4 + year) / 100 = century := by omega
  dsimp only
  rw [fours, centuries]
  omega

/-- Every day is the day of its date. -/
theorem dayNumber_ofDayNumber (number : Int) : (ofDayNumber number).dayNumber = number := by
  obtain ⟨yearBound, dayBound, sum⟩ :=
    @yearAndDay_sound ((number + epochDay) % 146097).toNat (by omega)
  obtain ⟨⟨year, day⟩, split⟩ : ∃ both, yearAndDay ((number + epochDay) % 146097).toNat = both :=
    ⟨_, rfl⟩
  rw [split] at yearBound dayBound sum
  unfold dayNumber ofDayNumber
  simp only [split, epochDay] at *
  have era : ((number + 719468) / 146097 * 400 + year) / 400 = (number + 719468) / 146097 := by
    omega
  have ofEra : (((number + 719468) / 146097 * 400 + year) % 400).toNat = year := by omega
  have past : (153 * ((5 * day + 2) / 153) + 2) / 5 ≤ day := by omega
  by_cases early : (5 * day + 2) / 153 < 10
  · have march : ¬(5 * day + 2) / 153 + 3 ≤ 2 := by omega
    simp only [early, march, ↓reduceIte, add_zero, Nat.add_sub_cancel, era, ofEra]
    omega
  · have january : (5 * day + 2) / 153 - 9 ≤ 2 := by omega
    simp only [early, january, ↓reduceIte, add_sub_cancel_right, era, ofEra,
      Nat.sub_add_cancel (not_lt.mp early |>.trans' (by decide : 9 ≤ 10))]
    omega

end Date

/-- Reads a date: a year, perhaps with a sign, a month and a day. -/
def Date.read? (text : List Char) : Option Date :=
  let (negative, digits) := splitSign text
  match digits.splitOn '-' with
  | [year, month, day] => do
    let year ← Decimal.whole? year
    let month ← Decimal.whole? month
    let day ← Decimal.whole? day
    return ⟨if negative then -(year : Int) else year, month, day⟩
  | _ => none

namespace Instant

open Decimal (Digits whole?)

/-- Reads a time of day, in milliseconds. -/
def clock? (text : List Char) : Option Nat :=
  match text.splitOn ':' with
  | [hour, minute, second] =>
    match second.splitOn '.' with
    | [second, ms] => do
      let hour ← whole? hour
      let minute ← whole? minute
      let second ← whole? second
      let ms ← whole? ms
      return ((hour * 60 + minute) * 60 + second) * 1000 + ms
    | _ => none
  | _ => none

/-- Reads the text of an instant. -/
def read? (text : List Char) : Option Instant :=
  match text.splitOn ' ' with
  | [date, clock] => do
    let date ← Date.read? date
    let ms ← clock? clock
    return ofMillis (date.dayNumber * 86400000 + ms)
  | _ => none

/-- A padded number is never empty. -/
theorem padded_ne_nil (width number : Nat) : (padded width number).toList ≠ [] := by
  rw [padded, String.toList_ofList]
  exact List.append_ne_nil_of_right_ne_nil _ Nat.toDigits_ne_nil

/-- A padded number is made of digits and reads as the number. -/
theorem padded_reads (width number : Nat) :
    Digits (padded width number).toList ∧ whole? (padded width number).toList = some number := by
  have digits : Digits (padded width number).toList := by
    rw [padded, String.toList_ofList]
    exact (Decimal.digits_zeros _).append (Decimal.digits_toDigits number)
  refine ⟨digits, ?_⟩
  rw [Decimal.whole?_of_digits digits (padded_ne_nil width number), padded, String.toList_ofList,
    Decimal.value_append, Decimal.value_zeros, Decimal.value_toDigits, Nat.mul_zero, Nat.zero_add]

/-- The sign in front of a year. -/
def yearSign (year : Int) : List Char :=
  if year < 0 then ['-'] else if year ≤ 9999 then [] else ['+']

/-- A year is written as a sign, should it need one, and four digits or more. -/
theorem toList_yearText (year : Int) :
    (yearText year).toList = yearSign year ++ (padded 4 year.natAbs).toList := by
  have minus : "-".toList = ['-'] := rfl
  have plus : "+".toList = ['+'] := rfl
  unfold yearText yearSign
  split
  · rw [String.toList_append, minus]
  · split
    · rw [List.nil_append]
    · rw [String.toList_append, plus]

/-- The text of a date. -/
def dateText (date : Date) : List Char :=
  (yearText date.year).toList ++ '-' :: ((padded 2 date.month).toList ++
    '-' :: (padded 2 date.day).toList)

/-- The text of a time of day. -/
def clockText (ms : Nat) : List Char :=
  (padded 2 (ms / 3600000)).toList ++ ':' :: ((padded 2 (ms / 60000 % 60)).toList ++
    ':' :: ((padded 2 (ms / 1000 % 60)).toList ++ '.' :: (padded 3 (ms % 1000)).toList))

/-- The text of an instant is that of its date and that of its time of day. -/
theorem toList_text (time : Instant) :
    time.text.toList = dateText (.ofDayNumber (time.millis / 86400000)) ++
      ' ' :: clockText (time.millis % 86400000).toNat := by
  have dash : "-".toList = ['-'] := rfl
  have blank : " ".toList = [' '] := rfl
  have colon : ":".toList = [':'] := rfl
  have point : ".".toList = ['.'] := rfl
  simp only [text, String.toList_append, dash, blank, colon, point, dateText, clockText,
    List.append_assoc, List.cons_append, List.nil_append]

private theorem character_dateText (date : Date) :
    ∀ c ∈ dateText date, c.isDigit = true ∨ c ∈ ['-', '+'] := by
  have digits (width number : Nat) : ∀ c ∈ (padded width number).toList,
      c.isDigit = true ∨ c ∈ ['-', '+'] :=
    fun c member => .inl ((padded_reads width number).1 c member)
  have sign : ∀ c ∈ yearSign date.year, c.isDigit = true ∨ c ∈ ['-', '+'] := by
    unfold yearSign
    split
    · exact List.forall_mem_singleton.mpr (.inr (by decide))
    · split
      · exact fun c absent => nomatch absent
      · exact List.forall_mem_singleton.mpr (.inr (by decide))
  have dash : '-'.isDigit = true ∨ '-' ∈ ['-', '+'] := .inr (by decide)
  rw [dateText, toList_yearText]
  refine List.forall_mem_append.mpr ⟨List.forall_mem_append.mpr ⟨sign, digits _ _⟩, ?_⟩
  refine List.forall_mem_cons.mpr ⟨dash, List.forall_mem_append.mpr ⟨digits _ _, ?_⟩⟩
  exact List.forall_mem_cons.mpr ⟨dash, digits _ _⟩

private theorem character_clockText (ms : Nat) :
    ∀ c ∈ clockText ms, c.isDigit = true ∨ c ∈ [':', '.'] := by
  have digits (width number : Nat) : ∀ c ∈ (padded width number).toList,
      c.isDigit = true ∨ c ∈ [':', '.'] :=
    fun c member => .inl ((padded_reads width number).1 c member)
  have colon : ':'.isDigit = true ∨ ':' ∈ [':', '.'] := .inr (by decide)
  have point : '.'.isDigit = true ∨ '.' ∈ [':', '.'] := .inr (by decide)
  rw [clockText]
  refine List.forall_mem_append.mpr ⟨digits _ _, ?_⟩
  refine List.forall_mem_cons.mpr ⟨colon, List.forall_mem_append.mpr ⟨digits _ _, ?_⟩⟩
  refine List.forall_mem_cons.mpr ⟨colon, List.forall_mem_append.mpr ⟨digits _ _, ?_⟩⟩
  exact List.forall_mem_cons.mpr ⟨point, digits _ _⟩

/-- The text of an instant has no other marks than those of its date and of its time of day. -/
theorem character_text (time : Instant) :
    ∀ c ∈ time.text.toList, c.isDigit = true ∨ c ∈ ['-', '+', ' ', ':', '.'] := by
  rw [toList_text]
  refine List.forall_mem_append.mpr ⟨fun c member => ?_, List.forall_mem_cons.mpr
    ⟨.inr (by decide), fun c member => ?_⟩⟩
  · exact (character_dateText _ c member).imp_right fun mark => List.mem_append_left _ mark
  · exact (character_clockText _ c member).imp_right fun mark =>
      List.mem_append_right ['-', '+', ' '] mark

/-- A date reads back from its text. -/
theorem read?_dateText (date : Date) : Date.read? (dateText date) = some date := by
  obtain ⟨year, reads⟩ := padded_reads 4 date.year.natAbs
  obtain ⟨month, readsMonth⟩ := padded_reads 2 date.month
  obtain ⟨day, readsDay⟩ := padded_reads 2 date.day
  have pieces : List.splitOn '-' ((padded 4 date.year.natAbs).toList ++
      '-' :: ((padded 2 date.month).toList ++ '-' :: (padded 2 date.day).toList)) =
      [(padded 4 date.year.natAbs).toList, (padded 2 date.month).toList,
        (padded 2 date.day).toList] := by
    rw [List.splitOn_append_cons_self_of_not_mem (year.notMem rfl),
      List.splitOn_append_cons_self_of_not_mem (month.notMem rfl),
      List.splitOn_eq_singleton (day.notMem rfl)]
  have sign : splitSign (yearSign date.year ++ ((padded 4 date.year.natAbs).toList ++
      '-' :: ((padded 2 date.month).toList ++ '-' :: (padded 2 date.day).toList))) =
      (decide (date.year < 0), (padded 4 date.year.natAbs).toList ++
        '-' :: ((padded 2 date.month).toList ++ '-' :: (padded 2 date.day).toList)) := by
    by_cases negative : date.year < 0
    · rw [yearSign, if_pos negative, decide_eq_true negative, List.singleton_append,
        splitSign_minus]
    · rw [yearSign, if_neg negative, decide_eq_false negative]
      by_cases four : date.year ≤ 9999
      · rw [if_pos four]
        obtain ⟨c, rest, digits⟩ := List.exists_cons_of_ne_nil (padded_ne_nil 4 date.year.natAbs)
        rw [digits] at year ⊢
        exact splitSign_of_digit (year c (.head _)) _
      · rw [if_neg four, List.singleton_append, splitSign_plus]
  unfold Date.read? dateText
  rw [toList_yearText, List.append_assoc, sign]
  dsimp only
  rw [pieces]
  dsimp only
  rw [reads, readsMonth, readsDay]
  refine congrArg some ?_
  rw [Date.mk.injEq]
  refine ⟨?_, rfl, rfl⟩
  split
  · rename_i negative
    have := of_decide_eq_true negative
    omega
  · rename_i positive
    have := of_decide_eq_false (Bool.eq_false_iff.mpr positive)
    omega

/-- A time of day reads back from its text. -/
theorem clock?_clockText {ms : Nat} (within : ms < 86400000) :
    clock? (clockText ms) = some ms := by
  obtain ⟨hour, readsHour⟩ := padded_reads 2 (ms / 3600000)
  obtain ⟨minute, readsMinute⟩ := padded_reads 2 (ms / 60000 % 60)
  obtain ⟨second, readsSecond⟩ := padded_reads 2 (ms / 1000 % 60)
  obtain ⟨thousandth, readsThousandth⟩ := padded_reads 3 (ms % 1000)
  unfold clock? clockText
  rw [List.splitOn_append_cons_self_of_not_mem (hour.notMem rfl),
    List.splitOn_append_cons_self_of_not_mem (minute.notMem rfl), List.splitOn_eq_singleton]
  · dsimp only
    rw [List.splitOn_append_cons_self_of_not_mem (second.notMem rfl),
      List.splitOn_eq_singleton (thousandth.notMem rfl)]
    dsimp only
    rw [readsHour, readsMinute, readsSecond, readsThousandth]
    refine congrArg some ?_
    omega
  · intro member
    rcases List.mem_append.mp member with inSecond | rest
    · exact second.notMem rfl inSecond
    · rcases List.mem_cons.mp rest with same | inThousandth
      · exact absurd same (by decide)
      · exact thousandth.notMem rfl inThousandth

/-- **Times survive texts.** The text of an instant reads as the start of its millisecond. -/
theorem read?_text (time : Instant) : read? time.text.toList = some (.ofMillis time.millis) := by
  have within : (time.millis % 86400000).toNat < 86400000 := by omega
  unfold read?
  rw [toList_text, List.splitOn_append_cons_self_of_not_mem, List.splitOn_eq_singleton]
  · dsimp only
    rw [read?_dateText, clock?_clockText within]
    change some (ofMillis _) = _
    rw [Date.dayNumber_ofDayNumber]
    congr 2
    omega
  · intro blank
    exact absurd (character_clockText _ _ blank) (by decide)
  · intro blank
    exact absurd (character_dateText _ _ blank) (by decide)

end Instant

end Renko

/-! ## The days of the calendar

Dates are reckoned by counting days from a point; people count them month by month, with a leap day
in every fourth year but not in every full century. Both ways agree: the dates of the days are those
that the calendar has (`Renko.Date.real_iff_exists`), and the date of the next day is the next date
(`Renko.Date.ofDayNumber_succ`). So dates follow one another as their days do
(`Renko.Date.strictMono_ofDayNumber`).
-/

namespace Renko.Date

/-- Every fourth year is a leap year; of the full centuries, every fourth one. -/
def IsLeap (year : Int) : Prop := year % 4 = 0 ∧ (year % 100 ≠ 0 ∨ year % 400 = 0)

instance (year : Int) : Decidable (IsLeap year) := inferInstanceAs (Decidable (_ ∧ _))

/-- How many days a month has. -/
def daysOf (year : Int) (month : Nat) : Nat :=
  if month = 2 then if IsLeap year then 29 else 28
  else if month ∈ [4, 6, 9, 11] then 30
  else 31

/-- The dates that the calendar has. -/
structure Real (date : Date) : Prop where
  month : 1 ≤ date.month ∧ date.month ≤ 12
  day : 1 ≤ date.day ∧ date.day ≤ daysOf date.year date.month

/-- The next date of the calendar. -/
def next (date : Date) : Date :=
  if date.day < daysOf date.year date.month then { date with day := date.day + 1 }
  else if date.month < 12 then ⟨date.year, date.month + 1, 1⟩
  else ⟨date.year + 1, 1, 1⟩

/-- No month has more than thirty-one days. -/
theorem daysOf_le (year : Int) (month : Nat) : daysOf year month ≤ 31 := by
  unfold daysOf
  split_ifs <;> decide

/-- What dates are ordered by. -/
def key (date : Date) : Int ×ₗ Nat ×ₗ Nat := toLex (date.year, toLex (date.month, date.day))

/-- The next date comes later. -/
theorem key_lt_next (date : Date) : date.key < date.next.key := by
  unfold next
  split
  · exact Prod.Lex.toLex_lt_toLex.mpr (.inr ⟨rfl, Prod.Lex.toLex_lt_toLex.mpr
      (.inr ⟨rfl, Nat.lt_succ_self _⟩)⟩)
  · split
    · exact Prod.Lex.toLex_lt_toLex.mpr (.inr ⟨rfl, Prod.Lex.toLex_lt_toLex.mpr
        (.inl (Nat.lt_succ_self _))⟩)
    · exact Prod.Lex.toLex_lt_toLex.mpr (.inl (Int.lt_succ _))

/-- The days of a year lie between its first and its last one. -/
theorem Real.key_bounds {date : Date} (real : date.Real) (year : Int) :
    (key ⟨year, 1, 1⟩ ≤ date.key ↔ year ≤ date.year) ∧
      (date.key ≤ key ⟨year, 12, 31⟩ ↔ date.year ≤ year) := by
  obtain ⟨months, days⟩ := real
  have short := days.2.trans (daysOf_le _ _)
  simp only [key, Prod.Lex.toLex_le_toLex]
  omega

/-! ### Years that start in March -/

/-- The days from 0000-03-01 to the first day of a year. -/
def yearStart (year : Int) : Int := year * 365 + year / 4 - year / 100 + year / 400

/-- The days of a year. A leap day is the last one. -/
def yearLength (year : Int) : Nat := if IsLeap (year + 1) then 366 else 365

/-- The days of a year before a month. -/
def daysBefore (month : Nat) : Nat := (153 * month + 2) / 5

/-- The days of a year up to the end of a month. The last one ends with the year. -/
def daysThrough (year : Int) (month : Nat) : Nat :=
  if month = 11 then yearLength year else daysBefore (month + 1)

/-- A day of a month of a year as the calendar has it. -/
def ofMonth (year : Int) (month day : Nat) : Date where
  year := year + if month < 10 then 0 else 1
  month := if month < 10 then month + 3 else month - 9
  day := day

/-- The date of a day of a year. -/
def ofYear (year : Int) (day : Nat) : Date :=
  let month := (5 * day + 2) / 153
  ofMonth year month (day - daysBefore month + 1)

private theorem yearLength_bounds (year : Int) : 365 ≤ yearLength year ∧ yearLength year ≤ 366 := by
  unfold yearLength
  split <;> decide

private theorem yearStart_succ (year : Int) :
    yearStart (year + 1) = yearStart year + yearLength year := by
  unfold yearStart yearLength
  by_cases leap : IsLeap (year + 1)
  · rw [if_pos leap]
    unfold IsLeap at leap
    omega
  · rw [if_neg leap]
    unfold IsLeap at leap
    omega

private theorem yearStart_le {first second : Int} (before : first ≤ second) :
    yearStart first ≤ yearStart second := by
  unfold yearStart
  omega

/-- A day lies in one year only. -/
theorem eq_of_yearStart_add {first second : Int} {day other : Nat} (within : day < yearLength first)
    (inside : other < yearLength second) (same : yearStart first + day = yearStart second + other) :
    first = second ∧ day = other := by
  have apart {early late : Int} {before after : Nat} (within : before < yearLength early)
      (same : yearStart early + before = yearStart late + after) : ¬early < late := by
    intro earlier
    have ended := yearStart_le (Int.add_one_le_of_lt earlier)
    rw [yearStart_succ] at ended
    omega
  have equal : first = second :=
    le_antisymm (not_lt.mp (apart inside same.symm)) (not_lt.mp (apart within same))
  subst equal
  omega

/-- A year of 366 days ends with the leap day of the next year of the calendar. -/
theorem isLeap_of_long {day : Nat} (within : day < 146097) (long : (yearAndDay day).2 = 365) :
    IsLeap ((yearAndDay day).1 + 1) := by
  obtain ⟨century, ofCentury, year, hundreds, left, years, split⟩ := exists_yearAndDay day
  rw [split] at long ⊢
  unfold IsLeap
  dsimp only at *
  omega

/-- The date of a day is reckoned in the year that starts in March. -/
theorem exists_ofYear (number : Int) : ∃ year day, day < yearLength year ∧
    number + epochDay = yearStart year + day ∧ ofDayNumber number = ofYear year day := by
  obtain ⟨era, eras⟩ : ∃ era, (number + epochDay) / 146097 = era := ⟨_, rfl⟩
  obtain ⟨rest, left⟩ : ∃ rest, ((number + epochDay) % 146097).toNat = rest := ⟨_, rfl⟩
  have within : rest < 146097 := by omega
  obtain ⟨yearBound, dayBound, sum⟩ := yearAndDay_sound within
  refine ⟨era * 400 + (yearAndDay rest).1, (yearAndDay rest).2, ?_, ?_, ?_⟩
  · unfold yearLength
    by_cases leap : IsLeap (era * 400 + (yearAndDay rest).1 + 1)
    · rw [if_pos leap]
      exact dayBound
    · rw [if_neg leap]
      refine lt_of_le_of_ne (Nat.le_of_lt_succ dayBound) fun long => leap ?_
      have ends := isLeap_of_long within long
      unfold IsLeap at ends ⊢
      omega
  · have fours : (era * 400 + (yearAndDay rest).1) / 4 =
        era * 100 + ((yearAndDay rest).1 / 4 : Nat) := by omega
    have centuries : (era * 400 + (yearAndDay rest).1) / 100 =
        era * 4 + ((yearAndDay rest).1 / 100 : Nat) := by omega
    have whole : (era * 400 + (yearAndDay rest).1) / 400 = era := by omega
    rw [yearStart, fours, centuries, whole]
    omega
  · rw [ofDayNumber, eras, left]
    rfl

private theorem ofDayNumber_of_year {year : Int} {day : Nat} {number : Int}
    (within : day < yearLength year) (reckoned : number + epochDay = yearStart year + day) :
    ofDayNumber number = ofYear year day := by
  obtain ⟨other, inOther, inside, same, date⟩ := exists_ofYear number
  obtain ⟨rfl, rfl⟩ := eq_of_yearStart_add within inside (reckoned.symm.trans same)
  exact date

private theorem daysThrough_le {month : Nat} (inYear : month < 12) (year : Int) :
    daysThrough year month ≤ yearLength year ∧ daysThrough year month ≤ daysBefore (month + 1) := by
  have long := yearLength_bounds year
  unfold daysThrough
  by_cases last : month = 11
  · rw [if_pos last, last]
    exact ⟨le_rfl, long.2.trans (by decide)⟩
  · rw [if_neg last]
    unfold daysBefore
    omega

private theorem daysBefore_lt (year : Int) (month : Nat) :
    daysBefore month < daysThrough year month := by
  unfold daysThrough
  by_cases last : month = 11
  · rw [if_pos last, last]
    exact (by decide : daysBefore 11 < 365).trans_le (yearLength_bounds year).1
  · rw [if_neg last]
    unfold daysBefore
    omega

/-- The months of these years are those of the calendar. -/
theorem daysBefore_add_daysOf {month : Nat} (inYear : month < 12) (year : Int) (day : Nat) :
    daysBefore month + daysOf (ofMonth year month day).year (ofMonth year month day).month =
      daysThrough year month := by
  by_cases last : month = 11
  · subst last
    change 337 + (if IsLeap (year + 1) then 29 else 28) =
      if IsLeap (year + 1) then 366 else 365
    split <;> rfl
  · have early : month < 11 := by omega
    interval_cases month <;> rfl

private theorem ofYear_add {year : Int} {month day : Nat} (inYear : month < 12)
    (inMonth : daysBefore month + day < daysThrough year month) :
    ofYear year (daysBefore month + day) = ofMonth year month (day + 1) := by
  have ended := inMonth.trans_le (daysThrough_le inYear year).2
  have month_eq : (5 * (daysBefore month + day) + 2) / 153 = month := by
    unfold daysBefore at *
    omega
  rw [ofYear, month_eq, Nat.add_sub_cancel_left]

/-- Every day of a year lies in a month. -/
theorem exists_month {year : Int} {day : Nat} (within : day < yearLength year) :
    ∃ month inMonth, month < 12 ∧ day = daysBefore month + inMonth ∧
      daysBefore month + inMonth < daysThrough year month := by
  have long := yearLength_bounds year
  have begun : daysBefore ((5 * day + 2) / 153) ≤ day := by
    unfold daysBefore
    omega
  refine ⟨(5 * day + 2) / 153, day - daysBefore ((5 * day + 2) / 153), by omega,
    (Nat.add_sub_of_le begun).symm, ?_⟩
  rw [Nat.add_sub_of_le begun]
  unfold daysThrough
  split
  · exact within
  · unfold daysBefore
    omega

private theorem real_ofMonth {year : Int} {month day : Nat} (inYear : month < 12)
    (inMonth : daysBefore month + day < daysThrough year month) :
    (ofMonth year month (day + 1)).Real := by
  rw [← daysBefore_add_daysOf inYear year (day + 1)] at inMonth
  refine ⟨?_, Nat.le_add_left 1 day, Nat.lt_of_add_lt_add_left inMonth⟩
  unfold ofMonth
  dsimp only
  split <;> omega

/-- Every date of the calendar is a day of a month of such a year. -/
theorem Real.exists_ofMonth {date : Date} (real : date.Real) :
    ∃ year month day, month < 12 ∧ daysBefore month + day < daysThrough year month ∧
      date = ofMonth year month (day + 1) := by
  obtain ⟨year, month, day⟩ := date
  obtain ⟨⟨positive, short⟩, first, last⟩ := real
  dsimp only at *
  obtain ⟨day, rfl⟩ := Nat.exists_eq_add_of_le' first
  obtain ⟨marchYear, marchMonth, inYear, same⟩ : ∃ marchYear marchMonth, marchMonth < 12 ∧
      (⟨year, month, day + 1⟩ : Date) = ofMonth marchYear marchMonth (day + 1) := by
    by_cases early : month ≤ 2
    · have late : ¬month + 9 < 10 := by omega
      refine ⟨year - 1, month + 9, by omega, ?_⟩
      rw [ofMonth, if_neg late, if_neg late, sub_add_cancel, Nat.add_sub_cancel]
    · have inside : month - 3 < 10 := by omega
      refine ⟨year, month - 3, by omega, ?_⟩
      rw [ofMonth, if_pos inside, if_pos inside, add_zero, Nat.sub_add_cancel (by omega)]
  refine ⟨marchYear, marchMonth, day, inYear, ?_, same⟩
  rw [← daysBefore_add_daysOf inYear marchYear (day + 1), ← same]
  exact Nat.add_lt_add_left last _

/-! ### Days and dates -/

/-- **The dates of the calendar** are those of the days. -/
theorem real_iff_exists {date : Date} : date.Real ↔ ∃ number, ofDayNumber number = date := by
  constructor
  · intro real
    obtain ⟨year, month, day, inYear, inMonth, rfl⟩ := real.exists_ofMonth
    have within := inMonth.trans_le (daysThrough_le inYear year).1
    refine ⟨yearStart year + (daysBefore month + day : Nat) - epochDay, ?_⟩
    rw [ofDayNumber_of_year within (sub_add_cancel _ _), ofYear_add inYear inMonth]
  · rintro ⟨number, rfl⟩
    obtain ⟨year, day, within, -, date⟩ := exists_ofYear number
    obtain ⟨month, day, inYear, rfl, inMonth⟩ := exists_month within
    rw [date, ofYear_add inYear inMonth]
    exact real_ofMonth inYear inMonth

private theorem next_ofMonth {year : Int} {month day : Nat} (inYear : month < 12)
    (more : daysBefore month + day < daysThrough year month) :
    (ofMonth year month day).next = ofMonth year month (day + 1) := by
  rw [← daysBefore_add_daysOf inYear year day] at more
  exact if_pos (Nat.lt_of_add_lt_add_left more)

/-- Behind the last day of a month comes the first one of the next month. -/
theorem next_ofMonth_of_last {year : Int} {month day : Nat} (inYear : month < 12)
    (last : daysBefore month + day = daysThrough year month) :
    (ofMonth year month day).next =
      if month = 11 then ofMonth (year + 1) 0 1 else ofMonth year (month + 1) 1 := by
  rw [← daysBefore_add_daysOf inYear year day] at last
  have ends : ¬(ofMonth year month day).day < daysOf _ _ := (Nat.add_left_cancel last).not_lt
  rw [next, if_neg ends]
  unfold ofMonth
  dsimp only
  interval_cases month <;> simp

/-- Behind the last day of a year comes the first one of the next year. -/
theorem next_ofYear {year : Int} {day : Nat} (within : day < yearLength year) :
    (ofYear year day).next =
      if day + 1 < yearLength year then ofYear year (day + 1) else ofYear (year + 1) 0 := by
  obtain ⟨month, day, inYear, rfl, inMonth⟩ := exists_month within
  have inLength := (daysThrough_le inYear year).1
  rw [ofYear_add inYear inMonth]
  rcases Nat.lt_or_eq_of_le (Nat.succ_le_of_lt inMonth) with more | last
  · rw [if_pos (more.trans_le inLength), next_ofMonth inYear more]
    exact (ofYear_add inYear more).symm
  · rw [next_ofMonth_of_last inYear last]
    by_cases final : month = 11
    · have whole : daysThrough year month = yearLength year := if_pos final
      rw [if_pos final, if_neg (by omega)]
      rfl
    · have ends : daysBefore month + day + 1 = daysBefore (month + 1) + 0 :=
        last.trans (if_neg final)
      have inNext : daysBefore (month + 1) + 0 < daysThrough year (month + 1) :=
        daysBefore_lt year (month + 1)
      have inLength := (daysThrough_le (by omega : month + 1 < 12) year).1
      rw [if_neg final, ends, if_pos (inNext.trans_le inLength)]
      exact (ofYear_add (by omega) inNext).symm

/-- **The calendar goes on day by day.** The date of the next day is the next date. -/
theorem ofDayNumber_succ (number : Int) : ofDayNumber (number + 1) = (ofDayNumber number).next := by
  obtain ⟨year, day, within, reckoned, date⟩ := exists_ofYear number
  rw [date, next_ofYear within]
  by_cases more : day + 1 < yearLength year
  · rw [if_pos more]
    exact ofDayNumber_of_year more (by omega)
  · rw [if_neg more]
    refine ofDayNumber_of_year (Nat.lt_of_lt_of_le (by decide) (yearLength_bounds _).1) ?_
    rw [yearStart_succ]
    omega

/-- **Dates follow one another** as their days do. -/
theorem strictMono_ofDayNumber : StrictMono fun number => (ofDayNumber number).key := by
  refine strictMono_int_of_lt_succ fun number => ?_
  rw [ofDayNumber_succ]
  exact key_lt_next _

/-- The date after a real one is real, and its day is the next. -/
theorem Real.dayNumber_next {date : Date} (real : date.Real) :
    date.next.Real ∧ date.next.dayNumber = date.dayNumber + 1 := by
  obtain ⟨number, rfl⟩ := real_iff_exists.mp real
  rw [← ofDayNumber_succ, dayNumber_ofDayNumber, dayNumber_ofDayNumber]
  exact ⟨real_iff_exists.mpr ⟨_, rfl⟩, rfl⟩

end Renko.Date
