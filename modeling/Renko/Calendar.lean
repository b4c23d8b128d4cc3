import Renko.Tick

/-! # Calendar dates and the text of an instant

Dates are those of the Gregorian calendar, continued without a break to the years before it was
used; the year before year 1 is year 0. The count of days is easiest in years that start in March,
when the leap day is the last of its year: 400 such years have 146097 days.
-/

namespace Renko

structure Date where
  year : Int
  month : Nat
  day : Nat
  deriving DecidableEq

namespace Date

/-- The number of days from 0000-03-01 to 1970-01-01. -/
def epochDay : Int := 719468

/-- The year and the day of the year, both counted from zero, of a day of 400 years that start in
March. The last of the four centuries, and the last year of every four, may be a day longer. -/
def yearAndDay (day : Nat) : Nat × Nat :=
  let century := min (day / 36524) 3
  let day := day - century * 36524
  let leap := day / 1461
  let day := day % 1461
  let year := min (day / 365) 3
  (century * 100 + leap * 4 + year, day - year * 365)

/-- The date of a day counted from 1970-01-01. -/
def ofDayNumber (number : Int) : Date :=
  let shifted := number + epochDay
  let (year, day) := yearAndDay (shifted % 146097).toNat
  let month := (5 * day + 2) / 153
  { year := shifted / 146097 * 400 + year + if month < 10 then 0 else 1
    month := if month < 10 then month + 3 else month - 9
    day := day - (153 * month + 2) / 5 + 1 }

/-- The day of a date, counted from 1970-01-01. -/
def dayNumber (date : Date) : Int :=
  let year := if date.month ≤ 2 then date.year - 1 else date.year
  let month := if date.month ≤ 2 then date.month + 9 else date.month - 3
  let ofEra := (year % 400).toNat
  let day := ofEra * 365 + ofEra / 4 - ofEra / 100 + (153 * month + 2) / 5 + date.day - 1
  year / 400 * 146097 + day - epochDay

end Date

namespace Instant

/-- A number with zeros in front of it, up to a width. -/
def padded (width number : Nat) : String :=
  let digits := Nat.toDigits 10 number
  String.ofList (List.replicate (width - digits.length) '0' ++ digits)

/-- The text of a year: four digits from 0 to 9999; else a sign and at least four digits. -/
def yearText (year : Int) : String :=
  if year < 0 then "-" ++ padded 4 year.natAbs
  else if year ≤ 9999 then padded 4 year.natAbs
  else "+" ++ padded 4 year.natAbs

/-- The text of an instant, down to its millisecond. -/
def text (time : Instant) : String :=
  let date := Date.ofDayNumber (time.millis / 86400000)
  let ms := (time.millis % 86400000).toNat
  yearText date.year ++ "-" ++ padded 2 date.month ++ "-" ++ padded 2 date.day ++ " " ++
    padded 2 (ms / 3600000) ++ ":" ++ padded 2 (ms / 60000 % 60) ++ ":" ++
    padded 2 (ms / 1000 % 60) ++ "." ++ padded 3 (ms % 1000)

end Instant

end Renko
