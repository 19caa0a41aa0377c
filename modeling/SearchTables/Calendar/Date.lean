/-! # Calendar dates

Dates of the Gregorian calendar extended to the years 1 to 9999, and their **day numbers**: day 1 is the
first of January of year 1, and consecutive days have consecutive numbers. -/

namespace SearchTables

/-- A calendar date. -/
structure Date where
  year : Nat
  month : Nat
  day : Nat
deriving DecidableEq, Repr, Inhabited

namespace Calendar

/-- Whether a year has a 29th of February. -/
def isLeap (year : Nat) : Bool := year % 4 == 0 && (year % 100 != 0 || year % 400 == 0)

/-- The lengths of the months of a year, in order. -/
def monthLengths (year : Nat) : List Nat :=
  [31, if isLeap year then 29 else 28, 31, 30, 31, 30, 31, 31, 30, 31, 30, 31]

/-- The number of days in a month, which is numbered from one. -/
def daysInMonth (year month : Nat) : Nat := ((monthLengths year)[month - 1]?).getD 0

/-- The number of days in a year. -/
def daysInYear (year : Nat) : Nat := if isLeap year then 366 else 365

/-- The number of days before the first of January of a year. -/
def daysBeforeYear (year : Nat) : Nat :=
  let past := year - 1
  past * 365 + past / 4 - past / 100 + past / 400

/-- The number of days before the first of a month within its year. -/
def daysBeforeMonth (year month : Nat) : Nat := ((monthLengths year).take (month - 1)).foldl (· + ·) 0

/-- The last year of the calendar. -/
def lastYear : Nat := 9999

/-- The number of the last day of the calendar. -/
def lastDayNumber : Nat := 3652059

/-- Walk through month lengths to the month that holds a day of the year, counted from zero. -/
def monthOfDay : List Nat → Nat → Nat → Nat × Nat
  | [], month, rest => (month, rest)
  | length :: lengths, month, rest =>
      if rest < length then (month, rest) else monthOfDay lengths (month + 1) (rest - length)

end Calendar

namespace Date

/-- Whether a date exists in the calendar. -/
def Valid (d : Date) : Prop :=
  1 ≤ d.year ∧ d.year ≤ Calendar.lastYear ∧ 1 ≤ d.month ∧ d.month ≤ 12 ∧ 1 ≤ d.day ∧
    d.day ≤ Calendar.daysInMonth d.year d.month

instance (d : Date) : Decidable d.Valid := inferInstanceAs (Decidable (_ ∧ _))

/-- The number of a date. -/
def dayNumber (d : Date) : Nat :=
  Calendar.daysBeforeYear d.year + Calendar.daysBeforeMonth d.year d.month + d.day

/-- The date of a day number. The days are counted off in cycles of 400, 100, 4 and 1 years; the last day
of a long cycle would fall into a fifth short one and is kept in the fourth. -/
def ofDayNumber (number : Nat) : Date :=
  let n := number - 1
  let cycles400 := n / 146097
  let n := n % 146097
  let cycles100 := min (n / 36524) 3
  let n := n - cycles100 * 36524
  let cycles4 := n / 1461
  let n := n % 1461
  let years := min (n / 365) 3
  let n := n - years * 365
  let year := cycles400 * 400 + cycles100 * 100 + cycles4 * 4 + years + 1
  let (month, rest) := Calendar.monthOfDay (Calendar.monthLengths year) 1 n
  ⟨year, month, rest + 1⟩

/-- The day of the week, Monday being zero. -/
def weekday (d : Date) : Nat := (d.dayNumber + 6) % 7

/-- The number of the Monday of the first week of a year: the week that holds the fourth of January. -/
def firstMonday (year : Nat) : Nat :=
  let fourth : Date := ⟨year, 1, 4⟩
  fourth.dayNumber - fourth.weekday

/-- The number of weeks in a year: 53 when it starts on a Thursday, or on a Wednesday and is a leap
year. -/
def weeksInYear (year : Nat) : Nat :=
  let start := weekday ⟨year, 1, 1⟩
  if start = 3 ∨ (start = 2 ∧ Calendar.isLeap year) then 53 else 52

/-- The date of a day (1 to 7) in a week of a year, if there is one in the calendar. -/
def ofWeek? (year week day : Nat) : Option Date :=
  if 1 ≤ year ∧ year ≤ Calendar.lastYear ∧ 1 ≤ week ∧ week ≤ weeksInYear year ∧ 1 ≤ day ∧ day ≤ 7 then
    let number := firstMonday year + (week - 1) * 7 + (day - 1)
    if 1 ≤ number ∧ number ≤ Calendar.lastDayNumber then some (ofDayNumber number) else none
  else none

end Date

/-! ## The present

Nothing here asks a clock. Where a rule needs the present, it is the start of one fixed day in universal
time, so that every answer is a function of what was asked. -/

namespace Calendar

/-- The present day. -/
def presentDay : Date := ⟨2026, 1, 1⟩

/-- The number of the first day of 1970. -/
def epochDay : Nat := 719163

/-- The start of the present day, in seconds since 1970. -/
def presentSeconds : Int := ((presentDay.dayNumber : Int) - epochDay) * 86400

/-- The present day is one of the calendar. -/
theorem presentDay_valid : presentDay.Valid := by decide

end Calendar

end SearchTables
