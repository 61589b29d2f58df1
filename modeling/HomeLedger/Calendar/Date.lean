import HomeLedger.Power

/-!
# HomeLedger — calendar dates

Dates of the Gregorian calendar, extended to all years from -262143 to 262142. A date is a year, a
month and a day that exist together. The other ways to name a day are views of it: its number in a
count of all days (`Date.dayNumber`, with `0000-01-01` as day 0), its ordinal in the year, its
weekday, and its week under three conventions.

Steps over the calendar are additions to the day number (`Date.addDays?`); a step that leaves the
supported years has no result.
-/

namespace HomeLedger

-- ---------------------------------------------------------------------------
-- Years and months
-- ---------------------------------------------------------------------------

/-- Whether a year has a February 29. -/
def isLeapYear (y : Int) : Bool := y % 4 == 0 && (y % 100 != 0 || y % 400 == 0)

/-- The number of days of a month; there are none in a month that does not exist. -/
def daysInMonth (y : Int) : Nat → Nat
  | 1 => 31
  | 2 => if isLeapYear y then 29 else 28
  | 3 => 31
  | 4 => 30
  | 5 => 31
  | 6 => 30
  | 7 => 31
  | 8 => 31
  | 9 => 30
  | 10 => 31
  | 11 => 30
  | 12 => 31
  | _ => 0

/-- The number of days of a year. -/
def daysInYear (y : Int) : Nat := if isLeapYear y then 366 else 365

/-- The number of days of a year before its month `m`. -/
def daysBeforeMonth (y : Int) : Nat → Nat
  | 0 => 0
  | m + 1 => daysBeforeMonth y m + daysInMonth y m

/-- The number of days from the start of year 0 to the start of year `y`, negative before it. -/
def daysBeforeYear (y : Int) : Int :=
  365 * y + ((y + 3) / 4 - (y + 99) / 100 + (y + 399) / 400)

/-- The year that a day number falls in. Within a cycle of 400 years, or 146097 days, dividing by
365 overshoots by at most one year, namely where the leap days so far have eaten the remainder. -/
def yearOfDay (n : Int) : Int :=
  let day := n % 146097
  let guess := day / 365
  n / 146097 * 400 + (if day < daysBeforeYear guess then guess - 1 else guess)

-- ---------------------------------------------------------------------------
-- Dates
-- ---------------------------------------------------------------------------

/-- Whether year, month and day name a supported date. -/
def isDate (year : Int) (month day : Nat) : Bool :=
  -262143 ≤ year && year ≤ 262142 && 1 ≤ day && day ≤ daysInMonth year month

/-- A supported date. -/
structure Date where
  year : Int
  month : Nat
  day : Nat
  valid : isDate year month day = true
  deriving DecidableEq, Repr

namespace Date

/-- The date of a year, month and day, if there is one. -/
def ofParts? (year : Int) (month day : Nat) : Option Date :=
  if h : isDate year month day = true then some ⟨year, month, day, h⟩ else none

@[simp] theorem ofParts?_self (d : Date) : ofParts? d.year d.month d.day = some d := by
  simp [ofParts?, d.valid]

/-- The place of the day in its year, counted from 1. -/
def ordinal (d : Date) : Nat := daysBeforeMonth d.year d.month + d.day

/-- The month and day of an ordinal: the months are passed one after the other. -/
def monthAndDay (y : Int) : (months month ordinal : Nat) → Nat × Nat
  | 0, month, ordinal => (month, ordinal)
  | months + 1, month, ordinal =>
    if ordinal ≤ daysInMonth y month then (month, ordinal)
    else monthAndDay y months (month + 1) (ordinal - daysInMonth y month)

/-- The date with a given ordinal in a year, if there is one. -/
def ofOrdinal? (year : Int) (ordinal : Nat) : Option Date :=
  let (month, day) := monthAndDay year 12 1 ordinal
  ofParts? year month day

-- ---------------------------------------------------------------------------
-- Counting days
-- ---------------------------------------------------------------------------

/-- The number of the day in the count of all days, with `0000-01-01` as day 0. -/
def dayNumber (d : Date) : Int := daysBeforeYear d.year + (d.ordinal : Int) - 1

/-- The date of a day number, if it is supported. -/
def ofDayNumber? (n : Int) : Option Date :=
  let year := yearOfDay n
  ofOrdinal? year (n - daysBeforeYear year + 1).toNat

/-- The date `n` days later, or earlier if `n` is negative. -/
def addDays? (d : Date) (n : Int) : Option Date := ofDayNumber? (d.dayNumber + n)

/-- The same day of the next month, or that month's last day if it is shorter. -/
def nextMonth? (d : Date) : Option Date :=
  let (year, month) := if d.month = 12 then (d.year + 1, 1) else (d.year, d.month + 1)
  ofParts? year month (min d.day (daysInMonth year month))

-- ---------------------------------------------------------------------------
-- Weeks
-- ---------------------------------------------------------------------------

/-- The weekday of a day number, counted from Monday as 0; day 0 is a Saturday. -/
def weekdayOf (n : Int) : Nat := ((n + 5) % 7).toNat

/-- The weekday, counted from Monday as 0. -/
def weekday (d : Date) : Nat := weekdayOf d.dayNumber

/-- The number of days since the last day that is the weekday `start`. -/
def daysSince (start weekday : Nat) : Nat := (weekday + 7 - start) % 7

/-- The week of the year when weeks begin on the weekday `start`; the days before the first such
weekday are in week 0. -/
def weekFrom (start : Nat) (d : Date) : Nat := (d.ordinal + 6 - daysSince start d.weekday) / 7

/-- The day number of the Thursday in the date's week, where weeks begin on Monday. -/
def thursday (d : Date) : Int := d.dayNumber + 3 - d.weekday

/-- The year that the ISO week belongs to: the one that its Thursday falls in. -/
def isoYear (d : Date) : Int := yearOfDay d.thursday

/-- The number of the ISO week in its year. -/
def isoWeek (d : Date) : Nat := ((d.thursday - daysBeforeYear d.isoYear) / 7).toNat + 1

/-- The date of a weekday in an ISO week; a year has 53 weeks when its last Thursday says so. -/
def ofIsoWeek? (year : Int) (week weekday : Nat) : Option Date := do
  let fourth := daysBeforeYear year + 3
  let monday := fourth - weekdayOf fourth
  let d ← ofDayNumber? (monday + 7 * ((week : Int) - 1) + weekday)
  if 1 ≤ week ∧ d.isoYear = year then some d else none

/-- The quarter of the year, from 1 to 4. -/
def quarter (d : Date) : Nat := (d.month - 1) / 3 + 1

end Date

end HomeLedger
