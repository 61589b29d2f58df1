import HomeLedger.Calendar.Date

/-!
# HomeLedger — dates from their parts

Reading by a pattern collects parts of a date or time in any order and any mixture: a year and an
ordinal, a year of the century and a week, a month given twice. `Fields` holds what has been read;
`Fields.date` and `Fields.dateTime` find the day that the parts determine, and check every further
part against it. A part that is given twice has to be given the same value (`Fields.agree`).

A failure says what was wrong, because a date and time that are only incomplete may still be settled
by a time stamp.
-/

namespace HomeLedger

/-- Why parts do not make up a date or time. -/
inductive Unsettled where
  /-- A part is missing. -/
  | incomplete
  /-- A part is beyond the calendar. -/
  | outOfRange
  /-- Two parts contradict each other. -/
  | impossible
  deriving DecidableEq, Repr

/-- The parts of a date and time that have been read. The hour is kept as its half of the day and
its place in that half; hour 12 on the clock face is place 0. Weekdays count from Monday as 0. -/
structure Fields where
  year : Option Int := none
  century : Option Int := none
  yearOfCentury : Option Int := none
  isoYear : Option Int := none
  isoYearOfCentury : Option Int := none
  quarter : Option Nat := none
  month : Option Nat := none
  day : Option Nat := none
  weekFromSunday : Option Nat := none
  weekFromMonday : Option Nat := none
  isoWeek : Option Nat := none
  weekday : Option Nat := none
  ordinal : Option Nat := none
  halfDay : Option Nat := none
  hourOfHalf : Option Nat := none
  minute : Option Nat := none
  second : Option Nat := none
  nanosecond : Option Nat := none
  timestamp : Option Int := none
  offset : Option Int := none
  deriving DecidableEq, Repr

/-- A time of day in seconds since midnight, with nanoseconds beyond the second. In a leap second
the nanoseconds are `10 ^ 9` or more. -/
structure TimeOfDay where
  seconds : Nat
  nanoseconds : Nat
  deriving DecidableEq, Repr

namespace Fields

-- ---------------------------------------------------------------------------
-- Agreement
-- ---------------------------------------------------------------------------

/-- A part together with another reading of it: the two must not differ. -/
def agree {α : Type} [BEq α] (known : Option α) (value : α) : Option (Option α) :=
  match known with
  | none => some (some value)
  | some old => if old == value then some (some old) else none

/-- `agree`, where a difference is a contradiction between parts. -/
def agreed {α : Type} [BEq α] (known : Option α) (value : α) : Except Unsettled (Option α) :=
  match agree known value with
  | some part => .ok part
  | none => .error .impossible

/-- Whether a part, if it is given, has the value. -/
def holds {α : Type} [BEq α] (known : Option α) (value : α) : Bool :=
  match known with
  | none => true
  | some old => old == value

-- ---------------------------------------------------------------------------
-- Years
-- ---------------------------------------------------------------------------

/-- The year given by a full year, a century and a year of the century, as far as they go. A year of
the century alone is taken to lie between 1970 and 2069. A century only counts with non-negative
years. -/
def settleYear (year century ofCentury : Option Int) : Except Unsettled (Option Int) :=
  match year, century, ofCentury with
  | year, none, none => .ok year
  | some y, c, r =>
    if y < 0 then .error .impossible
    else if holds c (y / 100) && holds r (y % 100) then .ok (some y)
    else .error .impossible
  | none, some c, some r =>
    if 100 * c + r < 2 ^ 31 then .ok (some (100 * c + r)) else .error .outOfRange
  | none, none, some r => .ok (some (if r < 70 then 2000 + r else 1900 + r))
  | none, some _, none => .error .incomplete

/-- Whether a given century, or year of the century, is that of a year; no negative year has one. -/
def centuryHolds (known : Option Int) (year part : Int) : Bool :=
  match known with
  | none => true
  | some c => 0 ≤ year && c == part

-- ---------------------------------------------------------------------------
-- Dates
-- ---------------------------------------------------------------------------

/-- Whether the year, month and day that are given are those of the date. -/
def calendarHolds (f : Fields) (d : Date) : Bool :=
  holds f.year d.year && centuryHolds f.century d.year (d.year / 100)
    && centuryHolds f.yearOfCentury d.year (d.year % 100) && holds f.month d.month
    && holds f.day d.day

/-- Whether the ISO year and week and the weekday that are given are those of the date. -/
def isoHolds (f : Fields) (d : Date) : Bool :=
  holds f.isoYear d.isoYear && centuryHolds f.isoYearOfCentury d.isoYear (d.isoYear % 100)
    && holds f.isoWeek d.isoWeek && holds f.weekday d.weekday

/-- Whether the ordinal and the weeks of the year that are given are those of the date. -/
def ordinalHolds (f : Fields) (d : Date) : Bool :=
  holds f.ordinal d.ordinal && holds f.weekFromSunday (d.weekFrom 6)
    && holds f.weekFromMonday (d.weekFrom 0)

/-- The date of a weekday in a week of a year, when weeks begin on the weekday `start` and the days
before the first such weekday are in week 0. -/
def weekDate (start : Nat) (year : Int) (week weekday : Nat) : Except Unsettled Date :=
  match Date.ofOrdinal? year 1 with
  | none => .error .outOfRange
  | some first =>
    let ordinal : Int :=
      1 + Date.daysSince first.weekday start + ((week : Int) - 1) * 7 + Date.daysSince start weekday
    if ordinal ≤ 0 then .error .impossible
    else match Date.ofOrdinal? year ordinal.toNat with
      | some d => .ok d
      | none => .error .impossible

/-- A date that may not exist. -/
def inRange : Option Date → Except Unsettled Date
  | some d => .ok d
  | none => .error .outOfRange

/-- The date that the parts determine, by the first of these that is complete: year, month and day;
year and ordinal; year, week from Sunday and weekday; year, week from Monday and weekday; ISO year,
ISO week and weekday. The parts that were not used have to hold of it. -/
def candidate (f : Fields) : Except Unsettled Date := do
  let year ← settleYear f.year f.century f.yearOfCentury
  let isoYear ← settleYear f.isoYear none f.isoYearOfCentury
  let checked := fun (d : Date) (ok : Bool) =>
    if ok then Except.ok d else Except.error Unsettled.impossible
  match year, isoYear, f with
  | some y, _, { month := some m, day := some dy, .. } => do
    let d ← inRange (Date.ofParts? y m dy)
    checked d (f.isoHolds d && f.ordinalHolds d)
  | some y, _, { ordinal := some o, .. } => do
    let d ← inRange (Date.ofOrdinal? y o)
    checked d (f.calendarHolds d && f.isoHolds d && f.ordinalHolds d)
  | some y, _, { weekFromSunday := some w, weekday := some wd, .. } => do
    let d ← weekDate 6 y w wd
    checked d (f.calendarHolds d && f.isoHolds d && f.ordinalHolds d)
  | some y, _, { weekFromMonday := some w, weekday := some wd, .. } => do
    let d ← weekDate 0 y w wd
    checked d (f.calendarHolds d && f.isoHolds d && f.ordinalHolds d)
  | _, some y, { isoWeek := some w, weekday := some wd, .. } => do
    let d ← inRange (Date.ofIsoWeek? y w wd)
    checked d (f.calendarHolds d && f.ordinalHolds d)
  | _, _, _ => .error .incomplete

/-- The date that the parts determine; a quarter that is given has to hold of it as well. -/
def date (f : Fields) : Except Unsettled Date := do
  let d ← f.candidate
  if holds f.quarter d.quarter then .ok d else .error .impossible

-- ---------------------------------------------------------------------------
-- Times
-- ---------------------------------------------------------------------------

/-- The time of day that the parts determine. Hour and minute are needed; second 60 is a leap
second, and a fraction needs a second. -/
def time (f : Fields) : Except Unsettled TimeOfDay :=
  match f.halfDay, f.hourOfHalf, f.minute with
  | some half, some hour, some minute =>
    let second := f.second.getD 0
    let (second, leap) := if second = 60 then (59, 1000000000) else (second, 0)
    match f.nanosecond, f.second with
    | some _, none => .error .incomplete
    | nano, _ => .ok ⟨(12 * half + hour) * 3600 + minute * 60 + second, leap + nano.getD 0⟩
  | _, _, _ => .error .incomplete

/-- The number of the day `1970-01-01`, from which time stamps count. -/
def epochDay : Int := 719528

/-- The seconds of a date and time since the start of 1970. -/
def timestampOf (d : Date) (t : TimeOfDay) : Int := (d.dayNumber - epochDay) * 86400 + t.seconds

/-- Completes the parts from a time stamp that is `offset` behind the local time, and settles them
again. A leap second is the second 59 or 0 of the stamp. -/
def ofTimestamp (f : Fields) (stamp offset : Int) : Except Unsettled (Date × TimeOfDay) := do
  let local' := stamp + offset
  let day := fun (s : Int) => inRange (Date.ofDayNumber? (s / 86400 + epochDay))
  let _ ← day local'
  let moment ← match f.second with
    | some 60 =>
      if local' % 60 = 59 then .ok local'
      else if local' % 60 = 0 then .ok (local' - 1)
      else .error .impossible
    | _ => .ok local'
  let d ← day moment
  let seconds := (moment % 86400).toNat
  let second ← if f.second = some 60 then .ok f.second else agreed f.second (seconds % 60)
  let year ← agreed f.year d.year
  let ordinal ← agreed f.ordinal d.ordinal
  let halfDay ← agreed f.halfDay (seconds / 43200)
  let hourOfHalf ← agreed f.hourOfHalf (seconds / 3600 % 12)
  let minute ← agreed f.minute (seconds / 60 % 60)
  let g := { f with second, year, ordinal, halfDay, hourOfHalf, minute }
  return (← g.date, ← g.time)

/-- The date and time that the parts determine in a zone `offset` seconds ahead of UTC. A time stamp
that is given has to be that of the result, up to the leap second; where date or time are incomplete
it completes them. -/
def dateTime (f : Fields) (offset : Int) : Except Unsettled (Date × TimeOfDay) :=
  match f.date, f.time with
  | .ok d, .ok t =>
    match f.timestamp with
    | none => .ok (d, t)
    | some stamp =>
      let own := timestampOf d t - offset
      if stamp = own ∨ (1000000000 ≤ t.nanoseconds ∧ stamp = own + 1) then .ok (d, t)
      else .error .impossible
  | d, t =>
    match f.timestamp, d, t with
    | some stamp, .error .incomplete, .error .incomplete
    | some stamp, .error .incomplete, .ok _
    | some stamp, .ok _, .error .incomplete => f.ofTimestamp stamp offset
    | _, .error e, _ => .error e
    | _, _, .error e => .error e
    | _, .ok d, .ok t => .ok (d, t)

end Fields

end HomeLedger
