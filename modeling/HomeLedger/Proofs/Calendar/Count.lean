import HomeLedger.Proofs.Calendar.Date

/-!
# HomeLedger — days that are counted one by one

What it means that a date is so many days from another is said by the
calendar alone: a day is followed by the next of its month, the last of a
month by the first of the next month, and the last of a year by the first of
the next year (`Date.next?`). The steps over the calendar that the program
takes at once, by adding to the number of a day, come to the same
(`addDays?_eq_some_iff_isDaysFrom`), leap years, the year 0 and the ends of
the calendar included.

Main results:

* `dayNumber_of_ofDayNumber?` — the date of a number has this number.
* `later?_eq_some_iff` — counting from day to day is counting in numbers.
* `addDays?_eq_some_iff_isDaysFrom` — what it means to add days.
* `nextMonth?_eq_some_iff` — what the same day of the next month is.
-/

namespace HomeLedger

-- ---------------------------------------------------------------------------
-- Numbers of days
-- ---------------------------------------------------------------------------

/-- No day comes before the year that its number falls in. The year of a number
is an estimate that is corrected once, so this has to be shown of the correction
and not of the estimate. -/
theorem daysBeforeYear_yearOfDay (n : Int) : daysBeforeYear (yearOfDay n) ≤ n := by
  have hCycle : ∀ r, daysBeforeYear r ≤ n % 146097 →
      daysBeforeYear (n / 146097 * 400 + r) ≤ n := by
    intro r hr
    rw [Int.mul_comm, daysBeforeYear_cycle]
    omega
  unfold yearOfDay
  simp only
  split
  · refine hCycle _ ?_
    unfold daysBeforeYear
    omega
  · exact hCycle _ (by omega)

namespace Date

/-- Passing months one by one loses no day: what is taken from the ordinal is
what the months that were passed come to. This is the invariant by which the way
back from an ordinal is found. -/
theorem daysBeforeMonth_monthAndDay (y : Int) (months month ordinal : Nat) :
    daysBeforeMonth y (monthAndDay y months month ordinal).1 +
      (monthAndDay y months month ordinal).2 = daysBeforeMonth y month + ordinal := by
  induction months generalizing month ordinal with
  | zero => rfl
  | succ months ih =>
    unfold monthAndDay
    split
    · rfl
    · have hStep : daysBeforeMonth y (month + 1) =
        daysBeforeMonth y month + daysInMonth y month := rfl
      rw [ih, hStep]
      omega

/-- A date that is made of a year, a month and a day has these as its parts,
because nothing is carried over into the next month. -/
theorem parts_of_ofParts? {y : Int} {m day : Nat} {d : Date} (h : ofParts? y m day = some d) :
    d.year = y ∧ d.month = m ∧ d.day = day := by
  unfold ofParts? at h
  split at h
  · obtain rfl := Option.some.inj h
    exact ⟨rfl, rfl, rfl⟩
  · simp at h

/-- A date that is found by the day of its year is on that day. Together with
the year this says that the months have been passed rightly. -/
theorem ordinal_of_ofOrdinal? {y : Int} {o : Nat} {d : Date} (h : ofOrdinal? y o = some d) :
    d.year = y ∧ d.ordinal = o := by
  have hParts : ofParts? y (monthAndDay y 12 1 o).1 (monthAndDay y 12 1 o).2 = some d := h
  obtain ⟨hYear, hMonth, hDay⟩ := parts_of_ofParts? hParts
  have hFirst : daysBeforeMonth y 1 = 0 := rfl
  have hSum := daysBeforeMonth_monthAndDay y 12 1 o
  refine ⟨hYear, ?_⟩
  rw [ordinal, hYear, hMonth, hDay]
  omega

/-- The date of a number has this number. With `ofDayNumber?_dayNumber` numbers
and dates are the same thing said twice, as far as the calendar goes. -/
theorem dayNumber_of_ofDayNumber? {n : Int} {d : Date} (h : ofDayNumber? n = some d) :
    d.dayNumber = n := by
  obtain ⟨hYear, hOrdinal⟩ := ordinal_of_ofOrdinal? h
  have hLow := daysBeforeYear_yearOfDay n
  rw [dayNumber, hYear, hOrdinal]
  omega

/-- Dates may be looked for by their number: this turns a search for a date into
arithmetic, which is how all steps below are compared. -/
theorem ofDayNumber?_eq_some_iff {n : Int} {d : Date} :
    ofDayNumber? n = some d ↔ d.dayNumber = n := by
  constructor
  · exact dayNumber_of_ofDayNumber?
  · rintro rfl
    exact ofDayNumber?_dayNumber d

/-- Dates with the same number are the same. -/
theorem eq_of_dayNumber {d e : Date} (h : d.dayNumber = e.dayNumber) : d = e := by
  have hFound := ofDayNumber?_dayNumber d
  rw [h, ofDayNumber?_dayNumber] at hFound
  exact (Option.some.inj hFound).symm

-- ---------------------------------------------------------------------------
-- From day to day
-- ---------------------------------------------------------------------------

/-- The day after, if the calendar goes on: the next of the month, or the first
of the next month, or the first of the next year. The order matters: each is
tried only if the one in front of it is no date. -/
def next? (d : Date) : Option Date :=
  ofParts? d.year d.month (d.day + 1) <|> ofParts? d.year (d.month + 1) 1 <|>
    ofParts? (d.year + 1) 1 1

/-- The date that is so many days later, from day to day. It does not count in
numbers, so that it can be held against an addition that does. -/
def later? (d : Date) : Nat → Option Date
  | 0 => some d
  | k + 1 => (d.later? k).bind next?

/-- Whether a date is so many days after another, or before it if the number is
negative. Days before are counted from the earlier date, since the calendar is
told forwards only. -/
def IsDaysFrom (today : Date) (n : Int) (d : Date) : Prop :=
  (∃ k : Nat, n = k ∧ today.later? k = some d) ∨ ∃ k : Nat, n = -k ∧ d.later? k = some today

/-- What is refused as a date lies outside of the years or outside of its month.
A day within both is never refused. -/
theorem not_isDate_of_ofParts? {y : Int} {m day : Nat} (h : ofParts? y m day = none) :
    ¬((-262143 ≤ y ∧ y ≤ 262142) ∧ 1 ≤ day ∧ day ≤ daysInMonth y m) := by
  rintro ⟨⟨hLow, hHigh⟩, hPos, hDay⟩
  have hValid : isDate y m day = true := by
    simp only [isDate, hLow, hHigh, hPos, hDay, decide_true, Bool.and_self]
  rw [ofParts?, dif_pos hValid] at h
  simp at h

/-- The last day of a month is all the days up to the next month, so that the
count goes on there without a gap. -/
theorem ordinal_last {d : Date} (h : d.day = daysInMonth d.year d.month) :
    d.ordinal = daysBeforeMonth d.year (d.month + 1) := by
  rw [ordinal, h]
  rfl

/-- The last day of a month is the last of a year if no month comes after. -/
theorem month_eq_twelve {y : Int} {m : Nat} (hm : 1 ≤ m ∧ m ≤ 12) (h : daysInMonth y (m + 1) < 1) :
    m = 12 := by
  obtain ⟨hLow, hHigh⟩ := hm
  unfold daysInMonth at h
  grind

/-- How the calendar goes on behind a day: in the same month, in the same year,
in the next year, or not at all. -/
inductive GoesOn (d : Date) : Option Date → Prop
  | inMonth {e : Date} (hYear : e.year = d.year) (hMonth : e.month = d.month)
      (hDay : e.day = d.day + 1) : GoesOn d (some e)
  | inYear {e : Date} (hLast : d.day = daysInMonth d.year d.month) (hYear : e.year = d.year)
      (hMonth : e.month = d.month + 1) (hDay : e.day = 1) : GoesOn d (some e)
  | inNextYear {e : Date} (hLast : d.day = daysInMonth d.year d.month) (hTwelve : d.month = 12)
      (hYear : e.year = d.year + 1) (hMonth : e.month = 1) (hDay : e.day = 1) : GoesOn d (some e)
  | ends (hLast : d.day = daysInMonth d.year d.month) (hTwelve : d.month = 12)
      (hYear : d.year = 262142) : GoesOn d none

/-- There is no other way to go on, and each of them is told by where in its
month and its year the day is. -/
theorem goesOn_next? (d : Date) : GoesOn d d.next? := by
  obtain ⟨hYear, hMonth, hPos, hDay⟩ := d.bounds
  have hNext : d.next? = ((ofParts? d.year d.month (d.day + 1)).or
    ((ofParts? d.year (d.month + 1) 1).or (ofParts? (d.year + 1) 1 1))) := by
    simp only [next?, Option.orElse_eq_orElse, Option.orElse_eq_or]
  rw [hNext]
  -- the three candidates in turn; each one that is no date tells where the month or the year ends
  cases hFirst : ofParts? d.year d.month (d.day + 1) with
  | some e =>
    obtain ⟨hYear', hMonth', hDay'⟩ := parts_of_ofParts? hFirst
    exact .inMonth hYear' hMonth' hDay'
  | none =>
    have hLast : d.day = daysInMonth d.year d.month := by
      have hNot := not_isDate_of_ofParts? hFirst
      omega
    rw [Option.none_or]
    cases hSecond : ofParts? d.year (d.month + 1) 1 with
    | some e =>
      obtain ⟨hYear', hMonth', hDay'⟩ := parts_of_ofParts? hSecond
      exact .inYear hLast hYear' hMonth' hDay'
    | none =>
      have hTwelve : d.month = 12 := by
        have hNot := not_isDate_of_ofParts? hSecond
        exact month_eq_twelve (y := d.year) hMonth (by omega)
      rw [Option.none_or]
      cases hThird : ofParts? (d.year + 1) 1 1 with
      | some e =>
        obtain ⟨hYear', hMonth', hDay'⟩ := parts_of_ofParts? hThird
        exact .inNextYear hLast hTwelve hYear' hMonth' hDay'
      | none =>
        have hNot := not_isDate_of_ofParts? hThird
        have hJanuary : daysInMonth (d.year + 1) 1 = 31 := rfl
        exact .ends hLast hTwelve (by omega)

/-- The first of January is the day on which the count of its year starts. -/
theorem dayNumber_first {e : Date} {y : Int} (hYear : e.year = y) (hMonth : e.month = 1)
    (hDay : e.day = 1) : e.dayNumber = daysBeforeYear y := by
  have hFirst : daysBeforeMonth y 1 = 0 := rfl
  rw [dayNumber, ordinal, hYear, hMonth, hDay, hFirst]
  omega

/-- The last day of December ends its year. -/
theorem dayNumber_last {d : Date} (hDay : d.day = daysInMonth d.year d.month)
    (hMonth : d.month = 12) : d.dayNumber = daysBeforeYear (d.year + 1) - 1 := by
  rw [dayNumber, ordinal_last hDay, hMonth, daysBeforeMonth_thirteen, daysBeforeYear_succ]

/-- The day after has the next number. The three ways to go on are told apart
here, and nowhere below. -/
theorem dayNumber_next? {d e : Date} (h : d.next? = some e) : e.dayNumber = d.dayNumber + 1 := by
  have hOn := goesOn_next? d
  rw [h] at hOn
  cases hOn with
  | inMonth hYear hMonth hDay =>
    rw [dayNumber, ordinal, hYear, hMonth, hDay, dayNumber, ordinal]
    omega
  | inYear hLast hYear hMonth hDay =>
    rw [dayNumber, ordinal, hYear, hMonth, hDay, dayNumber, ordinal_last hLast]
    omega
  | inNextYear hLast hTwelve hYear hMonth hDay =>
    rw [dayNumber_first hYear hMonth hDay, dayNumber_last hLast hTwelve]
    omega

/-- The years follow each other in the count, one after the other or many at
once. -/
theorem daysBeforeYear_mono {y y' : Int} (h : y ≤ y') : daysBeforeYear y ≤ daysBeforeYear y' := by
  unfold daysBeforeYear
  omega

/-- No day comes after the one that is not followed by another, so that a count
from day to day ends only at the end of the calendar. -/
theorem dayNumber_le_of_next? {d : Date} (h : d.next? = none) (e : Date) :
    e.dayNumber ≤ d.dayNumber := by
  have hOn := goesOn_next? d
  rw [h] at hOn
  cases hOn with
  | ends hLast hTwelve hYear =>
    obtain ⟨-, hOrdinal⟩ := e.ordinal_bounds
    have hWithin : e.dayNumber < daysBeforeYear (e.year + 1) := by
      rw [daysBeforeYear_succ, dayNumber]
      omega
    have hMono : daysBeforeYear (e.year + 1) ≤ daysBeforeYear (d.year + 1) :=
      daysBeforeYear_mono (by rw [hYear]; exact Int.add_le_add_right e.bounds.1.2 1)
    rw [dayNumber_last hLast hTwelve]
    omega

/-- Each step from day to day adds one to the number, by induction on the
steps. -/
theorem dayNumber_later? {d e : Date} {k : Nat} (h : d.later? k = some e) :
    e.dayNumber = d.dayNumber + k := by
  induction k generalizing e with
  | zero =>
    obtain rfl := Option.some.inj h
    omega
  | succ k ih =>
    obtain ⟨b, hb, hNext⟩ := Option.bind_eq_some_iff.mp h
    rw [dayNumber_next? hNext, ih hb]
    omega

/-- The calendar does not end before a day that it has: the steps up to it can
all be taken. -/
theorem exists_later? {d e : Date} {k : Nat} (h : d.dayNumber + k ≤ e.dayNumber) :
    ∃ b, d.later? k = some b := by
  induction k with
  | zero => exact ⟨d, rfl⟩
  | succ k ih =>
    obtain ⟨b, hb⟩ := ih (by omega)
    have hNumber := dayNumber_later? hb
    cases hNext : b.next? with
    | some b' => exact ⟨b', by rw [later?, hb, Option.bind_some, hNext]⟩
    | none =>
      have hle := dayNumber_le_of_next? hNext e
      omega

/-- Counting from day to day is counting in numbers. The way there is the number
of the day after, and the way back is that the calendar does not end in
between. -/
theorem later?_eq_some_iff {d e : Date} {k : Nat} :
    d.later? k = some e ↔ e.dayNumber = d.dayNumber + k := by
  constructor
  · exact dayNumber_later?
  · intro h
    obtain ⟨b, hb⟩ := exists_later? (Int.le_of_eq h.symm)
    rw [hb, eq_of_dayNumber ((dayNumber_later? hb).trans h.symm)]

/-- The same for days before, where the steps are taken from the other date. -/
theorem isDaysFrom_iff {today d : Date} {n : Int} :
    IsDaysFrom today n d ↔ d.dayNumber = today.dayNumber + n := by
  unfold IsDaysFrom
  simp only [later?_eq_some_iff]
  constructor
  · rintro (⟨k, rfl, h⟩ | ⟨k, rfl, h⟩) <;> omega
  · intro h
    rcases Int.le_total 0 n with hPos | hNeg
    · exact Or.inl ⟨n.toNat, by omega, by omega⟩
    · exact Or.inr ⟨(-n).toNat, by omega, by omega⟩

/-- The first day of the calendar. -/
def first : Date := ⟨-262143, 1, 1, by decide⟩

/-- The last day of the calendar. -/
def last : Date := ⟨262142, 12, 31, by decide⟩

/-- Nothing is earlier than the first day, because no year is and January is its
first month. -/
theorem first_le (d : Date) : first.dayNumber ≤ d.dayNumber := by
  obtain ⟨hPos, -⟩ := d.ordinal_bounds
  have hMono : daysBeforeYear first.year ≤ daysBeforeYear d.year := daysBeforeYear_mono d.bounds.1.1
  rw [dayNumber_first rfl rfl rfl, dayNumber]
  omega

/-- Nothing is later than the last day, because no day follows it. -/
theorem le_last (d : Date) : d.dayNumber ≤ last.dayNumber :=
  dayNumber_le_of_next? (by decide) d

/-- There is a date so many days from another unless that is outside the
calendar. So whether days can be added is known from the number alone. -/
theorem exists_isDaysFrom_iff {today : Date} {n : Int} : (∃ d, IsDaysFrom today n d) ↔
    first.dayNumber ≤ today.dayNumber + n ∧ today.dayNumber + n ≤ last.dayNumber := by
  simp only [isDaysFrom_iff]
  constructor
  · rintro ⟨d, hd⟩
    rw [← hd]
    exact ⟨first_le d, le_last d⟩
  · rintro ⟨hLow, hHigh⟩
    have hLater : first.dayNumber + ((today.dayNumber + n - first.dayNumber).toNat : Int) ≤
        last.dayNumber := by omega
    obtain ⟨d, hd⟩ := exists_later? hLater
    have hNumber := dayNumber_later? hd
    exact ⟨d, by omega⟩

-- ---------------------------------------------------------------------------
-- Steps over the calendar
-- ---------------------------------------------------------------------------

/-- Adding days leads to the date that is so many days away. The program adds to
the number of a day; here this is shown to be what the calendar means. -/
theorem addDays?_eq_some_iff_isDaysFrom {today d : Date} {n : Int} :
    today.addDays? n = some d ↔ IsDaysFrom today n d := by
  rw [addDays?, ofDayNumber?_eq_some_iff, isDaysFrom_iff]

/-- Dates are not further from each other than a number of 64 bits tells, so
that a number which does not fit into 64 bits leads to no date anyway. -/
theorem bounds_of_isDaysFrom {today d : Date} {n : Int} (h : IsDaysFrom today n d) :
    -(2 ^ 63) ≤ n ∧ n < 2 ^ 63 := by
  have hNumber : ∀ e : Date, -(10 ^ 8) ≤ e.dayNumber ∧ e.dayNumber ≤ 10 ^ 8 := by
    intro e
    obtain ⟨⟨hLow, hHigh⟩, -⟩ := e.bounds
    obtain ⟨hPos, hOrdinal⟩ := e.ordinal_bounds
    have hYear := daysInYear_le e.year
    unfold dayNumber daysBeforeYear
    omega
  have hToday := hNumber today
  have hd := hNumber d
  rw [isDaysFrom_iff] at h
  omega

/-- The next month is one later in the count of all months, and the day is that
of today or the last of the month. The count of all months says in one equation
that December is followed by January of the next year. -/
theorem nextMonth?_eq_some_iff {today d : Date} : today.nextMonth? = some d ↔
    12 * d.year + d.month = 12 * today.year + today.month + 1 ∧
      d.day = min today.day (daysInMonth d.year d.month) := by
  obtain ⟨-, hMonth, -⟩ := today.bounds
  obtain ⟨-, hMonth', -⟩ := d.bounds
  have hParts : ∀ {y : Int} {m : Nat}, 12 * y + m = 12 * today.year + today.month + 1 →
      1 ≤ m → m ≤ 12 → (ofParts? y m (min today.day (daysInMonth y m)) = some d ↔
        12 * d.year + d.month = 12 * today.year + today.month + 1 ∧
          d.day = min today.day (daysInMonth d.year d.month)) := by
    -- a month of the count is a year and a month in one way only, so both can be read off it
    intro y m hCount hLow hHigh
    constructor
    · intro h
      obtain ⟨hYear, hm, hDay⟩ := parts_of_ofParts? h
      rw [hYear, hm]
      exact ⟨hCount, hDay⟩
    · rintro ⟨hCount', hDay⟩
      obtain rfl : d.year = y := by omega
      obtain rfl : d.month = m := by omega
      rw [← hDay]
      exact ofParts?_self d
  unfold nextMonth?
  by_cases hLast : today.month = 12
  · rw [if_pos hLast]
    exact hParts (by omega) (by omega) (by omega)
  · rw [if_neg hLast]
    exact hParts (by omega) (by omega) (by omega)

end Date

end HomeLedger
