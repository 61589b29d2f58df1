import HomeLedger.Calendar.Date

/-!
# HomeLedger — a day and its number

Days are counted, and a day is found again by its number. The count goes by
whole years and then by whole months, and both ways back are estimates that
have to be shown right: a day number is divided by 365 to find its year,
which may give the next year but no other (`yearOfDay_eq`), and the months of
the year are passed one by one (`monthAndDay_eq`).

Main results:

* `Date.bounds` — the parts of a date lie within the calendar.
* `daysBeforeYear_succ` — years follow one another in the count.
* `ofDayNumber?_dayNumber` — a date is found again by its number.
-/

namespace HomeLedger

-- ---------------------------------------------------------------------------
-- The parts of a date
-- ---------------------------------------------------------------------------

theorem daysInMonth_le (y : Int) (m : Nat) : daysInMonth y m ≤ 31 := by
  unfold daysInMonth
  split <;> (try split) <;> decide

/-- Only twelve months have days. -/
theorem month_of_daysInMonth_pos {y : Int} {m : Nat} (h : 0 < daysInMonth y m) :
    1 ≤ m ∧ m ≤ 12 := by
  unfold daysInMonth at h
  split at h
  all_goals first
    | exact ⟨by decide, by decide⟩
    | exact absurd h (by decide)

namespace Date

/-- The parts of a date lie within the calendar. A date carries this fact about
itself; here it is taken apart for arithmetic. -/
theorem bounds (d : Date) : (-262143 ≤ d.year ∧ d.year ≤ 262142) ∧ (1 ≤ d.month ∧ d.month ≤ 12) ∧
    1 ≤ d.day ∧ d.day ≤ daysInMonth d.year d.month := by
  have hValid := d.valid
  simp only [isDate, Bool.and_eq_true, decide_eq_true_eq] at hValid
  obtain ⟨⟨⟨hLow, hHigh⟩, hDay⟩, hMonth⟩ := hValid
  exact ⟨⟨hLow, hHigh⟩, month_of_daysInMonth_pos (y := d.year) (by omega), hDay, hMonth⟩

/-- A day has two digits, which is what its place in a text is made for. -/
theorem day_le (d : Date) : d.day ≤ 31 := Nat.le_trans d.bounds.2.2.2 (daysInMonth_le _ _)

end Date

-- ---------------------------------------------------------------------------
-- Years
-- ---------------------------------------------------------------------------

/-- Years follow one another in the count. -/
theorem daysBeforeYear_succ (y : Int) :
    daysBeforeYear (y + 1) = daysBeforeYear y + (daysInYear y : Int) := by
  unfold daysBeforeYear daysInYear
  by_cases hLeap : isLeapYear y = true
  · rw [if_pos hLeap]
    simp only [isLeapYear, Bool.and_eq_true, Bool.or_eq_true, beq_iff_eq, bne_iff_ne] at hLeap
    omega
  · rw [if_neg hLeap]
    simp only [isLeapYear, Bool.and_eq_true, Bool.or_eq_true, beq_iff_eq, bne_iff_ne] at hLeap
    omega

/-- Every 400 years are as long as every other 400, so that a year may be moved
into one cycle before it is looked for. -/
theorem daysBeforeYear_cycle (q r : Int) :
    daysBeforeYear (400 * q + r) = 146097 * q + daysBeforeYear r := by
  unfold daysBeforeYear
  omega

/-- A year is too short for a number of its days to be divided by 365 to more
than one. -/
theorem daysInYear_le (y : Int) : daysInYear y ≤ 366 := by
  unfold daysInYear
  split <;> omega

/-- A day number falls in the year whose days it is among. The division by 365
may give the next year, since leap days add up, but then the number is before
that year and the correction takes one off. -/
theorem yearOfDay_eq {y n : Int} (hLow : daysBeforeYear y ≤ n)
    (hHigh : n < daysBeforeYear y + (daysInYear y : Int)) : yearOfDay n = y := by
  -- All of it happens within one cycle, where the leap days so far are at most 97.
  obtain ⟨q, r, hy, hr⟩ : ∃ q r : Int, y = 400 * q + r ∧ 0 ≤ r ∧ r < 400 :=
    ⟨y / 400, y % 400, by omega, by omega, by omega⟩
  have hNext := daysBeforeYear_succ y
  rw [← hNext, hy, Int.add_assoc, daysBeforeYear_cycle] at hHigh
  rw [hy, daysBeforeYear_cycle] at hLow
  have hSucc := daysBeforeYear_succ r
  have hle := daysInYear_le r
  have hCycle : n / 146097 = q ∧ n % 146097 = n - 146097 * q := by
    unfold daysBeforeYear at hLow hHigh
    omega
  have hGuess : (n - 146097 * q) / 365 = r ∨ (n - 146097 * q) / 365 = r + 1 := by
    unfold daysBeforeYear at hLow hHigh
    omega
  unfold yearOfDay
  simp only
  rw [hCycle.1, hCycle.2, hy]
  rcases hGuess with hGuess | hGuess
  · rw [hGuess, if_neg (by omega)]
    omega
  · rw [hGuess, if_pos (by omega)]
    omega

-- ---------------------------------------------------------------------------
-- Months
-- ---------------------------------------------------------------------------

theorem daysBeforeMonth_mono (y : Int) {m m' : Nat} (h : m ≤ m') :
    daysBeforeMonth y m ≤ daysBeforeMonth y m' := by
  induction h with
  | refl => exact Nat.le_refl _
  | step _ ih => exact Nat.le_trans ih (Nat.le_add_right _ _)

/-- The twelve months make up the year. -/
theorem daysBeforeMonth_thirteen (y : Int) : daysBeforeMonth y 13 = daysInYear y := by
  unfold daysInYear
  by_cases hLeap : isLeapYear y = true
  · simp [daysBeforeMonth, daysInMonth, hLeap]
  · simp [daysBeforeMonth, daysInMonth, hLeap]

namespace Date

/-- The months are passed up to the one that the day is in. What is left of the
ordinal is the day of that month, as long as there are months enough to pass. -/
theorem monthAndDay_eq {y : Int} {m day : Nat} (hPos : 1 ≤ day) (hDay : day ≤ daysInMonth y m)
    (months month ordinal : Nat) (hMonth : month ≤ m) (hEnough : m < month + months)
    (hOrdinal : daysBeforeMonth y month + ordinal = daysBeforeMonth y m + day) :
    monthAndDay y months month ordinal = (m, day) := by
  induction months generalizing month ordinal with
  | zero => omega
  | succ months ih =>
    have hStep : daysBeforeMonth y (month + 1) =
      daysBeforeMonth y month + daysInMonth y month := rfl
    unfold monthAndDay
    by_cases hHere : month = m
    · obtain rfl := hHere
      obtain rfl : ordinal = day := by omega
      rw [if_pos hDay]
    · have hMono : daysBeforeMonth y (month + 1) ≤ daysBeforeMonth y m :=
        daysBeforeMonth_mono y (by omega)
      rw [if_neg (by omega)]
      exact ih (month + 1) _ (by omega) (by omega) (by omega)

/-- The day of a date is among those of its year. -/
theorem ordinal_bounds (d : Date) : 1 ≤ d.ordinal ∧ d.ordinal ≤ daysInYear d.year := by
  obtain ⟨-, ⟨-, hMonth⟩, hPos, hDay⟩ := d.bounds
  have hMono : daysBeforeMonth d.year (d.month + 1) ≤ daysBeforeMonth d.year 13 :=
    daysBeforeMonth_mono d.year (by omega)
  rw [daysBeforeMonth_thirteen] at hMono
  have hStep : daysBeforeMonth d.year (d.month + 1) =
    daysBeforeMonth d.year d.month + daysInMonth d.year d.month := rfl
  unfold ordinal
  omega

theorem ofOrdinal?_ordinal (d : Date) : ofOrdinal? d.year d.ordinal = some d := by
  obtain ⟨-, ⟨hLow, hHigh⟩, hPos, hDay⟩ := d.bounds
  have hFirst : daysBeforeMonth d.year 1 = 0 := rfl
  have hParts : monthAndDay d.year 12 1 d.ordinal = (d.month, d.day) := by
    refine monthAndDay_eq hPos hDay 12 1 d.ordinal hLow (by omega) ?_
    rw [hFirst, ordinal]
    omega
  rw [ofOrdinal?, hParts]
  exact ofParts?_self d

/-- A date is found again by its number: first its year, then its month, and
what is left is the day. -/
theorem ofDayNumber?_dayNumber (d : Date) : ofDayNumber? d.dayNumber = some d := by
  obtain ⟨hLow, hHigh⟩ := d.ordinal_bounds
  have hYear : yearOfDay d.dayNumber = d.year := by
    refine yearOfDay_eq ?_ ?_ <;> (unfold dayNumber; omega)
  have hOrdinal : (d.dayNumber - daysBeforeYear d.year + 1).toNat = d.ordinal := by
    unfold dayNumber
    omega
  rw [ofDayNumber?, hYear, hOrdinal, ofOrdinal?_ordinal]

end Date

end HomeLedger
