import HomeLedger.Calendar.Pattern.Read
import HomeLedger.Proofs.Calendar.Date
import HomeLedger.Proofs.Text.Blank
import HomeLedger.Proofs.Text.Digits

/-!
# HomeLedger — a date is read from year, month and day

The form `2026-01-31` serves every date of the calendar, those of years that
need a sign included. Its parts are read one after the other, each by a rule
of its own that says nothing about what follows: a month and a day fill their
two digits, and a year ends at its hyphen.

Main results:

* `readPart?_year` / `readPart?_two` — reading one part.
* `date_partsOf` — year, month and day make up the date that they are of.
* `read?_isoText` / `ofIso?_isoText` — a date is read from its form.
-/

namespace HomeLedger

open Text

namespace Pattern

-- ---------------------------------------------------------------------------
-- Numbers
-- ---------------------------------------------------------------------------

/-- A number that fills its width is read whatever follows, digits included. For
this reason a month and a day need nothing behind them to end. -/
theorem readNumber?_padded {width n : Nat} (hWidth : 0 < width) (hn : n < 10 ^ width)
    (hLimit : n < 2 ^ 63) (rest : List Char) :
    readNumber? (some width) (padded width n ++ rest) = some (n, rest) := by
  have hLength := length_padded hWidth hn
  have hDigits : ((padded width n ++ rest).take width).takeWhile Char.isDigit = padded width n := by
    rw [List.take_left' hLength, List.takeWhile_eq_self_iff]
    exact allDigits_padded width n
  have hne : ¬(padded width n).isEmpty = true := by simpa using padded_ne_nil width n
  unfold readNumber?
  simp only
  rw [hDigits, if_neg hne, ofDecimal_padded, if_pos hLimit, List.drop_left]

/-- A number of any width is read up to what is no digit. A year is such a
number, and it is the hyphen that ends it. -/
theorem readNumber?_none {width n : Nat} (hLimit : n < 2 ^ 63) {rest : List Char}
    (hRest : ∀ c ∈ rest.head?, c.isDigit = false) :
    readNumber? none (padded width n ++ rest) = some (n, rest) := by
  have hne : ¬(padded width n).isEmpty = true := by simpa using padded_ne_nil width n
  unfold readNumber?
  simp only
  rw [takeWhile_digits (allDigits_padded width n) hRest, if_neg hne, ofDecimal_padded,
    if_pos hLimit, List.drop_left]

/-- A number begins with a digit, and so with no blank and no sign. -/
theorem padded_head (width n : Nat) (rest : List Char) :
    ∃ c cs, padded width n ++ rest = c :: cs ∧ c.isDigit = true := by
  obtain ⟨c, cs, hCons⟩ := List.exists_cons_of_ne_nil (padded_ne_nil width n)
  refine ⟨c, cs ++ rest, by rw [hCons]; rfl, ?_⟩
  exact allDigits_padded width n c (by simp [hCons])

theorem trimStart_padded (width n : Nat) (rest : List Char) :
    trimStart (padded width n ++ rest) = padded width n ++ rest := by
  obtain ⟨c, cs, hCons, hc⟩ := padded_head width n rest
  refine trimStart_eq_self ?_
  rw [hCons]
  intro c' hc'
  obtain rfl : c = c' := by simpa using hc'
  exact isBlank_of_isDigit hc

-- ---------------------------------------------------------------------------
-- Years
-- ---------------------------------------------------------------------------

/-- The text of a year: its digits where four are enough, else a sign and
digits. Years that are read back differ by which of the three they are. -/
theorem yearText_cases (y : Int) :
    (∃ n : Nat, y = n ∧ n < 10 ^ 4 ∧ Date.yearText .zero y = padded 4 n) ∨
    (y < 0 ∧ Date.yearText .zero y = '-' :: padded 4 y.natAbs) ∨
    (0 ≤ y ∧ Date.yearText .zero y = '+' :: padded 4 y.natAbs) := by
  unfold Date.yearText
  split
  · next h => exact Or.inl ⟨y.toNat, by omega, by omega, rfl⟩
  · by_cases hy : y < 0
    · exact Or.inr (Or.inl ⟨hy, by rw [if_pos hy]; rfl⟩)
    · exact Or.inr (Or.inr ⟨by omega, by rw [if_neg hy]; rfl⟩)

/-- A year is read up to the hyphen behind it. Four digits have no sign, and are
read as four; a year that needs more has its sign, and then all the digits that
stand there are read. -/
theorem readYear?_yearText {y : Int} (hy : y.natAbs < 2 ^ 31) (rest : List Char) :
    readYear? (Date.yearText .zero y ++ '-' :: rest) = some (y, '-' :: rest) := by
  have hHyphen : ∀ c ∈ ('-' :: rest).head?, c.isDigit = false := by
    intro c hc
    obtain rfl : '-' = c := by simpa using hc
    decide
  have hLimit : y.natAbs < 2 ^ 63 := hy.trans (by decide)
  rcases yearText_cases y with ⟨n, rfl, hn, hText⟩ | ⟨hNeg, hText⟩ | ⟨hPos, hText⟩
  -- four digits begin with no sign, so the reader takes no sign
  · obtain ⟨c, cs, hCons, hc⟩ := padded_head 4 n ('-' :: rest)
    obtain ⟨hMinus, hPlus, -⟩ := ne_of_isDigit hc
    have hRead := readNumber?_padded (by decide) hn (by omega) ('-' :: rest)
    rw [hCons] at hRead
    rw [hText, hCons]
    unfold readYear?
    split
    · next hEq => exact absurd (List.cons.inj hEq).1 hMinus
    · next hEq => exact absurd (List.cons.inj hEq).1 hPlus
    · rw [hRead]
      rfl
  · rw [hText, List.cons_append]
    -- behind a sign the reader takes all the digits that there are
    show (readNumber? none (padded 4 y.natAbs ++ '-' :: rest)).map _ = _
    rw [readNumber?_none hLimit hHyphen]
    simp only [Option.map_some, Option.some.injEq, Prod.mk.injEq, and_true]
    omega
  · rw [hText, List.cons_append]
    show (readNumber? none (padded 4 y.natAbs ++ '-' :: rest)).map _ = _
    rw [readNumber?_none hLimit hHyphen]
    simp only [Option.map_some, Option.some.injEq, Prod.mk.injEq, and_true]
    omega

/-- A year is no blank at its beginning, be it with a sign or without, so
nothing is trimmed in front of it. -/
theorem trimStart_yearText (y : Int) (rest : List Char) :
    trimStart (Date.yearText .zero y ++ rest) = Date.yearText .zero y ++ rest := by
  rcases yearText_cases y with ⟨n, -, -, hText⟩ | ⟨-, hText⟩ | ⟨-, hText⟩
  · rw [hText]
    exact trimStart_padded 4 n rest
  · rw [hText]
    exact trimStart_eq_self (by simp; decide)
  · rw [hText]
    exact trimStart_eq_self (by simp; decide)

-- ---------------------------------------------------------------------------
-- Parts
-- ---------------------------------------------------------------------------

/-- A year is read and noted if none has been. A year that is given twice would
have to agree with itself. -/
theorem readPart?_year {f : Fields} (hf : f.year = none) {y : Int} (hy : y.natAbs < 2 ^ 31)
    (rest : List Char) : readPart? f .year (Date.yearText .zero y ++ '-' :: rest) =
      some ({ f with year := some y }, '-' :: rest) := by
  have hRange : yearInRange y = some y := by
    unfold yearInRange
    rw [if_pos (by omega)]
  unfold readPart?
  simp only [trimStart_yearText, readYear?_yearText hy, noteNumber?, hRange, hf, Fields.agree,
    Option.bind_eq_bind, Option.bind_some, pure]

/-- A part of two digits is read and noted. -/
theorem readPart?_two {f : Fields} {part : NumberPart} (hPart : widthOf part = some 2) {n : Nat}
    (hn : n < 100) (rest : List Char) :
    readPart? f part (padded 2 n ++ rest) = (noteNumber? f part n).map (·, rest) := by
  have hRead : readNumber? (some 2) (padded 2 n ++ rest) = some (n, rest) :=
    readNumber?_padded (by decide) hn (by omega) rest
  unfold readPart?
  simp only [trimStart_padded]
  split
  · simp [widthOf] at hPart
  · simp [widthOf] at hPart
  · rw [hPart, hRead]
    simp only [Option.map_some, Option.bind_eq_bind, Option.bind_some]
    cases noteNumber? f part n <;> rfl

/-- A number between its bounds is kept. -/
theorem between_eq {low high n : Nat} (hLow : low ≤ n) (hHigh : n ≤ high) :
    between low high n = some n := by
  unfold between
  rw [if_pos (by omega), Int.toNat_natCast]

/-- The month of a date passes the check that keeps months between 1 and 12. -/
theorem readPart?_month {f : Fields} (hf : f.month = none) (d : Date) (rest : List Char) :
    readPart? f .month (padded 2 d.month ++ rest) =
      some ({ f with month := some d.month }, rest) := by
  obtain ⟨-, ⟨hLow, hHigh⟩, -⟩ := d.bounds
  rw [readPart?_two rfl (by omega)]
  simp only [noteNumber?, between_eq hLow hHigh, hf, Fields.agree, Option.bind_eq_bind,
    Option.bind_some, pure, Option.map_some]

/-- The day of a date passes the check that keeps days between 1 and 31. -/
theorem readPart?_day {f : Fields} (hf : f.day = none) (d : Date) (rest : List Char) :
    readPart? f .day (padded 2 d.day ++ rest) = some ({ f with day := some d.day }, rest) := by
  obtain ⟨-, -, hDay, -⟩ := d.bounds
  have hle := d.day_le
  rw [readPart?_two rfl (by omega)]
  simp only [noteNumber?, between_eq hDay hle, hf, Fields.agree, Option.bind_eq_bind,
    Option.bind_some, pure, Option.map_some]

-- ---------------------------------------------------------------------------
-- Dates
-- ---------------------------------------------------------------------------

/-- The parts of a date. -/
def partsOf (d : Date) : Fields := { year := some d.year, month := some d.month, day := some d.day }

/-- Year, month and day make up the date that they are of. -/
theorem date_partsOf (d : Date) : (partsOf d).date = .ok d := by
  have hCandidate : (partsOf d).candidate = .ok d := by
    simp [partsOf, Fields.candidate, Fields.settleYear, Fields.inRange, Fields.isoHolds,
      Fields.ordinalHolds, Fields.holds, Fields.centuryHolds, bind, Except.bind]
  rw [Fields.date, hCandidate]
  rfl

/-- The form of a date, taken apart into the pieces that are read one after the
other. -/
theorem isoText_append (d : Date) (rest : List Char) : d.isoText.toList ++ rest =
    Date.yearText .zero d.year ++ '-' :: (padded 2 d.month ++ '-' :: (padded 2 d.day ++ rest)) := by
  rw [Date.isoText, String.toList_ofList]
  simp only [List.append_assoc, List.cons_append, Date.fill, padded]

/-- A mark that is no blank is passed over. -/
theorem readLiteral?_mark {c : Char} (h : isBlank c = false) (cs : List Char) :
    readLiteral? c (trimStart (c :: cs)) = some cs := by
  rw [trimStart_eq_self (by simpa using h), readLiteral?, if_pos rfl]

/-- The parts of a date are read from its form, whatever follows. A time stamp
goes on behind it. -/
theorem readIsoDate?_isoText (d : Date) (rest : List Char) :
    readIsoDate? {} (d.isoText.toList ++ rest) = some (partsOf d, rest) := by
  have hYear : d.year.natAbs < 2 ^ 31 := by
    have := d.bounds.1
    omega
  have hHyphen : isBlank '-' = false := by decide
  rw [isoText_append, readIsoDate?, readPart?_year rfl hYear]
  simp only [Option.bind_eq_bind, Option.bind_some, readLiteral?_mark hHyphen]
  rw [readPart?_month rfl]
  simp only [Option.bind_some, readLiteral?_mark hHyphen]
  rw [readPart?_day rfl]
  rfl

end Pattern

namespace Date

open Pattern

/-- A date is read from its form. -/
theorem ofIso?_isoText (d : Date) : ofIso? d.isoText.toList = some d := by
  rw [← List.append_nil d.isoText.toList, ofIso?, readIsoDate?_isoText]
  simp only [Option.bind_eq_bind, Option.bind_some, date_partsOf]
  rfl

/-- So it is by the pattern of the form. A file is read by the one reader and a
text that is typed by the other, and both agree on what is written in this
form. -/
theorem read?_isoText (d : Date) : Date.read? "%Y-%m-%d" d.isoText.toList = some d := by
  have hYear : d.year.natAbs < 2 ^ 31 := by
    have := d.bounds.1
    omega
  have hItems : items? "%Y-%m-%d".toList = some iso := by decide
  have hParts : readItems? {} d.isoText.toList iso = some (partsOf d, []) := by
    rw [← List.append_nil d.isoText.toList, isoText_append]
    show readItems? {} _ [.number .year .zero, .literal '-', .number .month .zero, .literal '-',
      .number .day .zero] = _
    simp only [readItems?, readItem?]
    rw [readPart?_year rfl hYear]
    simp only [Option.bind_eq_bind, Option.bind_some, readLiteral?, if_true, Option.map_some]
    rw [readPart?_month rfl]
    simp only [Option.bind_some, if_true, Option.map_some]
    rw [readPart?_day rfl]
    rfl
  rw [Date.read?, Pattern.read?, hItems]
  simp only [Option.bind_eq_bind, Option.bind_some, hParts, date_partsOf]
  rfl

end Date

end HomeLedger
