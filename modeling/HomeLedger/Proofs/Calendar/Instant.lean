import HomeLedger.Calendar.Instant
import HomeLedger.Proofs.Calendar.Iso

/-!
# HomeLedger — an instant is read from its time stamp

A time stamp shows a second that has more than `10 ^ 9` nanoseconds as the
next one. At the end of a minute that is second 60, which is read as the leap
second it was. Anywhere else it is a second like any other, so the instant
that is read is another one at the same place of the clock
(`Instant.carried`).

Main results:

* `readFractionPart?_fractionText` — nanoseconds are read from the places
  that they need.
* `readStamp?_text` — a time stamp has the parts of its instant.
* `read?_text` — an instant is read from its time stamp.
-/

namespace HomeLedger

open Text

namespace Pattern

-- ---------------------------------------------------------------------------
-- Fractions
-- ---------------------------------------------------------------------------

/-- A number that does not fill its width is read up to what is no digit. This
is where reading depends on what follows. -/
theorem readNumber?_short {width k n : Nat} (hk : 0 < k) (hle : k ≤ width) (hn : n < 10 ^ k)
    (hLimit : n < 2 ^ 63) {rest : List Char} (hRest : ∀ c ∈ rest.head?, c.isDigit = false) :
    readNumber? (some width) (padded k n ++ rest) = some (n, rest) := by
  have hLength := length_padded hk hn
  have hTake : (padded k n ++ rest).take width = padded k n ++ rest.take (width - k) := by
    rw [List.take_append, hLength, List.take_of_length_le (by omega)]
  have hHead : ∀ c ∈ (rest.take (width - k)).head?, c.isDigit = false := by
    intro c hc
    rw [List.head?_take] at hc
    split at hc
    · simp at hc
    · exact hRest c hc
  have hne : ¬(padded k n).isEmpty = true := by simpa using padded_ne_nil k n
  unfold readNumber?
  simp only
  rw [hTake, takeWhile_digits (allDigits_padded k n) hHead, if_neg hne, ofDecimal_padded,
    if_pos hLimit, List.drop_left]

/-- The places of a fraction are counted: three digits are thousandths and nine
are billionths, and the number that is noted is one of billionths. -/
theorem readFraction?_padded {k n : Nat} (hk : 0 < k) (hle : k ≤ 9) (hn : n < 10 ^ k)
    {rest : List Char} (hRest : ∀ c ∈ rest.head?, c.isDigit = false) :
    readFraction? (padded k n ++ rest) = some (n * 10 ^ (9 - k), rest) := by
  have hLimit : n < 2 ^ 63 :=
    (hn.trans_le (Nat.pow_le_pow_right (by decide) hle)).trans (by decide)
  have hPlaces : (padded k n ++ rest).length - rest.length = k := by
    rw [List.length_append, length_padded hk hn]
    omega
  rw [readFraction?, readNumber?_short hk hle hn hLimit hRest]
  simp only [Option.bind_eq_bind, Option.bind_some, hPlaces, dropWhile_digits hRest,
    pure]

/-- Nanoseconds are read from the places that they need; without any, nothing
is noted. -/
theorem readFractionPart?_fractionText {f : Fields} (hf : f.nanosecond = none) {n : Nat}
    (hn : n < 1000000000) (rest : List Char) :
    readFractionPart? f true none (Instant.fractionText n ++ 'Z' :: rest) =
      some ({ f with nanosecond := if n = 0 then none else some n }, 'Z' :: rest) := by
  have hLetter : ∀ c ∈ ('Z' :: rest).head?, c.isDigit = false := by
    intro c hc
    obtain rfl : 'Z' = c := by simpa using hc
    decide
  -- three, six and nine digits differ in the width only
  have hPoint : ∀ {k m : Nat}, 0 < k → k ≤ 9 → m < 10 ^ k → m * 10 ^ (9 - k) = n →
      readFractionPart? f true none ('.' :: padded k m ++ 'Z' :: rest) =
        some ({ f with nanosecond := some n }, 'Z' :: rest) := by
    intro k m hk hle hm hValue
    rw [List.cons_append]
    unfold readFractionPart?
    simp only [readFraction?_padded hk hle hm hLetter, hValue, hf, Fields.agree,
      Option.bind_eq_bind, Option.bind_some, pure]
  unfold Instant.fractionText
  by_cases hZero : n = 0
  · rw [if_pos hZero, if_pos hZero, ← hf]
    rfl
  · rw [if_neg hZero, if_neg hZero]
    by_cases hMillis : n % 1000000 = 0
    · rw [if_pos hMillis]
      exact hPoint (by decide) (by decide) (by omega) (by omega)
    · rw [if_neg hMillis]
      by_cases hMicros : n % 1000 = 0
      · rw [if_pos hMicros]
        exact hPoint (by decide) (by decide) (by omega) (by omega)
      · rw [if_neg hMicros]
        exact hPoint (by decide) (by decide) (by omega) (by omega)

-- ---------------------------------------------------------------------------
-- Times of day
-- ---------------------------------------------------------------------------

/-- An hour is not noted as it is, but by the half of the day and the hour in
it. -/
theorem readPart?_hour {f : Fields} (hHalf : f.halfDay = none) (hPlace : f.hourOfHalf = none)
    {n : Nat} (hn : n < 24) (rest : List Char) : readPart? f .hour (padded 2 n ++ rest) =
      some ({ f with halfDay := some (n / 12), hourOfHalf := some (n % 12) }, rest) := by
  have hBetween : between 0 23 n = some n := between_eq (Nat.zero_le n) (by omega)
  rw [readPart?_two rfl (by omega)]
  simp only [noteNumber?, hBetween, hHalf, hPlace, Fields.agree, Option.bind_eq_bind,
    Option.bind_some, pure, Option.map_some]

theorem readPart?_minute {f : Fields} (hf : f.minute = none) {n : Nat} (hn : n < 60)
    (rest : List Char) : readPart? f .minute (padded 2 n ++ rest) =
      some ({ f with minute := some n }, rest) := by
  have hBetween : between 0 59 n = some n := between_eq (Nat.zero_le n) (by omega)
  rw [readPart?_two rfl (by omega)]
  simp only [noteNumber?, hBetween, hf, Fields.agree, Option.bind_eq_bind, Option.bind_some, pure,
    Option.map_some]

/-- Second 60 is read as well, because a leap second is shown as one. -/
theorem readPart?_second {f : Fields} (hf : f.second = none) {n : Nat} (hn : n ≤ 60)
    (rest : List Char) : readPart? f .second (padded 2 n ++ rest) =
      some ({ f with second := some n }, rest) := by
  have hBetween : between 0 60 n = some n := between_eq (Nat.zero_le n) (by omega)
  rw [readPart?_two rfl (by omega)]
  simp only [noteNumber?, hBetween, hf, Fields.agree, Option.bind_eq_bind, Option.bind_some, pure,
    Option.map_some]

/-- The letter for no offset is read at the end. -/
theorem readOffset?_zulu : readOffset? true false (trimStart ['Z']) = some (0, []) := by
  rw [trimStart_eq_self (by simp; decide)]
  rfl

end Pattern

-- ---------------------------------------------------------------------------
-- Time stamps
-- ---------------------------------------------------------------------------

namespace Instant

/-- The instant that shows the same time without more nanoseconds than a second
has, except in a leap second. This is what comes back when an instant is written
and read. -/
def carried (i : Instant) : Instant :=
  if h : 1000000000 ≤ i.time.nanoseconds ∧ i.time.seconds % 60 ≠ 59 then
    ⟨i.date, ⟨i.time.seconds + 1, i.time.nanoseconds - 1000000000⟩, by
      have := i.seconds_lt
      simp only
      omega, by
      have := i.nanoseconds_lt
      simp only
      omega⟩
  else i

/-- Carrying a second over never leads to another day: the second that is too
long is not the last of a minute. -/
@[simp] theorem date_carried (i : Instant) : i.carried.date = i.date := by
  unfold carried
  split <;> rfl

theorem time_of_carried {i : Instant}
    (h : 1000000000 ≤ i.time.nanoseconds ∧ i.time.seconds % 60 ≠ 59) :
    i.carried.time = ⟨i.time.seconds + 1, i.time.nanoseconds - 1000000000⟩ := by
  unfold carried
  rw [dif_pos h]

/-- An instant is another one when it is carried if it is no leap second and has
too many nanoseconds. No instant that the program takes from a clock is one. -/
theorem carried_eq_self_iff (i : Instant) :
    i.carried = i ↔ (1000000000 ≤ i.time.nanoseconds → i.time.seconds % 60 = 59) := by
  unfold carried
  split
  · next h =>
    constructor
    · intro hEq
      have hSeconds := congrArg (·.time.seconds) hEq
      simp at hSeconds
    · intro hLeap
      exact absurd (hLeap h.1) h.2
  · next h => exact ⟨fun _ hle => Classical.byContradiction fun hne => h ⟨hle, hne⟩, fun _ => rfl⟩

/-- An instant and what it shows have the same time stamp. So a file that was
written once is written as it is ever after. -/
theorem text_carried (i : Instant) : i.carried.text = i.text := by
  by_cases hCarry : 1000000000 ≤ i.time.nanoseconds ∧ i.time.seconds % 60 ≠ 59
  · have hNanoseconds := i.nanoseconds_lt
    have hHour : (i.time.seconds + 1) / 3600 = i.time.seconds / 3600 := by omega
    have hMinute : (i.time.seconds + 1) / 60 % 60 = i.time.seconds / 60 % 60 := by omega
    have hSecond : (i.time.seconds + 1) % 60 + (i.time.nanoseconds - 1000000000) / 1000000000 =
        i.time.seconds % 60 + i.time.nanoseconds / 1000000000 := by omega
    have hFraction : (i.time.nanoseconds - 1000000000) % 1000000000 =
        i.time.nanoseconds % 1000000000 := by omega
    simp only [text, date_carried, time_of_carried hCarry, hHour, hMinute, hSecond, hFraction]
  · rw [(carried_eq_self_iff i).mpr (by omega)]

/-- The parts that are read from the time stamp of an instant. -/
def partsOf (i : Instant) : Fields :=
  let fraction := i.time.nanoseconds % 1000000000
  { Pattern.partsOf i.date with
    halfDay := some (i.time.seconds / 3600 / 12)
    hourOfHalf := some (i.time.seconds / 3600 % 12)
    minute := some (i.time.seconds / 60 % 60)
    second := some (i.time.seconds % 60 + i.time.nanoseconds / 1000000000)
    nanosecond := if fraction = 0 then none else some fraction
    offset := some 0 }

/-- A time stamp has the parts of its instant. Each part is read by its own
rule, in the order in which they are written. -/
theorem readStamp?_text (i : Instant) :
    Pattern.readStamp? {} i.text.toList = some (i.partsOf, []) := by
  have hSeconds := i.seconds_lt
  have hNanoseconds := i.nanoseconds_lt
  have hColon : isBlank ':' = false := by decide
  have hWord : Pattern.dropWord? ['u', 't', 'c'] (trimStart ['Z']) = none := by decide
  have hText : i.text.toList = i.date.isoText.toList ++ 'T' ::
      (padded 2 (i.time.seconds / 3600) ++ ':' :: (padded 2 (i.time.seconds / 60 % 60) ++ ':' ::
        (padded 2 (i.time.seconds % 60 + i.time.nanoseconds / 1000000000) ++
          (fractionText (i.time.nanoseconds % 1000000000) ++ ['Z'])))) := by
    simp only [text, String.toList_append, String.toList_ofList, List.append_assoc,
      List.cons_append]
  -- part by part from the left, each reader leaving what the next one begins with
  rw [hText, Pattern.readStamp?, Pattern.readIsoDate?_isoText]
  simp only [Option.bind_eq_bind, Option.bind_some]
  rw [Pattern.readPart?_hour rfl rfl (by omega)]
  simp only [Option.bind_some, Pattern.readLiteral?_mark hColon]
  rw [Pattern.readPart?_minute rfl (by omega)]
  simp only [Option.bind_some, Pattern.readLiteral?_mark hColon]
  rw [Pattern.readPart?_second rfl (by omega)]
  simp only [Option.bind_some]
  rw [Pattern.readFractionPart?_fractionText rfl (by omega)]
  simp only [Option.bind_some, hWord, Pattern.readOffset?_zulu]
  rfl

/-- The date of a time stamp is that of its instant. -/
theorem date_partsOf (i : Instant) : i.partsOf.date = .ok i.date := by
  have hCandidate : i.partsOf.candidate = .ok i.date := by
    simp [partsOf, Pattern.partsOf, Fields.candidate, Fields.settleYear, Fields.inRange,
      Fields.isoHolds, Fields.ordinalHolds, Fields.holds, Fields.centuryHolds, bind, Except.bind]
  rw [Fields.date, hCandidate]
  rfl

/-- A full set of parts makes up a time, where second 60 is the leap second. It
is the last second of its minute with a second more of nanoseconds. -/
theorem time_of_parts {f : Fields} {half hour minute second : Nat} (hHalf : f.halfDay = some half)
    (hHour : f.hourOfHalf = some hour) (hMinute : f.minute = some minute)
    (hSecond : f.second = some second) :
    f.time = .ok ⟨(12 * half + hour) * 3600 + minute * 60 + (if second = 60 then 59 else second),
      (if second = 60 then 1000000000 else 0) + f.nanosecond.getD 0⟩ := by
  unfold Fields.time
  rw [hHalf, hHour, hMinute, hSecond]
  cases f.nanosecond <;> by_cases hLeap : second = 60 <;> simp [hLeap]

/-- The time of a time stamp is what the instant shows. Seconds of more than a
billion nanoseconds are written as the second after, so the time that is read is
the one that is carried. Only at the end of a minute it is a leap second, which
is written as 60. -/
theorem time_partsOf (i : Instant) : i.partsOf.time = .ok i.carried.time := by
  have hSeconds := i.seconds_lt
  have hNanoseconds := i.nanoseconds_lt
  have hFraction : i.partsOf.nanosecond.getD 0 = i.time.nanoseconds % 1000000000 := by
    show (if i.time.nanoseconds % 1000000000 = 0 then none
      else some (i.time.nanoseconds % 1000000000)).getD 0 = _
    split
    · next h => exact h.symm
    · rfl
  have hClock : (12 * (i.time.seconds / 3600 / 12) + i.time.seconds / 3600 % 12) * 3600 +
      i.time.seconds / 60 % 60 * 60 + i.time.seconds % 60 = i.time.seconds := by omega
  rw [time_of_parts rfl rfl rfl rfl, hFraction, Except.ok.injEq]
  -- only a second that is carried changes anything, and then there is no leap second in the minute
  by_cases hCarry : 1000000000 ≤ i.time.nanoseconds ∧ i.time.seconds % 60 ≠ 59
  · rw [time_of_carried hCarry, if_neg (by omega), if_neg (by omega), TimeOfDay.mk.injEq]
    omega
  · rw [(carried_eq_self_iff i).mpr (by omega)]
    show _ = TimeOfDay.mk i.time.seconds i.time.nanoseconds
    rw [TimeOfDay.mk.injEq]
    by_cases hLeap : i.time.seconds % 60 + i.time.nanoseconds / 1000000000 = 60
    · rw [if_pos hLeap, if_pos hLeap]
      omega
    · rw [if_neg hLeap, if_neg hLeap]
      omega

/-- An instant has seconds and nanoseconds within their bounds, so putting it
together again refuses nothing. -/
theorem ofSeconds?_self (i : Instant) :
    ofSeconds? i.date i.time.seconds i.time.nanoseconds = some i := by
  have hDay : (i.time.seconds : Int) / 86400 = 0 := by
    have := i.seconds_lt
    omega
  have hSeconds : ((i.time.seconds : Int) % 86400).toNat = i.time.seconds := by
    have := i.seconds_lt
    omega
  rw [ofSeconds?, hDay, Date.addDays?, Int.add_zero, Date.ofDayNumber?_dayNumber]
  simp only [Option.bind_eq_bind, Option.bind_some, hSeconds]
  rw [dif_pos i.nanoseconds_lt]
  rfl

/-- An instant is read from its time stamp, up to seconds that are carried over.
An instant that is its own `carried` comes back as it is. -/
theorem read?_text (i : Instant) : read? i.text.toList = some i.carried := by
  have hDateTime : i.partsOf.dateTime 0 = .ok (i.date, i.carried.time) := by
    rw [Fields.dateTime, date_partsOf, time_partsOf]
    rfl
  have hOffset : i.partsOf.offset.getD 0 = 0 := rfl
  have hSelf := i.carried.ofSeconds?_self
  rw [date_carried] at hSelf
  rw [read?, readStamp?_text]
  simp only [Option.bind_eq_bind, Option.bind_some, hOffset, hDateTime]
  rw [if_neg (by decide)]
  show (if Int.natAbs 0 < 86400 then _ else none) = _
  rw [if_pos (by decide), Int.sub_zero]
  exact hSelf

end Instant

end HomeLedger
