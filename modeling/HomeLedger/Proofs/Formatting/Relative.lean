import HomeLedger.Proofs.Calendar.Count
import HomeLedger.Proofs.Formatting.Date
import HomeLedger.Proofs.Text.PlainNumber
import HomeLedger.Proofs.Text.Words

/-!
# HomeLedger — dates that are named from today

Under the patterns that are chosen to begin with, a text that names a day from
today is never taken for a date of a pattern: these ask for a slash, or for
two hyphens, and what names a day has at most one hyphen, in front of its
number. So its words decide, in any case and with any blanks between them, and
the date is the one that they say: so many days from today, or the same day of
the next month. A number of days may be as large as one likes; where it leads
out of the calendar, or does not fit 64 bits, there is no date.

Main results:

* `readInt64?_chars` — what is read from a whole number.
* `date?_of_spells` — the words of a text decide.
* `date?_relative` — the date that a text names from today.
-/

namespace HomeLedger

open Text

-- ---------------------------------------------------------------------------
-- Whole numbers
-- ---------------------------------------------------------------------------

namespace Text.PlainNumber

variable {m : PlainNumber}

theorem chars_of_whole (h : m.fraction = []) : m.chars = m.sign.chars ++ m.whole := by
  rw [chars, unsigned, if_pos h, List.append_nil]

/-- A numeral is a word: it is not empty, and there is no blank in it and
nothing beyond ASCII. -/
theorem isPlainWord_chars (m : PlainNumber) : IsPlainWord m.chars where
  ne_nil := m.chars_ne_nil
  ascii c hc := by
    rcases mem_chars hc with hDigit | rfl | rfl | rfl
    · have hBounds := toNat_of_isDigit hDigit
      omega
    all_goals decide
  isBlank c hc := isBlank_of_mem_chars hc

theorem slash_notMem_chars (m : PlainNumber) : '/' ∉ m.chars := by
  intro h
  rcases mem_chars h with hDigit | hSign | hSign | hPoint
  · exact absurd hDigit (by decide)
  all_goals simp at *

/-- The only hyphen of a whole number is its sign. -/
theorem count_hyphen_chars (h : m.fraction = []) : m.chars.count '-' ≤ 1 := by
  have hDigits : m.whole.count '-' = 0 :=
    List.count_eq_zero_of_not_mem fun h => absurd (m.whole_digits _ h) (by decide)
  have hSign : m.sign.chars.count '-' ≤ 1 := by cases m.sign <;> decide
  rw [chars_of_whole h, List.count_append, hDigits]
  exact hSign

/-- A whole number is read if it fits 64 bits. The bound is on the number and
not on its digits, since zeros may stand in front. -/
theorem readInt64?_chars (h : m.fraction = []) : readInt64? m.chars =
    if -(2 ^ 63) ≤ m.signed ∧ m.signed < 2 ^ 63 then some m.signed else none := by
  have hDigits : m.whole ≠ [] ∧ m.whole.all Char.isDigit = true :=
    ⟨m.whole_ne_nil, List.all_eq_true.mpr m.whole_digits⟩
  have hUnits : m.units = ofDecimal m.whole := by rw [units, h, List.append_nil]
  rw [chars_of_whole h, signed, hUnits]
  cases m.sign with
  | minus =>
    show (if m.whole ≠ [] ∧ m.whole.all Char.isDigit = true then _ else none) = _
    rw [if_pos hDigits]
    rfl
  | plus =>
    show (if m.whole ≠ [] ∧ m.whole.all Char.isDigit = true then _ else none) = _
    rw [if_pos hDigits]
    rfl
  | absent =>
    -- a digit in front is no sign, so the reader takes all of it as digits
    obtain ⟨c, cs, hCons⟩ := List.exists_cons_of_ne_nil m.whole_ne_nil
    obtain ⟨hMinus, hPlus, -⟩ := ne_of_isDigit (m.whole_digits c (by simp [hCons]))
    have hUnsigned : readInt64? (c :: cs) =
        if c :: cs ≠ [] ∧ (c :: cs).all Char.isDigit = true then
          if -(2 ^ 63) ≤ (ofDecimal (c :: cs) : Int) ∧ (ofDecimal (c :: cs) : Int) < 2 ^ 63 then
            some (ofDecimal (c :: cs) : Int)
          else none
        else none := by
      unfold readInt64?
      split
      next hEq =>
        split at hEq
        · next hcs => exact absurd (List.cons.inj hcs).1 hMinus
        · next hcs => exact absurd (List.cons.inj hcs).1 hPlus
        · obtain ⟨rfl, rfl⟩ := Prod.mk.inj hEq
          rfl
    rw [Sign.chars, List.nil_append, hCons, hUnsigned, ← hCons, if_pos hDigits]
    rfl

end Text.PlainNumber

-- ---------------------------------------------------------------------------
-- Words that name a day
-- ---------------------------------------------------------------------------

/-- Words that name a day by the number of days that it is from today. There is
no other way to name one but the next month, which is not a number of days. -/
inductive NamesOffset : List (List Char) → Int → Prop
  | today : NamesOffset ["today".toList] 0
  | tomorrow : NamesOffset ["tomorrow".toList] 1
  | yesterday : NamesOffset ["yesterday".toList] (-1)
  | nextWeek : NamesOffset ["next".toList, "week".toList] 7
  | days (m : PlainNumber) (hWhole : m.fraction = []) {unit : String}
      (hUnit : unit = "day" ∨ unit = "days") : NamesOffset [m.chars, unit.toList] m.signed

/-- Words that are no part of a date by a pattern: plain ones without a slash,
and with one hyphen at most. No pattern that is chosen to begin with reads such
words. -/
structure AreSpoken (ws : List (List Char)) : Prop where
  plain : ∀ w ∈ ws, IsPlainWord w
  slash : ws.flatten.count '/' = 0
  hyphen : ws.flatten.count '-' ≤ 1

/-- Whether a word is made of lower-case letters. -/
def IsLetters (w : List Char) : Prop := w ≠ [] ∧ w.all Char.isLower = true

instance (w : List Char) : Decidable (IsLetters w) := inferInstanceAs (Decidable (_ ∧ _))

theorem IsLetters.isPlainWord {w : List Char} (h : IsLetters w) : IsPlainWord w := by
  have hLetter : ∀ c ∈ w, 97 ≤ c.toNat ∧ c.toNat ≤ 122 := by
    intro c hc
    have hLower : (decide ('a'.val ≤ c.val) && decide (c.val ≤ 'z'.val)) = true :=
      List.all_eq_true.mp h.2 c hc
    simpa [UInt32.le_iff_toNat_le] using hLower
  refine ⟨h.1, fun c hc => ?_, fun c hc => ?_⟩
  · have hBounds := hLetter c hc
    omega
  · have hBounds := hLetter c hc
    exact isBlank_of_letter (by omega) hBounds.2

/-- No sign is in words of letters, so that a sign of the text is one of its
number. -/
theorem count_letters {ws : List (List Char)} (h : ∀ w ∈ ws, IsLetters w) {c : Char}
    (hc : c.isLower = false) : ws.flatten.count c = 0 := by
  refine List.count_eq_zero_of_not_mem fun hMem => ?_
  obtain ⟨w, hw, hcw⟩ := List.mem_flatten.mp hMem
  rw [List.all_eq_true.mp (h w hw).2 c hcw] at hc
  exact Bool.false_ne_true hc.symm

namespace AreSpoken

theorem of_letters {ws : List (List Char)} (h : ∀ w ∈ ws, IsLetters w) : AreSpoken ws where
  plain w hw := (h w hw).isPlainWord
  slash := count_letters h (by decide)
  hyphen := by rw [count_letters h (by decide)]; exact Nat.zero_le 1

/-- A number may come first. -/
theorem cons {w : List Char} (hw : IsPlainWord w) (hSlash : '/' ∉ w) (hHyphen : w.count '-' ≤ 1)
    {ws : List (List Char)} (hws : ∀ w ∈ ws, IsLetters w) : AreSpoken (w :: ws) where
  plain := List.forall_mem_cons.mpr ⟨hw, fun w' hw' => (hws w' hw').isPlainWord⟩
  slash := by
    rw [List.flatten_cons, List.count_append, count_letters hws (by decide),
      List.count_eq_zero_of_not_mem hSlash]
  hyphen := by
    rw [List.flatten_cons, List.count_append, count_letters hws (by decide)]
    exact hHyphen

/-- So no words that name a day are part of a date, be there a number or not. -/
theorem of_namesOffset {ws : List (List Char)} {n : Int} (h : NamesOffset ws n) :
    AreSpoken ws := by
  cases h with
  | today | tomorrow | yesterday | nextWeek => exact of_letters (by decide)
  | days m hWhole hUnit =>
    refine cons m.isPlainWord_chars m.slash_notMem_chars (m.count_hyphen_chars hWhole) ?_
    rcases hUnit with rfl | rfl <;> decide

end AreSpoken

/-- Two words with a unit behind a number are read as that number of days. -/
theorem Date.ofWords?_days (today : Date) (s : String) {unit : String}
    (hUnit : unit = "day" ∨ unit = "days") :
    today.ofWords? [s, unit] = (readInt64? s.toList).bind today.addDays? := by
  rcases hUnit with rfl | rfl <;>
    · unfold ofWords?
      split <;> simp_all

/-- What the words say is a number of days. A number that does not fit 64 bits
names no date, and there is none so far away. -/
theorem Date.ofWords?_of_namesOffset {ws : List (List Char)} {n : Int} (h : NamesOffset ws n)
    (today d : Date) :
    today.ofWords? (ws.map String.ofList) = some d ↔ IsDaysFrom today n d := by
  have hZero : IsDaysFrom today 0 d ↔ some today = some d := by
    rw [isDaysFrom_iff, Option.some.injEq, Int.add_zero]
    exact ⟨fun h => (eq_of_dayNumber h).symm, fun h => by rw [h]⟩
  cases h with
  | today => exact hZero.symm
  | tomorrow => exact addDays?_eq_some_iff_isDaysFrom
  | yesterday => exact addDays?_eq_some_iff_isDaysFrom
  | nextWeek => exact addDays?_eq_some_iff_isDaysFrom
  | @days m hWhole unit hUnit =>
    have hWords : today.ofWords? ([m.chars, unit.toList].map String.ofList) =
        (readInt64? m.chars).bind today.addDays? := by
      rw [List.map_cons, List.map_cons, List.map_nil, String.ofList_toList,
        ofWords?_days today _ hUnit, String.toList_ofList]
    rw [hWords, m.readInt64?_chars hWhole]
    split
    · exact addDays?_eq_some_iff_isDaysFrom
    -- no day is as far away as a number that is too large
    · next hLarge =>
      constructor
      · intro h
        simp at h
      · intro h
        exact absurd (bounds_of_isDaysFrom h) hLarge

-- ---------------------------------------------------------------------------
-- Texts that name a day
-- ---------------------------------------------------------------------------

namespace Formatting

open Pattern

variable {f : Formatting} {raw : String} {ws : List (List Char)}

/-- The form with year, month and day asks for two hyphens. -/
theorem read?_iso_none {cs : List Char} (h : cs.count '-' ≤ 1) :
    Date.read? "%Y-%m-%d" cs = none := by
  have hItems : items? "%Y-%m-%d".toList = some iso := rfl
  rw [Date.read?, Pattern.read?, hItems]
  cases hRead : readItems? {} cs iso with
  | none => simp [hRead]
  | some found =>
    have hCount := count_of_readItems? hRead '-'
    have hTwo : iso.count (.literal '-') = 2 := by decide
    omega

/-- The words of a text decide which day it names. First it is shown that
neither pattern and no other form reads the text. -/
theorem date?_of_spells (hShort : f.shortDatePattern = ({} : Formatting).shortDatePattern)
    (hTime : f.shortDateTimePattern = ({} : Formatting).shortDateTimePattern)
    (h : Spells raw.toList ws) (hws : AreSpoken ws) (today : Date) :
    f.date? raw today = today.ofWords? (ws.map String.ofList) := by
  -- the text has no more of a character than its words have, if that has no case
  have hCount : ∀ {c : Char}, lowerChar c = c → isBlank c = false →
      (trim raw.toList).count c ≤ ws.flatten.count c := by
    intro c hLower hc
    have hFront : trim raw.toList <+: trimStart raw.toList := trimEnd_prefix _
    have hTrim : (trim raw.toList).Sublist raw.toList :=
      hFront.sublist.trans (List.dropWhile_suffix _).sublist
    exact (hTrim.count_le c).trans (h.count_le hws.plain hLower hc)
  have hSlash : '/' ∉ trim raw.toList := by
    refine List.count_eq_zero.mp (Nat.le_zero.mp ?_)
    rw [← hws.slash]
    exact hCount (by decide) (by decide)
  have hHyphen : (trim raw.toList).count '-' ≤ 1 :=
    (hCount (by decide) (by decide)).trans hws.hyphen
  obtain ⟨hNone, hNone'⟩ := read?_none_of_slash hSlash
  have hWords : words (lower (String.ofList (trim raw.toList))).toList = ws := by
    rw [lower, String.toList_ofList, String.toList_ofList, h.words_lower_trim hws.plain]
  rw [date?, hShort, hTime]
  show (Date.read? "%-m/%-d/%y" (trim raw.toList)
    <|> Date.readWithTime? "%-m/%-d/%y, %-I:%M %p" (trim raw.toList)
    <|> Date.read? "%Y-%m-%d" (trim raw.toList) <|> _) = _
  -- all three patterns fail, and the words are left
  rw [hNone, hNone', read?_iso_none hHyphen, Date.ofRelative?, hWords]
  rfl

/-- A text that names a number of days is read as the date that is so many days
from today, and there is one unless that is before the first day of the
calendar or after the last. The next month is the one after that of today, and
the day is the same or the last that it has. -/
theorem date?_relative (hShort : f.shortDatePattern = ({} : Formatting).shortDatePattern)
    (hTime : f.shortDateTimePattern = ({} : Formatting).shortDateTimePattern)
    (raw : String) (today : Date) :
    (∀ ws n, NamesOffset ws n → Spells raw.toList ws →
      (∀ d, f.date? raw today = some d ↔ Date.IsDaysFrom today n d) ∧
      (f.date? raw today = none ↔ today.dayNumber + n < Date.first.dayNumber ∨
        Date.last.dayNumber < today.dayNumber + n)) ∧
    (Spells raw.toList ["next".toList, "month".toList] →
      ∀ d, f.date? raw today = some d ↔
        12 * d.year + d.month = 12 * today.year + today.month + 1 ∧
          d.day = min today.day (daysInMonth d.year d.month)) := by
  constructor
  · intro ws n hws h
    have hRead : ∀ d, f.date? raw today = some d ↔ Date.IsDaysFrom today n d := by
      intro d
      rw [date?_of_spells hShort hTime h (.of_namesOffset hws)]
      exact Date.ofWords?_of_namesOffset hws today d
    refine ⟨hRead, ?_⟩
    have hSome : (f.date? raw today).isSome ↔ ∃ d, Date.IsDaysFrom today n d := by
      simp only [Option.isSome_iff_exists, hRead]
    rw [← Option.not_isSome_iff_eq_none, hSome, Date.exists_isDaysFrom_iff]
    omega
  · intro h d
    rw [date?_of_spells hShort hTime h (.of_letters (by decide))]
    exact Date.nextMonth?_eq_some_iff

/-- The number of the day before. -/
def minusOne : PlainNumber where
  sign := .minus
  whole := ['1']
  fraction := []
  whole_ne_nil := by decide
  whole_digits := by decide
  fraction_digits := by decide

/-- The first day of March in a leap year. -/
def leapMarch : Date := ⟨2024, 3, 1, by decide⟩

/-- The day before it. -/
def leapDay : Date := ⟨2024, 2, 29, by decide⟩

/-- The last day of the January before it. -/
def leapJanuary : Date := ⟨2024, 1, 31, by decide⟩

/-- One day before March it is February, and so it is one month after the last
day of January. The case of the words and the blanks between them do not
matter. -/
theorem leapDay_named :
    (NamesOffset [minusOne.chars, "days".toList] (-1) ∧
      Spells "-1  DaYs".toList [minusOne.chars, "days".toList] ∧
      Date.IsDaysFrom leapMarch (-1) leapDay ∧ date? {} "-1  DaYs" leapMarch = some leapDay) ∧
    Spells "Next month".toList ["next".toList, "month".toList] ∧
      date? {} "Next month" leapJanuary = some leapDay := by
  have hNames : NamesOffset [minusOne.chars, "days".toList] (-1) := .days minusOne rfl (.inr rfl)
  have hText : "-1  DaYs".toList = ['-', '1'] ++ ' ' :: ([] ++ ' ' :: ['D', 'a', 'Y', 's']) := by
    decide
  have hSpells : Spells "-1  DaYs".toList [minusOne.chars, "days".toList] := by
    rw [hText]
    exact .blank rfl (.word rfl) (.blank rfl .nothing (.word rfl))
  have hMonthText : "Next month".toList = "Next".toList ++ ' ' :: "month".toList := by decide
  have hMonth : Spells "Next month".toList ["next".toList, "month".toList] := by
    rw [hMonthText]
    exact .blank rfl (.word (by decide)) (.word (by decide))
  have hBefore : Date.IsDaysFrom leapMarch (-1) leapDay := .inr ⟨1, rfl, by decide⟩
  obtain ⟨hRead, -⟩ := (date?_relative (f := {}) rfl rfl "-1  DaYs" leapMarch).1 _ _ hNames hSpells
  have hLater := (date?_relative (f := {}) rfl rfl "Next month" leapJanuary).2 hMonth leapDay
  exact ⟨⟨hNames, hSpells, hBefore, (hRead leapDay).mpr hBefore⟩, hMonth, hLater.mpr (by decide)⟩

end Formatting

end HomeLedger
