import HomeLedger.Proofs.Calendar.Trimmed
import HomeLedger.Proofs.Formatting.Date

/-!
# HomeLedger — what a displayed date is read as under any patterns

A date is displayed by the user's pattern if that reads it back, and else with
year, month and day. What the pattern has written is read by the pattern
again, which comes first. The other form comes last: the reader tries both
patterns on it before, and one of them may take it for another date. Only the
first case is checked when a date is displayed.

No such thing happens under patterns with a character that dates in that form
do not contain, such as a slash, a point or a comma. But a pattern that cannot
write dates, as it asks for a zone, may still read them, with day and month
the other way round.

Main results:

* `date?_isoText` — what the form with year, month and day is read as.
* `date?_displayed` — what is read from a date that is displayed.
* `marchSeventh_misread` — a date that is read as another.
-/

namespace HomeLedger.Formatting

open Text Pattern

-- ---------------------------------------------------------------------------
-- The two patterns
-- ---------------------------------------------------------------------------

/-- Whether the pattern reads back what it writes of a date. -/
def ReadsBack (f : Formatting) (d : Date) : Prop :=
  ∃ out, d.write? f.shortDatePattern = some out ∧ Date.read? f.shortDatePattern out = some d

instance (f : Formatting) (d : Date) : Decidable (f.ReadsBack d) :=
  decidable_of_iff ((d.write? f.shortDatePattern).any
    fun out => Date.read? f.shortDatePattern out == some d) (by
      simp [ReadsBack, Option.any_eq_true])

/-- The date that the two patterns find in a text, if one does. The pattern for
dates alone comes first. -/
def byPatterns? (f : Formatting) (cs : List Char) : Option Date :=
  Date.read? f.shortDatePattern cs <|> Date.readWithTime? f.shortDateTimePattern cs

/-- Whether a character does not occur in dates with year, month and day. -/
def isMark (c : Char) : Bool := !(c.isDigit || c == '-' || c == '+')

/-- Whether a pattern has a character that does not occur in dates with year,
month and day. An invalid pattern reads nothing anyway. This can be seen from
the pattern alone, whatever the date is. -/
def isMarked (pattern : String) : Bool :=
  match items? pattern.toList with
  | none => true
  | some items => items.any fun
    | .literal c => isMark c
    | _ => false

/-- A pattern with such a character does not read a date in that form, because
it would have to find the character there. -/
theorem read?_isoText_of_marked {pattern : String} (h : isMarked pattern = true) (d : Date) :
    Pattern.read? pattern d.isoText.toList = none := by
  unfold isMarked at h
  rw [Pattern.read?]
  cases hItems : items? pattern.toList with
  | none => rfl
  | some items =>
    rw [hItems] at h
    obtain ⟨item, hMem, hMark⟩ := List.any_eq_true.mp h
    split at hMark
    · next c =>
      have hc : c ∉ d.isoText.toList := by
        intro hc
        rcases isoText_chars hc with hDigit | rfl | rfl
        · simp [isMark, hDigit] at hMark
        · exact absurd hMark (by decide)
        · exact absurd hMark (by decide)
      rw [Option.bind_eq_bind, Option.bind_some, readItems?_eq_none hMem hc]
      rfl
    · exact absurd hMark Bool.false_ne_true

/-- If both patterns have such a character, neither of them takes the form for a
date. -/
theorem byPatterns?_isoText_of_marked {f : Formatting} (hShort : isMarked f.shortDatePattern = true)
    (hTime : isMarked f.shortDateTimePattern = true) (d : Date) :
    f.byPatterns? d.isoText.toList = none := by
  rw [byPatterns?, Date.read?, Date.readWithTime?, read?_isoText_of_marked hShort,
    read?_isoText_of_marked hTime]
  rfl

-- ---------------------------------------------------------------------------
-- What is displayed
-- ---------------------------------------------------------------------------

/-- What the pattern writes is displayed if the pattern reads it back. -/
theorem shortDate_of_readsBack {f : Formatting} {d : Date} {out : List Char}
    (hWrite : d.write? f.shortDatePattern = some out)
    (hRead : Date.read? f.shortDatePattern out = some d) : f.shortDate d = String.ofList out := by
  rw [shortDate, hWrite]
  exact if_pos hRead

/-- Otherwise it is the form with year, month and day, for whatever reason the
pattern fails. -/
theorem shortDate_of_not_readsBack {f : Formatting} {d : Date} (h : ¬f.ReadsBack d) :
    f.shortDate d = d.isoText := by
  unfold shortDate
  split
  · next out hWrite => exact if_neg fun hRead => h ⟨out, hWrite, hRead⟩
  · rfl

-- ---------------------------------------------------------------------------
-- What is read
-- ---------------------------------------------------------------------------

/-- What the pattern writes and reads back is read by it, blanks at the ends or
not. The reader trims the text, and a pattern may begin with a blank. -/
theorem date?_of_readsBack {f : Formatting} {d : Date} (h : f.ReadsBack d) (today : Date) :
    f.date? (f.shortDate d) today = some d := by
  obtain ⟨out, hWrite, hRead⟩ := h
  rw [shortDate_of_readsBack hWrite hRead]
  obtain ⟨fields, hFields, hDate⟩ := Option.bind_eq_some_iff.mp hRead
  have hTrim : Date.read? f.shortDatePattern (trim out) = some d := by
    rw [Date.read?, read?_trim hWrite hFields]
    exact hDate
  rw [date?, String.toList_ofList]
  simp only [hTrim]
  rfl

/-- A date with year, month and day is read as it is, unless a pattern of the
user takes it for another. Nothing checks this when the date is displayed. -/
theorem date?_isoText (f : Formatting) (d today : Date) :
    f.date? d.isoText today = some ((f.byPatterns? d.isoText.toList).getD d) := by
  have hTrim : trim d.isoText.toList = d.isoText.toList := by
    refine (IsTrimmed.of_forall fun c hc => ?_).trim_eq
    rcases isoText_chars hc with hDigit | rfl | rfl
    · exact isBlank_of_isDigit hDigit
    · decide
    · decide
  show (Date.read? f.shortDatePattern (trim d.isoText.toList)
    <|> Date.readWithTime? f.shortDateTimePattern (trim d.isoText.toList)
    <|> Date.read? "%Y-%m-%d" (trim d.isoText.toList) <|> _) = _
  rw [hTrim, Date.read?_isoText, byPatterns?]
  cases Date.read? f.shortDatePattern d.isoText.toList with
  | some d' => rfl
  | none =>
    cases Date.readWithTime? f.shortDateTimePattern d.isoText.toList <;> rfl

/-- A date that is displayed by the pattern is read back. One that is displayed
with year, month and day is read as what a pattern takes it for, and else
correctly; so it is always if both patterns are marked. The condition of the
third part is exact: there are no other misreadings. -/
theorem date?_displayed (f : Formatting) (d today : Date) :
    (f.ReadsBack d → f.date? (f.shortDate d) today = some d) ∧
    (¬f.ReadsBack d → f.shortDate d = d.isoText ∧
      f.date? (f.shortDate d) today = some ((f.byPatterns? d.isoText.toList).getD d)) ∧
    (f.date? (f.shortDate d) today = some d ↔
      f.ReadsBack d ∨ ∀ d', f.byPatterns? d.isoText.toList = some d' → d' = d) ∧
    (isMarked f.shortDatePattern = true → isMarked f.shortDateTimePattern = true →
      f.date? (f.shortDate d) today = some d) := by
  have hIso : ¬f.ReadsBack d →
      f.date? (f.shortDate d) today = some ((f.byPatterns? d.isoText.toList).getD d) := by
    intro h
    rw [shortDate_of_not_readsBack h]
    exact date?_isoText f d today
  have hIff : f.date? (f.shortDate d) today = some d ↔
      f.ReadsBack d ∨ ∀ d', f.byPatterns? d.isoText.toList = some d' → d' = d := by
    by_cases hBack : f.ReadsBack d
    · exact ⟨fun _ => Or.inl hBack, fun _ => date?_of_readsBack hBack today⟩
    · rw [hIso hBack, Option.some.injEq]
      cases f.byPatterns? d.isoText.toList with
      | none => simp
      | some d' => simp [hBack]
  refine ⟨fun h => date?_of_readsBack h today, fun h => ⟨shortDate_of_not_readsBack h, hIso h⟩,
    hIff, fun hShort hTime => hIff.mpr (Or.inr ?_)⟩
  intro d' hd'
  rw [byPatterns?_isoText_of_marked hShort hTime] at hd'
  exact absurd hd' (Option.some_ne_none d').symm

/-- Days, months and years of the century, with points between them. -/
def pointedDays : Formatting := { shortDatePattern := "%d.%m.%y" }

/-- A day of a year whose last two digits are read as those of another. -/
def christmasEve : Date := ⟨1950, 12, 24, by decide⟩

/-- The pattern would read it as a day of 2050, so year, month and day are
displayed. -/
theorem christmasEve_read_again :
    ¬pointedDays.ReadsBack christmasEve ∧ pointedDays.shortDate christmasEve = "1950-12-24" ∧
      (isMarked pointedDays.shortDatePattern = true ∧
        isMarked pointedDays.shortDateTimePattern = true) ∧
      ∀ today,
        pointedDays.date? (pointedDays.shortDate christmasEve) today = some christmasEve := by
  have hMarked : isMarked pointedDays.shortDatePattern = true ∧
      isMarked pointedDays.shortDateTimePattern = true := by decide
  refine ⟨by decide, by decide, hMarked, fun today => ?_⟩
  exact (date?_displayed pointedDays christmasEve today).2.2.2 hMarked.1 hMarked.2

/-- Years, days and months, and a zone, which no date has. -/
def zonedDays : Formatting := { shortDatePattern := "%Y-%d-%m %Z" }

/-- The day that is displayed. -/
def marchSeventh : Date := ⟨2026, 3, 7, by decide⟩

/-- The day that it is taken for. -/
def julyThird : Date := ⟨2026, 7, 3, by decide⟩

/-- A zone may be missing where a date is read, but not where it is written. So
the pattern does not write the date, and yet it is the first to read it. -/
theorem marchSeventh_misread : zonedDays.shortDate marchSeventh = "2026-03-07" ∧
    zonedDays.date? (zonedDays.shortDate marchSeventh) marchSeventh = some julyThird ∧
    julyThird ≠ marchSeventh := by
  decide

end HomeLedger.Formatting
