import HomeLedger.Formatting
import HomeLedger.Proofs.Calendar.Iso
import HomeLedger.Proofs.Calendar.Reading
import HomeLedger.Proofs.Formatting.Amount

/-!
# HomeLedger — a displayed date is read again

A date is displayed by the pattern only where the pattern reads it back, so
all that is left to show is that the other form, `2026-01-31`, is not taken
for a date of the pattern: both patterns want a slash behind the month, and
there is none in it.

Main results:

* `shortDate_cases` — what is displayed of a date.
* `date?_shortDate` — a date is read from what is displayed of it.
-/

namespace HomeLedger

open Text

namespace Formatting

open Pattern

-- ---------------------------------------------------------------------------
-- The form with year, month and day
-- ---------------------------------------------------------------------------

/-- A date with year, month and day is written with digits, hyphens, and perhaps
a sign for its year. -/
theorem isoText_chars {d : Date} {c : Char} (h : c ∈ d.isoText.toList) :
    c.isDigit = true ∨ c = '-' ∨ c = '+' := by
  rw [← List.append_nil d.isoText.toList, isoText_append] at h
  simp only [List.mem_append, List.mem_cons, List.not_mem_nil, or_false] at h
  rcases h with hYear | rfl | hMonth | rfl | hDay
  · rcases yearText_cases d.year with ⟨n, -, -, hText⟩ | ⟨-, hText⟩ | ⟨-, hText⟩
    · rw [hText] at hYear
      exact Or.inl (allDigits_padded _ _ c hYear)
    · rw [hText] at hYear
      rcases List.mem_cons.mp hYear with rfl | hDigit
      · simp
      · exact Or.inl (allDigits_padded _ _ c hDigit)
    · rw [hText] at hYear
      rcases List.mem_cons.mp hYear with rfl | hDigit
      · simp
      · exact Or.inl (allDigits_padded _ _ c hDigit)
  · simp
  · exact Or.inl (allDigits_padded _ _ c hMonth)
  · simp
  · exact Or.inl (allDigits_padded _ _ c hDay)

/-- So there is no slash in it, which is all that the patterns need to pass it
over. -/
theorem slash_notMem_isoText (d : Date) : '/' ∉ d.isoText.toList := by
  intro h
  rcases isoText_chars h with hDigit | hMinus | hPlus
  · exact absurd hDigit (by decide)
  · exact absurd hMinus (by decide)
  · exact absurd hPlus (by decide)

/-- Neither pattern reads a text without a slash. What else is in the text does
not matter, because a pattern needs all of its own characters. -/
theorem read?_none_of_slash {cs : List Char} (h : '/' ∉ cs) :
    Date.read? "%-m/%-d/%y" cs = none ∧ Date.readWithTime? "%-m/%-d/%y, %-I:%M %p" cs = none := by
  have hItems : ∃ items, items? "%-m/%-d/%y".toList = some items ∧ .literal '/' ∈ items :=
    ⟨_, rfl, by decide⟩
  have hItems' : ∃ items, items? "%-m/%-d/%y, %-I:%M %p".toList = some items ∧
      .literal '/' ∈ items := ⟨_, rfl, by decide⟩
  obtain ⟨items, hItems, hSlash⟩ := hItems
  obtain ⟨items', hItems', hSlash'⟩ := hItems'
  constructor
  · rw [Date.read?, Pattern.read?, hItems]
    simp [readItems?_eq_none hSlash h]
  · rw [Date.readWithTime?, Pattern.read?, hItems']
    simp [readItems?_eq_none hSlash' h]

-- ---------------------------------------------------------------------------
-- What is displayed
-- ---------------------------------------------------------------------------

/-- What the pattern writes holds nothing but digits and slashes, and it writes
something. A date that the pattern cannot write is displayed otherwise. -/
theorem write?_chars {d : Date} {out : List Char} (h : d.write? "%-m/%-d/%y" = some out) :
    out ≠ [] ∧ ∀ c ∈ out, c.isDigit = true ∨ c = '/' := by
  -- the pattern has three numbers and two slashes, so the year is the only part that may fail
  have hItems : items? "%-m/%-d/%y".toList = some [.number .month .none, .literal '/',
      .number .day .none, .literal '/', .number .yearOfCentury .zero] := rfl
  rw [Date.write?, hItems] at h
  simp only [Option.bind_eq_bind, Option.bind_some, Date.writeItems?, Date.itemText?,
    Date.numberText?, Date.twoDigits?, pure] at h
  split at h
  · obtain rfl := Option.some.inj h
    simp only [Date.fill]
    refine ⟨?_, ?_⟩
    · exact List.append_ne_nil_of_left_ne_nil (decimal_ne_nil _) _
    · intro c hc
      simp only [List.mem_append, List.mem_singleton, List.not_mem_nil, or_false] at hc
      rcases hc with hDigit | rfl | hDigit | rfl | hDigit
      · exact Or.inl (allDigits_decimal _ c hDigit)
      · simp
      · exact Or.inl (allDigits_decimal _ c hDigit)
      · simp
      · exact Or.inl (allDigits_padded 2 _ c hDigit)
  · simp at h

/-- What is displayed of a date holds nothing but digits and three signs. -/
theorem shortDate_chars (d : Date) : (shortDate {} d).toList ≠ [] ∧
    ∀ c ∈ (shortDate {} d).toList, c.isDigit = true ∨ c = '/' ∨ c = '-' ∨ c = '+' := by
  have hIso : d.isoText.toList ≠ [] ∧
      ∀ c ∈ d.isoText.toList, c.isDigit = true ∨ c = '/' ∨ c = '-' ∨ c = '+' := by
    refine ⟨?_, ?_⟩
    · rw [← List.append_nil d.isoText.toList, isoText_append]
      exact List.append_ne_nil_of_right_ne_nil _ (List.cons_ne_nil _ _)
    · intro c hc
      rcases isoText_chars hc with hDigit | rfl | rfl <;> simp [*]
  unfold shortDate
  split
  · next out hWrite =>
    split
    · obtain ⟨hne, hChars⟩ := write?_chars hWrite
      rw [String.toList_ofList]
      refine ⟨hne, ?_⟩
      intro c hc
      rcases hChars c hc with hDigit | rfl <;> simp [*]
    · exact hIso
  · exact hIso

/-- A date that is displayed is one token. -/
theorem wording_shortDate (d : Date) : Wording (shortDate {} d) [shortDate {} d] := by
  obtain ⟨hne, hChars⟩ := shortDate_chars d
  refine wording_plain (by simpa using hne) ?_
  intro c hc
  rcases hChars c hc with hDigit | rfl | rfl | rfl
  · exact isSpecial_of_isDigit hDigit
  · decide
  · decide
  · decide

-- ---------------------------------------------------------------------------
-- What is read
-- ---------------------------------------------------------------------------

/-- A date is displayed by the pattern if that reads it back, or else with year,
month and day. The year of the pattern has two digits, so it does not read back
all dates. -/
theorem shortDate_cases (d : Date) :
    Date.read? "%-m/%-d/%y" (shortDate {} d).toList = some d ∨ shortDate {} d = d.isoText := by
  unfold shortDate
  split
  · next out hWrite =>
    split
    · next hRead =>
      rw [String.toList_ofList]
      exact Or.inl hRead
    · exact Or.inr rfl
  · exact Or.inr rfl

/-- A date is read from what is displayed of it, on any day. The day matters to
a reader only where words like `today` are written. -/
theorem date?_shortDate (d today : Date) : date? {} (shortDate {} d) today = some d := by
  have hTrim : trim (shortDate {} d).toList = (shortDate {} d).toList :=
    (wording_shortDate d).trimmed.trim_eq
  show (Date.read? "%-m/%-d/%y" (trim (shortDate {} d).toList)
    <|> Date.readWithTime? "%-m/%-d/%y, %-I:%M %p" (trim (shortDate {} d).toList)
    <|> Date.read? "%Y-%m-%d" (trim (shortDate {} d).toList) <|> _) = _
  rw [hTrim]
  rcases shortDate_cases d with hRead | hIso
  · rw [hRead]
    rfl
  · obtain ⟨hShort, hTime⟩ := read?_none_of_slash (slash_notMem_isoText d)
    rw [hIso, hShort, hTime, Date.read?_isoText]
    rfl

end Formatting

end HomeLedger
