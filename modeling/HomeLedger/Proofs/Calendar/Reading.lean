import HomeLedger.Calendar.Pattern.Read

/-!
# HomeLedger — reading takes a text from the front

Each item of a pattern takes something from the front of a text and leaves
the rest as it is. What an item takes is therefore gone for the items that
come after, so a pattern with characters of its own reads no text that has
fewer of them, whatever its other items are.

Main results:

* `suffix_of_readItem?` — an item leaves the end of the text.
* `count_of_readItems?` — a character of the pattern has to be in the text.
-/

namespace HomeLedger.Pattern

open Text

-- ---------------------------------------------------------------------------
-- What was read
-- ---------------------------------------------------------------------------

/-- What comes of a value that was read: it is noted, if it may be, and the
rest of the text is left. -/
def noted {α β : Type} (note : α → Option β) (store : β → Fields) (found : α × List Char) :
    Option (Fields × List Char) :=
  (note found.1).bind fun part => some (store part, found.2)

/-- A note may refuse a value, but it takes nothing from the text. So what is
left behind is known from the reading alone. -/
theorem exists_of_noted {α β : Type} {note : α → Option β} {store : β → Fields}
    {read : Option (α × List Char)} {f : Fields} {rest : List Char}
    (h : read.bind (noted note store) = some (f, rest)) : ∃ value, read = some (value, rest) := by
  obtain ⟨⟨value, rest'⟩, hRead, hNoted⟩ := Option.bind_eq_some_iff.mp h
  obtain ⟨part, -, hFound⟩ := Option.bind_eq_some_iff.mp hNoted
  obtain ⟨-, rfl⟩ := Prod.mk.inj (Option.some.inj hFound)
  exact ⟨value, hRead⟩

-- ---------------------------------------------------------------------------
-- Numbers
-- ---------------------------------------------------------------------------

theorem trimStart_suffix (cs : List Char) : trimStart cs <:+ cs := List.dropWhile_suffix _

theorem suffix_cons_cons (a b : Char) (cs : List Char) : cs <:+ a :: b :: cs :=
  (List.suffix_cons _ _).trans (List.suffix_cons _ _)

/-- What is left behind a number is the end of the text. A sign and blanks in
front of it are gone with it. -/
theorem suffix_of_readNumber? {width : Option Nat} {cs rest : List Char} {n : Nat}
    (h : readNumber? width cs = some (n, rest)) : rest <:+ cs := by
  have hDigits : ∀ digits : List Char, (if digits.isEmpty then none
      else if ofDecimal digits < 2 ^ 63 then some (ofDecimal digits, cs.drop digits.length)
      else none) = some (n, rest) → rest <:+ cs := by
    intro digits h
    split at h
    · simp at h
    · split at h
      · obtain ⟨-, rfl⟩ := Prod.mk.inj (Option.some.inj h)
        exact List.drop_suffix _ _
      · simp at h
  exact hDigits _ h

/-- The same of a year, which is a number with a sign or without. -/
theorem suffix_of_readYear? {cs rest : List Char} {n : Int} (h : readYear? cs = some (n, rest)) :
    rest <:+ cs := by
  have hMap : ∀ (value : Nat → Int) {width : Option Nat} {cs : List Char},
      (readNumber? width cs).map (fun found => (value found.1, found.2)) = some (n, rest) →
        rest <:+ cs := by
    intro value width cs h
    obtain ⟨⟨k, rest'⟩, hRead, hFound⟩ := Option.map_eq_some_iff.mp h
    obtain ⟨-, rfl⟩ := Prod.mk.inj hFound
    exact suffix_of_readNumber? hRead
  unfold readYear? at h
  split at h
  · exact (hMap (fun k => -(k : Int)) h).trans (List.suffix_cons _ _)
  · exact (hMap (fun k => k) h).trans (List.suffix_cons _ _)
  · exact hMap (fun k => k) h

/-- The number that a part of a date or time takes from the front. Parts differ
in how many digits they take, and only a year may have a sign that counts. -/
def readValue? (part : NumberPart) (cs : List Char) : Option (Int × List Char) :=
  match part with
  | .year | .isoYear => readYear? cs
  | part => (readNumber? (widthOf part) cs).map fun found => ((found.1 : Int), found.2)

/-- A part is read in two steps: a value is taken from the front, and then it is
noted. What is shown of one step does not have to be shown again with the
other. -/
theorem readPart?_eq (f : Fields) (part : NumberPart) (cs : List Char) : readPart? f part cs =
    (readValue? part (trimStart cs)).bind (noted (noteNumber? f part) id) := by
  cases part <;> rfl

/-- What is left behind a part is the end of the text, because noting it takes
nothing more. -/
theorem suffix_of_readPart? {f f' : Fields} {part : NumberPart} {cs rest : List Char}
    (h : readPart? f part cs = some (f', rest)) : rest <:+ cs := by
  rw [readPart?_eq] at h
  obtain ⟨n, hValue⟩ := exists_of_noted h
  refine List.IsSuffix.trans ?_ (trimStart_suffix cs)
  unfold readValue? at hValue
  split at hValue
  · exact suffix_of_readYear? hValue
  · exact suffix_of_readYear? hValue
  · obtain ⟨⟨k, rest'⟩, hRead, hFound⟩ := Option.map_eq_some_iff.mp hValue
    obtain ⟨-, rfl⟩ := Prod.mk.inj hFound
    exact suffix_of_readNumber? hRead

-- ---------------------------------------------------------------------------
-- Names
-- ---------------------------------------------------------------------------

/-- A word is taken from the front letter by letter, so what is left is the end
of the text. -/
theorem suffix_of_dropWord? {word cs rest : List Char} (h : dropWord? word cs = some rest) :
    rest <:+ cs := by
  unfold dropWord? at h
  split at h
  · obtain rfl := Option.some.inj h
    exact List.drop_suffix _ _
  · simp at h

/-- A name is a word of a table, and possibly its long form, so the same holds
of it. -/
theorem suffix_of_readName? {names : List String} {long : Bool} {cs rest : List Char} {i : Nat}
    (h : readName? names long cs = some (i, rest)) : rest <:+ cs := by
  obtain ⟨j, -, hName⟩ := List.exists_of_findSome?_eq_some h
  obtain ⟨rest', hShort, hFound⟩ := Option.bind_eq_some_iff.mp hName
  have hSuffix := suffix_of_dropWord? hShort
  split at hFound
  · obtain ⟨-, rfl⟩ := Prod.mk.inj (Option.some.inj hFound)
    cases hLong : dropWord? ((names.getD j "").toList.drop 3) rest' with
    | none => simpa using hSuffix
    | some rest'' => exact (suffix_of_dropWord? hLong).trans hSuffix
  · obtain ⟨-, rfl⟩ := Prod.mk.inj (Option.some.inj hFound)
    exact hSuffix

/-- So it does of the half of the day, which is two letters. -/
theorem suffix_of_readMeridiem? {f f' : Fields} {cs rest : List Char}
    (h : readMeridiem? f cs = some (f', rest)) : rest <:+ cs := by
  unfold readMeridiem? at h
  split at h
  · next a m rest' =>
    have hRest : rest' = rest := by
      grind [Option.bind_eq_some_iff]
    rw [← hRest]
    exact suffix_cons_cons a m rest'
  · simp at h

-- ---------------------------------------------------------------------------
-- Fractions and zones
-- ---------------------------------------------------------------------------

/-- A fraction takes digits, and drops those that it has no use for. Both are
gone from the front. -/
theorem suffix_of_readFraction? {cs rest : List Char} {n : Nat}
    (h : readFraction? cs = some (n, rest)) : rest <:+ cs := by
  obtain ⟨⟨k, rest'⟩, hRead, hFound⟩ := Option.bind_eq_some_iff.mp h
  obtain ⟨-, rfl⟩ := Prod.mk.inj (Option.some.inj hFound)
  exact (List.dropWhile_suffix _).trans (suffix_of_readNumber? hRead)

theorem suffix_of_readFixedFraction? {digits : Nat} {cs rest : List Char} {n : Nat}
    (h : readFixedFraction? digits cs = some (n, rest)) : rest <:+ cs := by
  obtain ⟨⟨k, rest'⟩, hRead, hFound⟩ := Option.bind_eq_some_iff.mp h
  simp only at hFound
  split at hFound
  · obtain ⟨-, rfl⟩ := Prod.mk.inj (Option.some.inj hFound)
    exact suffix_of_readNumber? hRead
  · simp at hFound

/-- A fraction that is not there takes nothing, and one with a point takes the
point as well. -/
theorem suffix_of_readFractionPart? {f f' : Fields} {point : Bool} {digits : Option Nat}
    {cs rest : List Char} (h : readFractionPart? f point digits cs = some (f', rest)) :
    rest <:+ cs := by
  -- whatever reads the digits, noting them takes nothing more
  have hRead : ∀ {read : List Char → Option (Nat × List Char)},
      (∀ {cs rest n}, read cs = some (n, rest) → rest <:+ cs) → ∀ {cs : List Char},
      (read cs).bind
        (noted (Fields.agree f.nanosecond) fun nano => { f with nanosecond := nano }) =
        some (f', rest) → rest <:+ cs := by
    intro read hSuffix cs h
    obtain ⟨n, hFraction⟩ := exists_of_noted h
    exact hSuffix hFraction
  unfold readFractionPart? at h
  cases digits with
  | none =>
    simp only at h
    split at h
    · exact (hRead suffix_of_readFraction? h).trans (List.suffix_cons _ _)
    · obtain ⟨-, rfl⟩ := Prod.mk.inj (Option.some.inj h)
      exact List.suffix_refl _
    · exact hRead suffix_of_readFraction? h
  | some k =>
    simp only at h
    split at h
    · exact (hRead suffix_of_readFixedFraction? h).trans (List.suffix_cons _ _)
    · obtain ⟨-, rfl⟩ := Prod.mk.inj (Option.some.inj h)
      exact List.suffix_refl _
    · exact hRead suffix_of_readFixedFraction? h

/-- An offset takes its sign, its hours, and its minutes with or without a
colon. Each may be missing, and whatever is missing takes nothing. -/
theorem suffix_of_readOffset? {zulu short : Bool} {cs rest : List Char} {offset : Int}
    (h : readOffset? zulu short cs = some (offset, rest)) : rest <:+ cs := by
  unfold readOffset? at h
  split at h
  · simp at h
  · next c tail =>
    split at h
    · obtain ⟨-, rfl⟩ := Prod.mk.inj (Option.some.inj h)
      exact List.suffix_cons _ _
    · suffices hRest : rest <:+ tail from hRest.trans (List.suffix_cons _ _)
      simp only at h
      -- the sign does not matter for what is left
      split at h <;>
        simp only [Option.bind_eq_bind, Option.bind_some, Option.bind_none, reduceCtorEq] at h
      all_goals
        split at h
        · next x y digits =>
          -- what stands between the hours and the minutes, if anything
          have hGap : digits.dropWhile (fun c => c == ':' || isBlank c) <:+ x :: y :: digits :=
            (List.dropWhile_suffix _).trans (suffix_cons_cons x y digits)
          split at h
          · simp at h
          · split at h
            · next z w rest' hEq =>
              rw [hEq] at hGap
              split at h
              · obtain ⟨-, rfl⟩ := Prod.mk.inj (Option.some.inj h)
                exact (suffix_cons_cons z w _).trans hGap
              · simp at h
            · split at h
              · obtain ⟨-, rfl⟩ := Prod.mk.inj (Option.some.inj h)
                exact List.nil_suffix
              · simp at h
            · simp at h
        · simp at h

-- ---------------------------------------------------------------------------
-- Items
-- ---------------------------------------------------------------------------

theorem eq_of_readLiteral? {c : Char} {cs rest : List Char}
    (h : readLiteral? c cs = some rest) : cs = c :: rest := by
  cases cs with
  | nil => simp [readLiteral?] at h
  | cons c' cs =>
    rw [readLiteral?] at h
    split at h
    · next hEq => rw [hEq, Option.some.inj h]
    · simp at h

/-- A character that stands for itself takes just itself, so it leaves the end
of the text, as all other parts of a pattern do. -/
theorem suffix_of_readLiteral? {c : Char} {cs rest : List Char}
    (h : readLiteral? c cs = some rest) : rest <:+ cs := by
  rw [eq_of_readLiteral? h]
  exact List.suffix_cons _ _

theorem suffix_of_readIsoDate? {f f' : Fields} {cs rest : List Char}
    (h : readIsoDate? f cs = some (f', rest)) : rest <:+ cs := by
  obtain ⟨⟨f₁, cs₁⟩, hYear, h⟩ := Option.bind_eq_some_iff.mp h
  obtain ⟨cs₂, hHyphen, h⟩ := Option.bind_eq_some_iff.mp h
  obtain ⟨⟨f₃, cs₃⟩, hMonth, h⟩ := Option.bind_eq_some_iff.mp h
  obtain ⟨cs₄, hHyphen', hDay⟩ := Option.bind_eq_some_iff.mp h
  have hBehindMonth : rest <:+ cs₃ :=
    (suffix_of_readPart? hDay).trans ((suffix_of_readLiteral? hHyphen').trans (trimStart_suffix _))
  have hBehindYear : cs₃ <:+ cs₁ :=
    (suffix_of_readPart? hMonth).trans ((suffix_of_readLiteral? hHyphen).trans (trimStart_suffix _))
  exact (hBehindMonth.trans hBehindYear).trans (suffix_of_readPart? hYear)

/-- What a time stamp has behind its date: a time, and an offset or `UTC`. It is
a step by itself, so that the date in front of it is dealt with once. -/
def readStampTime? (f : Fields) (cs : List Char) : Option (Fields × List Char) := do
  let (f, cs) ← readPart? f .hour cs
  let cs ← readLiteral? ':' (trimStart cs)
  let (f, cs) ← readPart? f .minute cs
  let cs ← readLiteral? ':' (trimStart cs)
  let (f, cs) ← readPart? f .second cs
  let (f, cs) ← readFractionPart? f true none cs
  let cs := trimStart cs
  let (offset, cs) ← match dropWord? ['u', 't', 'c'] cs with
    | some rest => some (0, rest)
    | none => readOffset? true false cs
  return (← noteOffset? f offset, cs)

theorem suffix_of_readStampTime? {f f' : Fields} {cs rest : List Char}
    (h : readStampTime? f cs = some (f', rest)) : rest <:+ cs := by
  obtain ⟨⟨f₁, cs₁⟩, hHour, h⟩ := Option.bind_eq_some_iff.mp h
  obtain ⟨cs₂, hColon, h⟩ := Option.bind_eq_some_iff.mp h
  obtain ⟨⟨f₃, cs₃⟩, hMinute, h⟩ := Option.bind_eq_some_iff.mp h
  obtain ⟨cs₄, hColon', h⟩ := Option.bind_eq_some_iff.mp h
  obtain ⟨⟨f₅, cs₅⟩, hSecond, h⟩ := Option.bind_eq_some_iff.mp h
  obtain ⟨⟨f₆, cs₆⟩, hFraction, h⟩ := Option.bind_eq_some_iff.mp h
  -- what the parts leave, one behind the other
  have hBehindHour : cs₃ <:+ cs₁ :=
    (suffix_of_readPart? hMinute).trans ((suffix_of_readLiteral? hColon).trans (trimStart_suffix _))
  have hBehindMinute : cs₅ <:+ cs₃ :=
    (suffix_of_readPart? hSecond).trans
      ((suffix_of_readLiteral? hColon').trans (trimStart_suffix _))
  have hBehindTime : trimStart cs₆ <:+ cs₅ :=
    (trimStart_suffix _).trans (suffix_of_readFractionPart? hFraction)
  refine List.IsSuffix.trans ?_ ((hBehindTime.trans (hBehindMinute.trans hBehindHour)).trans
    (suffix_of_readPart? hHour))
  simp only at h
  -- the zone is `UTC` or an offset
  split at h
  · next rest' hWord =>
    rw [Option.bind_eq_bind, Option.bind_some] at h
    obtain ⟨f₇, -, hFound⟩ := Option.bind_eq_some_iff.mp h
    obtain ⟨-, rfl⟩ := Prod.mk.inj (Option.some.inj hFound)
    exact suffix_of_dropWord? hWord
  · have hNoted : (readOffset? true false (trimStart cs₆)).bind (noted (noteOffset? f₆) id) =
        some (f', rest) := h
    obtain ⟨offset, hOffset⟩ := exists_of_noted hNoted
    exact suffix_of_readOffset? hOffset

theorem suffix_of_readStamp? {f f' : Fields} {cs rest : List Char}
    (h : readStamp? f cs = some (f', rest)) : rest <:+ cs := by
  obtain ⟨⟨f₁, cs₁⟩, hDate, h⟩ := Option.bind_eq_some_iff.mp h
  refine List.IsSuffix.trans ?_ (suffix_of_readIsoDate? hDate)
  have hTime : ∀ {cs₂ : List Char}, readStampTime? f₁ cs₂ = some (f', rest) → rest <:+ cs₂ :=
    suffix_of_readStampTime?
  simp only at h
  split at h
  · exact (hTime h).trans (List.suffix_cons _ _)
  · exact (hTime h).trans (List.suffix_cons _ _)
  · exact (hTime h).trans (List.suffix_cons _ _)
  · simp at h

/-- A month name is noted as its number. This and the next two are written out
so that all items are of one shape, and one lemma on notes serves them. -/
theorem readItem?_monthName (f : Fields) (cs : List Char) (long : Bool) :
    readItem? f cs (.monthName long) = (readName? monthNames long cs).bind
      (noted (fun i => Fields.agree f.month (i + 1)) fun month => { f with month := month }) :=
  rfl

theorem readItem?_weekdayName (f : Fields) (cs : List Char) (long : Bool) :
    readItem? f cs (.weekdayName long) = (readName? weekdayNames long cs).bind
      (noted (Fields.agree f.weekday) fun weekday => { f with weekday := weekday }) :=
  rfl

theorem readItem?_zoneOffset (f : Fields) (cs : List Char) (lenient : Bool) :
    readItem? f cs (.zoneOffset lenient) =
      (readOffset? lenient lenient (trimStart cs)).bind (noted (noteOffset? f) id) :=
  rfl

/-- What an item leaves is the end of the text. That no item puts anything back
is all that is needed of most of them. -/
theorem suffix_of_readItem? {f f' : Fields} {cs rest : List Char} {item : PatternItem}
    (h : readItem? f cs item = some (f', rest)) : rest <:+ cs := by
  cases item with
  | literal c =>
    obtain ⟨rest', hRead, hFound⟩ := Option.map_eq_some_iff.mp h
    obtain ⟨-, rfl⟩ := Prod.mk.inj hFound
    exact suffix_of_readLiteral? hRead
  | blank c =>
    obtain ⟨-, rfl⟩ := Prod.mk.inj (Option.some.inj h)
    exact trimStart_suffix cs
  | number part padding => exact suffix_of_readPart? h
  | monthName long =>
    rw [readItem?_monthName] at h
    obtain ⟨i, hRead⟩ := exists_of_noted h
    exact suffix_of_readName? hRead
  | weekdayName long =>
    rw [readItem?_weekdayName] at h
    obtain ⟨i, hRead⟩ := exists_of_noted h
    exact suffix_of_readName? hRead
  | meridiem => exact suffix_of_readMeridiem? h
  | fraction point digits => exact suffix_of_readFractionPart? h
  | zoneName =>
    obtain ⟨-, rfl⟩ := Prod.mk.inj (Option.some.inj h)
    exact List.dropWhile_suffix _
  | zoneOffset lenient =>
    rw [readItem?_zoneOffset] at h
    obtain ⟨offset, hRead⟩ := exists_of_noted h
    exact (suffix_of_readOffset? hRead).trans (trimStart_suffix cs)
  | stamp => exact suffix_of_readStamp? h

/-- A character that stands for itself has to be in the text as often as it is
in the pattern. The induction is on the items: what one takes is gone for those
behind it. -/
theorem count_of_readItems? {f f' : Fields} {items : List PatternItem} {cs rest : List Char}
    (h : readItems? f cs items = some (f', rest)) (c : Char) :
    items.count (.literal c) ≤ cs.count c := by
  induction items generalizing f cs with
  | nil => exact Nat.zero_le _
  | cons item items ih =>
    obtain ⟨⟨f'', rest'⟩, hRead, hRest⟩ := Option.bind_eq_some_iff.mp h
    have hle := ih hRest
    by_cases hItem : item = .literal c
    · subst hItem
      obtain ⟨rest'', hLiteral, hFound⟩ := Option.map_eq_some_iff.mp hRead
      obtain ⟨-, rfl⟩ := Prod.mk.inj hFound
      rw [eq_of_readLiteral? hLiteral, List.count_cons_self, List.count_cons_self]
      omega
    · have hFront := (suffix_of_readItem? hRead).sublist.count_le c
      rw [List.count_cons_of_ne hItem]
      omega

/-- A pattern with a character that stands for itself reads no text without that
character. This tells forms with slashes from those with hyphens, without
reading either. -/
theorem readItems?_eq_none {c : Char} {items : List PatternItem} (hItem : .literal c ∈ items)
    {cs : List Char} (hc : c ∉ cs) (f : Fields) : readItems? f cs items = none := by
  cases hRead : readItems? f cs items with
  | none => rfl
  | some found =>
    have hCount := count_of_readItems? hRead c
    have hPos : 0 < items.count (.literal c) := List.count_pos_iff.mpr hItem
    rw [List.count_eq_zero_of_not_mem hc] at hCount
    omega

end HomeLedger.Pattern
