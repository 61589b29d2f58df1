import HomeLedger.Proofs.Calendar.Instant

/-!
# HomeLedger — instants that were read

A time stamp that is read has less than a second's nanoseconds, unless it has
second 60, and its offset from UTC is one of whole minutes. So whatever is
read from a time stamp is shown by one: instants that are no other when they
are carried are just those that a file can tell.

Main results:

* `tellable_of_readStamp?` — what a time stamp may consist of.
* `carried_of_read?` — an instant that was read is not carried.
-/

namespace HomeLedger

open Text

namespace Pattern

-- ---------------------------------------------------------------------------
-- Parts of a stamp
-- ---------------------------------------------------------------------------

/-- What the parts of a time stamp keep to: the nanoseconds are those of one
second, the offset is one of whole minutes, and no number of seconds is given.
This is the invariant of reading a stamp. -/
structure Tellable (f : Fields) : Prop where
  nanosecond : ∀ n, f.nanosecond = some n → n < 1000000000
  timestamp : f.timestamp = none
  offset : ∀ o, f.offset = some o → o % 60 = 0

/-- A number leaves the invariant alone unless it is noted in one of the two
places that the invariant is about. -/
theorem noteNumber?_keeps {f f' : Fields} {part : NumberPart} {n : Int}
    (hNano : part ≠ .nanosecond) (hStamp : part ≠ .timestamp) (h : noteNumber? f part n = some f') :
    f'.nanosecond = f.nanosecond ∧ f'.timestamp = f.timestamp ∧ f'.offset = f.offset := by
  cases part <;>
    simp only [noteNumber?, Option.bind_eq_bind, Option.bind_eq_some_iff, pure, Option.some.injEq]
      at h
  case nanosecond => exact absurd rfl hNano
  case timestamp => exact absurd rfl hStamp
  all_goals grind

theorem Tellable.of_readPart? {f f' : Fields} (hf : Tellable f) {part : NumberPart}
    {cs rest : List Char} (hNano : part ≠ .nanosecond) (hStamp : part ≠ .timestamp)
    (h : readPart? f part cs = some (f', rest)) : Tellable f' := by
  have hNote : ∃ n, noteNumber? f part n = some f' := by
    unfold readPart? at h
    split at h <;>
      · simp only [Option.bind_eq_bind, Option.bind_eq_some_iff, pure, Option.some.injEq,
          Prod.mk.injEq] at h
        obtain ⟨_, -, g, hNote, rfl, -⟩ := h
        exact ⟨_, hNote⟩
  obtain ⟨n, hNote⟩ := hNote
  obtain ⟨hn, ht, ho⟩ := noteNumber?_keeps hNano hStamp hNote
  exact ⟨hn ▸ hf.nanosecond, ht ▸ hf.timestamp, ho ▸ hf.offset⟩

/-- A date consists of such parts, so the invariant holds behind it. -/
theorem Tellable.of_readIsoDate? {f f' : Fields} (hf : Tellable f) {cs rest : List Char}
    (h : readIsoDate? f cs = some (f', rest)) : Tellable f' := by
  simp only [readIsoDate?, Option.bind_eq_bind, Option.bind_eq_some_iff] at h
  obtain ⟨⟨f₁, _⟩, hYear, _, -, ⟨f₂, _⟩, hMonth, _, -, hDay⟩ := h
  have hf₁ := hf.of_readPart? (by decide) (by decide) hYear
  have hf₂ := hf₁.of_readPart? (by decide) (by decide) hMonth
  exact hf₂.of_readPart? (by decide) (by decide) hDay

/-- A fraction is less than a second: what is noted has nine digits, and no more
are taken. -/
theorem readFraction?_lt {n : Nat} {cs rest : List Char}
    (h : readFraction? cs = some (n, rest)) : n < 1000000000 := by
  simp only [readFraction?, Option.bind_eq_bind, Option.bind_eq_some_iff, pure, Option.some.injEq,
    Prod.mk.injEq] at h
  obtain ⟨⟨m, rest'⟩, hNumber, rfl, -⟩ := h
  unfold readNumber? at hNumber
  simp only at hNumber
  split at hNumber
  · simp at hNumber
  · split at hNumber
    · obtain ⟨rfl, rfl⟩ := Prod.mk.inj (Option.some.inj hNumber)
      -- the first nine digits at most, which are then counted by what is left
      have hDigits : AllDigits ((cs.take 9).takeWhile Char.isDigit) := fun c hc =>
        List.mem_takeWhile_imp hc
      have hlt := ofDecimal_lt hDigits
      have hPrefix : ((cs.take 9).takeWhile Char.isDigit).length ≤ (cs.take 9).length :=
        (List.takeWhile_prefix _).length_le
      rw [List.length_take] at hPrefix
      have hPlaces : cs.length - (cs.drop ((cs.take 9).takeWhile Char.isDigit).length).length =
          ((cs.take 9).takeWhile Char.isDigit).length := by
        rw [List.length_drop]
        omega
      rw [hPlaces]
      generalize ((cs.take 9).takeWhile Char.isDigit) = digits at *
      -- the digits that are missing are filled up by zeros
      calc ofDecimal digits * 10 ^ (9 - digits.length)
          < 10 ^ digits.length * 10 ^ (9 - digits.length) :=
            Nat.mul_lt_mul_of_pos_right hlt (Nat.pow_pos (by decide))
        _ = 1000000000 := by rw [← Nat.pow_add, Nat.add_sub_cancel' (by omega)]
    · simp at hNumber

/-- The invariant holds behind a fraction, because a fraction is less than a
second. -/
theorem Tellable.of_readFractionPart? {f f' : Fields} (hf : Tellable f) {cs rest : List Char}
    (h : readFractionPart? f true none cs = some (f', rest)) : Tellable f' := by
  unfold readFractionPart? at h
  simp only at h
  split at h
  · simp only [Option.bind_eq_bind, Option.bind_eq_some_iff, pure, Option.some.injEq,
      Prod.mk.injEq] at h
    obtain ⟨⟨n, _⟩, hFraction, _, hAgree, rfl, -⟩ := h
    have hn := readFraction?_lt hFraction
    refine { hf with nanosecond := ?_ }
    intro m hm
    unfold Fields.agree at hAgree
    have := hf.nanosecond
    grind
  · obtain ⟨rfl, -⟩ := Prod.mk.inj (Option.some.inj h)
    exact hf
  · simp_all

/-- An offset is one of whole minutes, because no seconds are read in it. So it
moves an instant without changing its second, and a leap second stays one. -/
theorem readOffset?_mod {zulu short : Bool} {o : Int} {cs rest : List Char}
    (h : readOffset? zulu short cs = some (o, rest)) : o % 60 = 0 := by
  unfold readOffset? at h
  split at h
  · simp at h
  · split at h
    · obtain ⟨rfl, -⟩ := Prod.mk.inj (Option.some.inj h)
      rfl
    · -- either sign, and minutes that are there or not
      repeat' split at h
      all_goals
        simp only [Option.bind_eq_bind, Option.bind_some, Option.bind_none, if_true,
          Bool.false_eq_true, if_false, Option.some.injEq, Prod.mk.injEq, reduceCtorEq] at h
      all_goals omega

/-- The invariant holds behind an offset that is one of whole minutes. -/
theorem Tellable.withOffset {f : Fields} (hf : Tellable f) {o : Int} {known : Option Int}
    (ho : o % 60 = 0) (h : Fields.agree f.offset o = some known) :
    Tellable { f with offset := known } := by
  refine { hf with offset := ?_ }
  intro o' ho'
  have hBefore := hf.offset
  unfold Fields.agree at h
  grind

/-- What the parts of a time stamp that was read keep to. The invariant goes
through part by part, in the order in which they are read. -/
theorem tellable_of_readStamp? {f : Fields} {cs rest : List Char}
    (h : readStamp? {} cs = some (f, rest)) : Tellable f := by
  have hNone : Tellable {} := ⟨by simp, rfl, by simp⟩
  simp only [readStamp?, noteOffset?, Option.bind_eq_bind, pure] at h
  obtain ⟨⟨f₁, cs₁⟩, hDate, h⟩ := Option.bind_eq_some_iff.mp h
  have hf₁ := hNone.of_readIsoDate? hDate
  split at h
  case h_4 => simp at h
  -- one of three letters is in front of the time
  all_goals
    simp only [Option.bind_some, Option.bind_eq_some_iff] at h
    obtain ⟨⟨f₂, _⟩, hHour, _, -, ⟨f₃, _⟩, hMinute, _, -, ⟨f₄, _⟩, hSecond, ⟨f₅, _⟩, hFraction,
      h⟩ := h
    -- each part is noted on top of the ones before it
    have hf₂ := hf₁.of_readPart? (by decide) (by decide) hHour
    have hf₃ := hf₂.of_readPart? (by decide) (by decide) hMinute
    have hf₄ := hf₃.of_readPart? (by decide) (by decide) hSecond
    have hf₅ := hf₄.of_readFractionPart? hFraction
    split at h
    · simp only [Option.bind_eq_some_iff, Option.some.injEq, Prod.mk.injEq] at h
      obtain ⟨g, ⟨known, hAgree, rfl⟩, rfl, -⟩ := h
      exact hf₅.withOffset rfl hAgree
    · simp only [Option.bind_eq_some_iff, Option.some.injEq, Prod.mk.injEq] at h
      obtain ⟨⟨o, _⟩, hOffset, g, ⟨known, hAgree, rfl⟩, rfl, -⟩ := h
      exact hf₅.withOffset (readOffset?_mod hOffset) hAgree

end Pattern

-- ---------------------------------------------------------------------------
-- The instant
-- ---------------------------------------------------------------------------

namespace Fields

/-- Without a number of seconds, date and time are made up of their own parts,
and nothing is carried from one to the other. -/
theorem time_of_dateTime {f : Fields} {o : Int} {d : Date} {t : TimeOfDay}
    (hStamp : f.timestamp = none) (h : f.dateTime o = .ok (d, t)) : f.time = .ok t := by
  unfold dateTime at h
  rw [hStamp] at h
  cases hDate : f.date with
  | error e => cases hTime : f.time <;> simp [hDate, hTime] at h
  | ok d' =>
    cases hTime : f.time with
    | error e => simp [hDate, hTime] at h
    | ok t' =>
      simp only [hDate, hTime, Except.ok.injEq, Prod.mk.injEq] at h
      rw [h.2]

/-- Only a leap second has more nanoseconds than a second, and that is at the
end of its minute. -/
theorem seconds_mod_of_time {f : Fields} {t : TimeOfDay}
    (hNano : ∀ n, f.nanosecond = some n → n < 1000000000) (h : f.time = .ok t)
    (hLong : 1000000000 ≤ t.nanoseconds) : t.seconds % 60 = 59 := by
  have hGetD : f.nanosecond.getD 0 < 1000000000 := by
    cases hn : f.nanosecond with
    | none => decide
    | some n => exact hNano n hn
  unfold time at h
  split at h
  · next half hour minute _ _ _ =>
    -- only the second 60 is a leap second, and it is noted as the 59th that goes on
    by_cases hLeap : f.second.getD 0 = 60
    · simp only [hLeap, if_true] at h
      split at h
      · simp at h
      · obtain rfl := Except.ok.inj h
        show ((12 * half + hour) * 3600 + minute * 60 + 59) % 60 = 59
        omega
    · simp only [hLeap, if_false] at h
      split at h
      · simp at h
      · obtain rfl := Except.ok.inj h
        simp only at hLong
        omega
  · simp at h

end Fields

namespace Instant

/-- An instant that was read from a time stamp is not carried. So the instants
that survive a file once survive it any number of times. -/
theorem carried_of_read? {cs : List Char} {i : Instant} (h : read? cs = some i) :
    i.carried = i := by
  simp only [read?, Option.bind_eq_bind, Option.bind_eq_some_iff] at h
  obtain ⟨⟨f, rest⟩, hStamp, h⟩ := h
  have hf := Pattern.tellable_of_readStamp? hStamp
  split at h
  · simp at h
  · obtain ⟨⟨d, t⟩, hDateTime, h⟩ := Option.bind_eq_some_iff.mp h
    have hTime : f.time = .ok t := by
      refine Fields.time_of_dateTime hf.timestamp (o := f.offset.getD 0) (d := d) ?_
      cases hResult : f.dateTime (f.offset.getD 0) with
      | error e => simp [hResult, Except.toOption] at hDateTime
      | ok result => simpa [hResult, Except.toOption] using hDateTime
    -- an offset of whole minutes moves the instant and leaves its seconds
    have hOffset : f.offset.getD 0 % 60 = 0 := by
      cases ho : f.offset with
      | none => rfl
      | some o => exact hf.offset o ho
    split at h
    · unfold ofSeconds? at h
      obtain ⟨d', -, h⟩ := Option.bind_eq_some_iff.mp h
      split at h
      · obtain rfl := Option.some.inj h
        rw [carried_eq_self_iff]
        intro hLong
        have hMod := Fields.seconds_mod_of_time hf.nanosecond hTime hLong
        show ((t.seconds - f.offset.getD 0 : Int) % 86400).toNat % 60 = 59
        omega
      · simp at h
    · simp at h

end Instant

end HomeLedger
