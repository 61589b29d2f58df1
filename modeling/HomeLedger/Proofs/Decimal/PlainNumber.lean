import HomeLedger.Proofs.Decimal.Text
import HomeLedger.Proofs.Decimal.Value
import HomeLedger.Proofs.Text.PlainNumber

/-!
# HomeLedger — numerals are read exactly or not at all

A reader that takes digits one after the other could lose some of them in two
places: where the mantissa is full, and where there are no more places behind
the point. The reader of amounts stops at both of them, whatever digits
follow, so what it reads is the number that is written.

It does not stop any sooner: leading zeros take up no room, and the mantissa
on the way is never larger than in the end.

Main results:

* `readExact_chars` — what is read from a numeral, if anything.
* `toRat_of_readExact` — the number is the one that is written.
-/

namespace HomeLedger

/-- The number that a plain notation denotes. -/
def Text.PlainNumber.toRat (m : Text.PlainNumber) : ℚ := m.signed / 10 ^ m.fraction.length

namespace Decimal

open Text

-- ---------------------------------------------------------------------------
-- Decimals from their parts
-- ---------------------------------------------------------------------------

/-- Parts that fit make up the number that they are of. -/
theorem toRat_of_ofParts? {negative : Bool} {m s : Nat} {d : Decimal}
    (h : ofParts? negative m s = some d) :
    d.toRat = ((if negative then -(m : Int) else m : Int) : ℚ) / 10 ^ s := by
  unfold ofParts? at h
  split at h
  · obtain rfl := Option.some.inj h
    by_cases hZero : m = 0
    · simp [toRat, signed, hZero]
    · simp [toRat, signed, hZero]
  · simp at h

/-- Parts that do not fit make up no decimal, be it for the mantissa or for the
places. -/
theorem ofParts?_of_large {negative : Bool} {m s : Nat} (h : 2 ^ 96 ≤ m ∨ 28 < s) :
    ofParts? negative m s = none := by
  rw [ofParts?, dif_neg]
  omega

-- ---------------------------------------------------------------------------
-- Reading digits
-- ---------------------------------------------------------------------------

/-- Digits before the point are refused as soon as they do not fit. The digits
behind them are not read any more, so what stands there does not matter. -/
theorem readDigits_whole_eq_none {excess : Excess} {negative seen : Bool} {m : Nat}
    {cs rest : List Char} (hcs : AllDigits cs) (hm : m < 2 ^ 96)
    (hLarge : 2 ^ 96 ≤ Nat.ofDigitChars 10 cs m) :
    readDigits excess negative false seen m 0 (cs ++ rest) = none := by
  induction cs generalizing seen m with
  | nil =>
    rw [Nat.ofDigitChars_nil] at hLarge
    omega
  | cons c cs ih =>
    obtain ⟨hc, hRest⟩ := allDigits_cons.mp hcs
    rw [ofDigitChars_cons] at hLarge
    rw [List.cons_append, readDigits, if_neg (by decide), if_pos hc]
    simp only [Bool.false_eq_true, if_false]
    split
    · next hNext => exact ih hRest hNext hLarge
    · rfl

/-- Behind the point digits are taken into the mantissa, or the text is refused:
no digit is left out. Places that are one too many are refused, too, even if
they are zeros. -/
theorem readDigits_fraction_refuse {negative : Bool} {m scale : Nat} {cs : List Char}
    (hcs : AllDigits cs) (hm : m < 2 ^ 96) (hScale : scale ≤ 28) :
    readDigits .refuse negative true true m scale cs =
      ofParts? negative (Nat.ofDigitChars 10 cs m) (scale + cs.length) := by
  induction cs generalizing m scale with
  | nil => rw [readDigits, if_pos rfl, Nat.ofDigitChars_nil, List.length_nil, Nat.add_zero]
  | cons c cs ih =>
    obtain ⟨hc, hRest⟩ := allDigits_cons.mp hcs
    rw [ofDigitChars_cons, List.length_cons]
    by_cases hFull : scale = maxScale
    -- there is no room for one more place
    · have hLarge : 28 < scale + (cs.length + 1) := by
        rw [hFull, maxScale]
        omega
      rw [readDigits, if_pos hFull, ofParts?_of_large (Or.inr hLarge)]
      rfl
    · rw [readDigits, if_neg hFull, if_pos hc]
      simp only [if_true]
      have hRoom : scale + 1 ≤ 28 := by
        unfold maxScale at hFull
        omega
      split
      · next hNext => rw [ih hRest hNext hRoom, Nat.add_assoc, Nat.add_comm 1]
      · next hNext =>
        -- the digits that follow make it no smaller
        have hLarge : 2 ^ 96 ≤ Nat.ofDigitChars 10 cs (10 * m + digitValue c) :=
          (Nat.le_of_not_lt hNext).trans (le_ofDigitChars cs _)
        rw [ofParts?_of_large (Or.inl hLarge)]
        rfl

/-- What is read from a numeral without its sign. Both sides of the point are
read by one induction each, with the mantissa on the way in between. -/
theorem readDigits_unsigned (negative : Bool) (m : PlainNumber) :
    readDigits .refuse negative false false 0 0 m.unsigned =
      ofParts? negative m.units m.fraction.length := by
  have hUnits : Nat.ofDigitChars 10 m.fraction (Nat.ofDigitChars 10 m.whole 0) = m.units :=
    (ofDecimal_append m.whole m.fraction).symm
  have hSeen : (false || !m.whole.isEmpty) = true := by simpa using m.whole_ne_nil
  by_cases hFits : Nat.ofDigitChars 10 m.whole 0 < 2 ^ 96
  · rw [PlainNumber.unsigned, readDigits_whole m.whole_digits hFits, hSeen]
    split
    · next hNone =>
      rw [hNone, Nat.ofDigitChars_nil] at hUnits
      rw [readDigits, if_pos rfl, hUnits, hNone]
      rfl
    · rw [readDigits, if_neg (by decide), if_neg (by decide), if_pos (by decide),
        readDigits_fraction_refuse m.fraction_digits hFits (Nat.zero_le 28), hUnits, Nat.zero_add]
  · have hLarge : 2 ^ 96 ≤ Nat.ofDigitChars 10 m.whole 0 := Nat.le_of_not_lt hFits
    rw [PlainNumber.unsigned, readDigits_whole_eq_none m.whole_digits (by decide) hLarge,
      ofParts?_of_large (Or.inl ?_)]
    rw [← hUnits]
    exact hLarge.trans (le_ofDigitChars _ _)

-- ---------------------------------------------------------------------------
-- Numerals
-- ---------------------------------------------------------------------------

/-- A numeral is read if its digits and its places fit, and with all of them.
The text of the numeral decides nothing else. -/
theorem readExact_chars (m : PlainNumber) :
    readExact m.chars = ofParts? (m.sign = .minus) m.units m.fraction.length := by
  have hHead : ∀ c ∈ m.unsigned.head?, c ≠ '-' ∧ c ≠ '+' := by
    obtain ⟨c, cs, hCons, hDigit⟩ := m.exists_unsigned_eq
    intro c' hc'
    rw [hCons] at hc'
    obtain rfl := Option.some.inj hc'
    exact ⟨(ne_of_isDigit hDigit).1, (ne_of_isDigit hDigit).2.1⟩
  rw [readExact, PlainNumber.chars]
  cases m.sign with
  | absent =>
    show readWith .refuse ((if false then ['-'] else []) ++ m.unsigned) = _
    rw [readWith_sign false hHead]
    exact readDigits_unsigned false m
  | plus => exact readDigits_unsigned false m
  | minus => exact readDigits_unsigned true m

/-- What is read from a numeral is the number that it denotes. -/
theorem toRat_of_readExact {m : PlainNumber} {d : Decimal} (h : readExact m.chars = some d) :
    d.toRat = m.toRat := by
  rw [readExact_chars] at h
  rw [toRat_of_ofParts? h, PlainNumber.toRat, PlainNumber.signed]
  simp

/-- A numeral is read as long as its digits and its places fit. -/
theorem isSome_readExact_iff {m : PlainNumber} : (readExact m.chars).isSome ↔
    m.units < 2 ^ 96 ∧ m.fraction.length ≤ 28 := by
  rw [readExact_chars, ofParts?_isSome_iff]

end Decimal

end HomeLedger
