import HomeLedger.Decimal.Text
import HomeLedger.Proofs.Text.Digits
import Mathlib.Tactic.Ring

/-!
# HomeLedger — a decimal is read from its text

A decimal writes all its digits, so nothing of it can be lost but one thing:
a zero that has a sign is written with it and read without. How a reader
treats digits that do not fit does not matter, because all of them do.

Main results:

* `readDigits_unsignedText` — what is read from the digits of a decimal, with
  any number of places.
* `readWith_text` — what is read from its text.
-/

namespace HomeLedger.Decimal

open Text

-- ---------------------------------------------------------------------------
-- Reading digits
-- ---------------------------------------------------------------------------

/-- Each digit that is taken makes the number at least as large, so that what
fits in the end fits on the way. -/
theorem le_ofDigitChars (cs : List Char) (n : Nat) : n ≤ Nat.ofDigitChars 10 cs n := by
  rw [ofDigitChars_eq]
  have hPos : 0 < 10 ^ cs.length := Nat.pow_pos (by decide)
  have hle : 1 * n ≤ 10 ^ cs.length * n := Nat.mul_le_mul_right n hPos
  omega

/-- Digits before the point are taken into the mantissa while it fits. -/
theorem readDigits_whole {excess : Excess} {negative seen : Bool} {m : Nat}
    {cs rest : List Char} (hcs : AllDigits cs) (hFits : Nat.ofDigitChars 10 cs m < 2 ^ 96) :
    readDigits excess negative false seen m 0 (cs ++ rest) =
      readDigits excess negative false (seen || !cs.isEmpty) (Nat.ofDigitChars 10 cs m) 0 rest := by
  induction cs generalizing seen m with
  | nil => simp
  | cons c cs ih =>
    obtain ⟨hc, hRest⟩ := allDigits_cons.mp hcs
    rw [ofDigitChars_cons] at hFits ⊢
    have hNext : 10 * m + digitValue c < 2 ^ 96 := (le_ofDigitChars cs _).trans_lt hFits
    rw [List.cons_append, readDigits, if_neg (by decide), if_pos hc]
    simp only
    rw [if_pos hNext, if_neg (by decide), ih hRest hFits]
    simp

/-- So are digits behind the point, where each is a place. -/
theorem readDigits_fraction {excess : Excess} {negative seen : Bool} {m scale : Nat}
    {cs : List Char} (hcs : AllDigits cs) (hFits : Nat.ofDigitChars 10 cs m < 2 ^ 96)
    (hScale : scale + cs.length ≤ 28) (hSeen : seen = true) :
    readDigits excess negative true seen m scale cs =
      ofParts? negative (Nat.ofDigitChars 10 cs m) (scale + cs.length) := by
  induction cs generalizing seen m scale with
  | nil => rw [readDigits, if_pos hSeen, Nat.ofDigitChars_nil, List.length_nil, Nat.add_zero]
  | cons c cs ih =>
    obtain ⟨hc, hRest⟩ := allDigits_cons.mp hcs
    rw [List.length_cons] at hScale
    rw [ofDigitChars_cons] at hFits ⊢
    have hNext : 10 * m + digitValue c < 2 ^ 96 := (le_ofDigitChars cs _).trans_lt hFits
    rw [readDigits, if_neg (by unfold maxScale; omega), if_pos hc]
    simp only [if_true]
    rw [if_pos hNext, ih hRest hFits (by omega) rfl, List.length_cons, Nat.add_assoc,
      Nat.add_comm 1]

/-- Whether a character can stand behind the sign of a number: a digit, the
point, or an underscore between digits. -/
def isNumeral (c : Char) : Bool := c.isDigit || c == '.' || c == '_'

/-- Digits with anything else behind them are no number. -/
theorem readDigits_eq_none {excess : Excess} {negative seen : Bool} {m : Nat} {c : Char}
    {cs rest : List Char} (hcs : AllDigits cs) (hc : isNumeral c = false) :
    readDigits excess negative false seen m 0 (cs ++ c :: rest) = none := by
  induction cs generalizing seen m with
  | nil =>
    simp only [isNumeral, Bool.or_eq_false_iff, beq_eq_false_iff_ne] at hc
    obtain ⟨⟨hDigit, hPoint⟩, hUnderscore⟩ := hc
    rw [List.nil_append, readDigits, if_neg (by decide), if_neg (by simp [hDigit]),
      if_neg (by simp [hPoint]), if_neg (by simp [hUnderscore])]
  | cons d ds ih =>
    obtain ⟨hd, hRest⟩ := allDigits_cons.mp hcs
    rw [List.cons_append, readDigits, if_neg (by decide), if_pos hd]
    simp only [Bool.false_eq_true, if_false]
    split
    · exact ih hRest
    · rfl

-- ---------------------------------------------------------------------------
-- The digits of a decimal
-- ---------------------------------------------------------------------------

/-- What is written behind the point is digits, those that are filled up
included. -/
theorem allDigits_fractionDigits (d : Decimal) (places : Nat) :
    AllDigits (d.fractionDigits places) := by
  refine allDigits_append.mpr ⟨?_, allDigits_zeros _⟩
  split
  · intro c hc
    simp at hc
  · exact allDigits_padded _ _

/-- There are as many digits behind the point as are asked for. -/
theorem length_fractionDigits {d : Decimal} {places : Nat} (h : d.scale ≤ places) :
    (d.fractionDigits places).length = places := by
  rw [fractionDigits, List.length_append, List.length_replicate]
  split
  · next hZero => simp [hZero]
  · next hScale =>
    rw [length_padded (by omega) (Nat.mod_lt _ (Nat.pow_pos (by decide)))]
    omega

/-- The digits behind the point denote what the mantissa has there, with a zero
for each place that was filled up. -/
theorem ofDecimal_fractionDigits {d : Decimal} {places : Nat} :
    ofDecimal (d.fractionDigits places) =
      d.mantissa % 10 ^ d.scale * 10 ^ (places - d.scale) := by
  rw [fractionDigits, ofDecimal_append, ofDigitChars_eq, List.length_replicate, ofDecimal_zeros,
    Nat.add_zero, Nat.mul_comm]
  split
  · next hZero => rw [hZero, Nat.pow_zero, Nat.mod_one]; rfl
  · rw [ofDecimal_padded]

/-- The digits on both sides of the point denote the mantissa, at the number
of places that was asked for. -/
theorem ofDigitChars_fractionDigits {d : Decimal} {places : Nat} (h : d.scale ≤ places) :
    Nat.ofDigitChars 10 (d.fractionDigits places) (d.mantissa / 10 ^ d.scale) =
      d.mantissa * 10 ^ (places - d.scale) := by
  obtain ⟨k, rfl⟩ := Nat.exists_eq_add_of_le h
  have hDiv : 10 ^ d.scale * (d.mantissa / 10 ^ d.scale) + d.mantissa % 10 ^ d.scale = d.mantissa :=
    Nat.div_add_mod _ _
  rw [ofDigitChars_eq, length_fractionDigits h, ofDecimal_fractionDigits, Nat.add_sub_cancel_left,
    Nat.pow_add]
  calc 10 ^ d.scale * 10 ^ k * (d.mantissa / 10 ^ d.scale) + d.mantissa % 10 ^ d.scale * 10 ^ k
      = (10 ^ d.scale * (d.mantissa / 10 ^ d.scale) + d.mantissa % 10 ^ d.scale) * 10 ^ k := by
        ring
    _ = d.mantissa * 10 ^ k := by rw [hDiv]

/-- What is read from the digits of a decimal: its mantissa, at the number of
places with which it was written. The bound is on the mantissa with the zeros
that were filled up, since those have to fit, too. -/
theorem readDigits_unsignedText {excess : Excess} {negative : Bool} {d : Decimal} {places : Nat}
    (h : d.scale ≤ places) (hPlaces : places ≤ 28)
    (hFits : d.mantissa * 10 ^ (places - d.scale) < 2 ^ 96) :
    readDigits excess negative false false 0 0 (d.unsignedText places) =
      ofParts? negative (d.mantissa * 10 ^ (places - d.scale)) places := by
  have hDigits : AllDigits d.wholeDigits := allDigits_decimal _
  have hWhole : Nat.ofDigitChars 10 d.wholeDigits 0 = d.mantissa / 10 ^ d.scale :=
    ofDecimal_decimal _
  have hValue := ofDigitChars_fractionDigits h
  have hWholeFits : Nat.ofDigitChars 10 d.wholeDigits 0 < 2 ^ 96 := by
    rw [hWhole]
    refine Nat.lt_of_le_of_lt ?_ hFits
    rw [← hValue]
    exact le_ofDigitChars _ _
  have hSeen : (false || !d.wholeDigits.isEmpty) = true := by
    have hne : d.wholeDigits ≠ [] := decimal_ne_nil _
    simpa using hne
  unfold unsignedText
  rw [max_eq_right h]
  -- without places there is no point, and the digits of the whole number are all
  split
  · next hZero =>
    subst hZero
    have hScale : d.scale = 0 := by omega
    rw [← List.append_nil d.wholeDigits, readDigits_whole hDigits hWholeFits, hSeen,
      hWhole, readDigits, if_pos rfl, hScale, Nat.pow_zero, Nat.div_one, Nat.mul_one]
  · rw [readDigits_whole hDigits hWholeFits, hSeen, hWhole, readDigits,
      if_neg (by decide), if_neg (by decide), if_pos (by decide),
      readDigits_fraction (allDigits_fractionDigits d places) (by rwa [hValue])
        (by rw [length_fractionDigits h]; omega) rfl,
      hValue, length_fractionDigits h, Nat.zero_add]

/-- Without the point, the digits denote the mantissa as a whole number. This is
why a separator that is the point makes an amount larger: its digits stay, and
the scale is lost. -/
theorem readDigits_pointless {excess : Excess} {negative : Bool} (d : Decimal) :
    readDigits excess negative false false 0 0 (d.wholeDigits ++ d.fractionDigits d.scale) =
      ofParts? negative d.mantissa 0 := by
  have hDigits : AllDigits (d.wholeDigits ++ d.fractionDigits d.scale) :=
    allDigits_append.mpr ⟨allDigits_decimal _, allDigits_fractionDigits d d.scale⟩
  have hValue : Nat.ofDigitChars 10 (d.wholeDigits ++ d.fractionDigits d.scale) 0 = d.mantissa := by
    have hWhole : Nat.ofDigitChars 10 d.wholeDigits 0 = d.mantissa / 10 ^ d.scale :=
      ofDecimal_decimal _
    rw [Nat.ofDigitChars_append, hWhole, ofDigitChars_fractionDigits le_rfl, Nat.sub_self,
      Nat.pow_zero, Nat.mul_one]
  have hSeen : (false || !(d.wholeDigits ++ d.fractionDigits d.scale).isEmpty) = true := by
    have hne : d.wholeDigits ≠ [] := decimal_ne_nil _
    simp [hne]
  rw [← List.append_nil (d.wholeDigits ++ d.fractionDigits d.scale),
    readDigits_whole hDigits (by rw [hValue]; exact d.mantissa_lt), hSeen, hValue, readDigits,
    if_pos rfl]

-- ---------------------------------------------------------------------------
-- The text of a decimal
-- ---------------------------------------------------------------------------

/-- The digits of a decimal begin with no sign. -/
theorem unsignedText_head (d : Decimal) (places : Nat) :
    ∀ c ∈ (d.unsignedText places).head?, c ≠ '-' ∧ c ≠ '+' := by
  have hDigits : AllDigits d.wholeDigits := allDigits_decimal _
  have hne : d.wholeDigits ≠ [] := decimal_ne_nil _
  obtain ⟨first, rest, hCons⟩ := List.exists_cons_of_ne_nil hne
  have hFirst : first.isDigit = true := hDigits first (by simp [hCons])
  have hHead : (d.unsignedText places).head? = some first := by
    unfold unsignedText
    rw [hCons]
    split <;> rfl
  intro c hc
  rw [hHead, Option.mem_some_iff] at hc
  subst hc
  exact ⟨(ne_of_isDigit hFirst).1, (ne_of_isDigit hFirst).2.1⟩

/-- A sign in front of a text that has none is read as the sign, and nothing but
a sign is taken for one. -/
theorem readWith_sign {excess : Excess} {cs : List Char} (negative : Bool)
    (h : ∀ c ∈ cs.head?, c ≠ '-' ∧ c ≠ '+') :
    readWith excess ((if negative then ['-'] else []) ++ cs) =
      readDigits excess negative false false 0 0 cs := by
  cases negative with
  | true => rfl
  | false =>
    show readWith excess cs = _
    unfold readWith
    split
    · exact absurd rfl (h _ rfl).1
    · exact absurd rfl (h _ rfl).2
    · rfl

/-- The decimal without the sign of a zero. -/
def withoutZeroSign (d : Decimal) : Decimal := { d with negative := d.negative && d.mantissa != 0 }

/-- Only a zero has a sign that does not count. All other decimals are told
apart by their texts. -/
theorem withoutZeroSign_eq_self_iff (d : Decimal) :
    d.withoutZeroSign = d ↔ (d.mantissa = 0 → d.negative = false) := by
  obtain ⟨negative, mantissa, scale, hMantissa, hScale⟩ := d
  cases negative <;> simp [withoutZeroSign]

/-- A decimal is read from its text, but for the sign of a zero. It has the
places that were written, so it is the same decimal and not only the same
number. -/
theorem readWith_text (excess : Excess) (d : Decimal) :
    readWith excess d.text.toList = some d.withoutZeroSign := by
  have hFits : d.mantissa * 10 ^ (d.scale - d.scale) = d.mantissa := by
    rw [Nat.sub_self, Nat.pow_zero, Nat.mul_one]
  rw [text, String.toList_ofList, readWith_sign _ (unsignedText_head d _),
    readDigits_unsignedText le_rfl d.scale_le (by rw [hFits]; exact d.mantissa_lt), hFits, ofParts?,
    dif_pos ⟨d.mantissa_lt, d.scale_le⟩]
  rfl

/-- The same for the reader that knows scientific notation. -/
theorem read_text (d : Decimal) : read d.text.toList = some d.withoutZeroSign := by
  have h : readRounding d.text.toList = some d.withoutZeroSign := readWith_text .round d
  rw [read, h]
  rfl

end HomeLedger.Decimal
