import HomeLedger.Text.Blank
import HomeLedger.Text.Digits
import Mathlib.Data.List.TakeWhile

/-!
# HomeLedger — a number is read from its digits

Numbers are written with or without leading zeros, and are read in either
way. Where a reader stops at a width, a number that has been filled up to
that width is read whatever follows; where it stops at the first character
that is no digit, something else has to follow.

Main results:

* `ofDecimal_padded` — leading zeros do not count.
* `length_padded` — a number that is small enough fills its width.
-/

namespace HomeLedger.Text

-- ---------------------------------------------------------------------------
-- Digits
-- ---------------------------------------------------------------------------

/-- Whether a text consists of digits. -/
def AllDigits (cs : List Char) : Prop := ∀ c ∈ cs, c.isDigit = true

instance (cs : List Char) : Decidable (AllDigits cs) :=
  decidable_of_iff (cs.all Char.isDigit = true) List.all_eq_true

theorem allDigits_append {a b : List Char} : AllDigits (a ++ b) ↔ AllDigits a ∧ AllDigits b :=
  List.forall_mem_append

theorem allDigits_cons {c : Char} {cs : List Char} :
    AllDigits (c :: cs) ↔ c.isDigit = true ∧ AllDigits cs :=
  List.forall_mem_cons

theorem allDigits_decimal (n : Nat) : AllDigits (decimal n) := fun _ hc =>
  Nat.isDigit_of_mem_toDigits (by decide) (by decide) hc

theorem allDigits_zeros (n : Nat) : AllDigits (List.replicate n '0') := by
  intro c hc
  obtain rfl := List.eq_of_mem_replicate hc
  decide

theorem padded_eq (width n : Nat) :
    padded width n = List.replicate (width - (decimal n).length) '0' ++ decimal n := rfl

theorem allDigits_padded (width n : Nat) : AllDigits (padded width n) :=
  allDigits_append.mpr ⟨allDigits_zeros _, allDigits_decimal n⟩

theorem decimal_ne_nil (n : Nat) : decimal n ≠ [] := Nat.toDigits_ne_nil

theorem padded_ne_nil (width n : Nat) : padded width n ≠ [] := by
  rw [padded_eq]
  exact List.append_ne_nil_of_right_ne_nil _ (decimal_ne_nil n)

/-- The digits of a number do not begin with a zero, unless it is zero. The
readers of files refuse a number with a zero in front, so this is why they take
what is written. -/
theorem decimal_head {n : Nat} (h : 0 < n) : ∃ c cs, decimal n = c :: cs ∧ c ≠ '0' := by
  induction n using Nat.strongRecOn with
  | ind n ih =>
    rw [decimal, Nat.toDigits_eq_if (by decide)]
    split
    · exact ⟨_, [], rfl, mt Nat.digitChar_eq_zero.mp (by omega)⟩
    · next hge =>
      obtain ⟨c, cs, hCons, hc⟩ := ih (n / 10) (by omega) (by omega)
      refine ⟨c, cs ++ [(n % 10).digitChar], ?_, hc⟩
      rw [← decimal, hCons, List.cons_append]

theorem toNat_of_isDigit {c : Char} (h : c.isDigit = true) : 48 ≤ c.toNat ∧ c.toNat ≤ 57 := by
  simp only [Char.isDigit, Bool.and_eq_true, decide_eq_true_eq, UInt32.le_iff_toNat_le,
    ge_iff_le] at h
  exact h

/-- A digit is no blank. -/
theorem isBlank_of_isDigit {c : Char} (h : c.isDigit = true) : isBlank c = false := by
  have hBounds := toNat_of_isDigit h
  unfold isBlank
  simp only [Bool.or_eq_false_iff, Bool.and_eq_false_iff, decide_eq_false_iff_not,
    beq_eq_false_iff_ne]
  omega

/-- A digit is no sign and none of the marks around numbers. -/
theorem ne_of_isDigit {c : Char} (h : c.isDigit = true) :
    c ≠ '-' ∧ c ≠ '+' ∧ c ≠ '.' ∧ c ≠ ',' ∧ c ≠ '$' ∧ c ≠ '/' := by
  refine ⟨?_, ?_, ?_, ?_, ?_, ?_⟩ <;> rintro rfl <;> exact absurd h (by decide)

-- ---------------------------------------------------------------------------
-- The number of digits
-- ---------------------------------------------------------------------------

@[simp] theorem ofDecimal_decimal (n : Nat) : ofDecimal (decimal n) = n :=
  Nat.ofDigitChars_ten_toDigits

/-- Digits that follow others are read on top of what these denote. -/
theorem ofDecimal_append (a b : List Char) :
    ofDecimal (a ++ b) = Nat.ofDigitChars 10 b (ofDecimal a) :=
  Nat.ofDigitChars_append 0

/-- One more digit takes what was read ten times, and adds its value. -/
theorem ofDigitChars_cons (c : Char) (cs : List Char) (n : Nat) :
    Nat.ofDigitChars 10 (c :: cs) n = Nat.ofDigitChars 10 cs (10 * n + digitValue c) :=
  Nat.ofDigitChars_cons

/-- What has been read so far is moved in front of what is read next, by as many
places as there are digits. -/
theorem ofDigitChars_eq (cs : List Char) (n : Nat) :
    Nat.ofDigitChars 10 cs n = 10 ^ cs.length * n + ofDecimal cs := by
  rw [Nat.ofDigitChars_eq_ofDigitChars_zero]
  rfl

/-- Leading zeros do not count. -/
@[simp] theorem ofDecimal_padded (width n : Nat) : ofDecimal (padded width n) = n := by
  rw [padded_eq, ofDecimal_append, ofDecimal, Nat.ofDigitChars_replicate_zero, Nat.mul_zero]
  exact ofDecimal_decimal n

theorem ofDecimal_zeros (n : Nat) : ofDecimal (List.replicate n '0') = 0 := by
  rw [ofDecimal, Nat.ofDigitChars_replicate_zero, Nat.mul_zero]

-- ---------------------------------------------------------------------------
-- Widths
-- ---------------------------------------------------------------------------

theorem length_decimal_le {n width : Nat} (hWidth : 0 < width) (h : n < 10 ^ width) :
    (decimal n).length ≤ width :=
  (Nat.length_toDigits_le_iff (by decide) hWidth).mpr h

/-- A number that is small enough fills its width, no more and no less. So a
reader that takes as many characters as the width takes the number. -/
theorem length_padded {n width : Nat} (hWidth : 0 < width) (h : n < 10 ^ width) :
    (padded width n).length = width := by
  have hle := length_decimal_le hWidth h
  rw [padded_eq, List.length_append, List.length_replicate]
  omega

/-- A number of so many digits is small enough for them. -/
theorem ofDecimal_lt {cs : List Char} (h : AllDigits cs) : ofDecimal cs < 10 ^ cs.length := by
  induction cs with
  | nil => decide
  | cons c cs ih =>
    obtain ⟨hc, hcs⟩ := allDigits_cons.mp h
    have hBounds := toNat_of_isDigit hc
    have hValue : digitValue c ≤ 9 := by
      show c.toNat - 48 ≤ 9
      omega
    have hRest := ih hcs
    rw [ofDecimal, ofDigitChars_cons, ofDigitChars_eq, List.length_cons, Nat.pow_succ]
    have hMul : 10 ^ cs.length * (10 * 0 + digitValue c) ≤ 10 ^ cs.length * 9 :=
      Nat.mul_le_mul_left _ (by omega)
    omega

/-- Digits are passed over up to the first character that is none. -/
theorem takeWhile_digits {cs rest : List Char} (h : AllDigits cs)
    (hRest : ∀ c ∈ rest.head?, c.isDigit = false) : (cs ++ rest).takeWhile Char.isDigit = cs := by
  rw [List.takeWhile_append_of_pos h]
  cases rest with
  | nil => simp
  | cons c rest =>
    have hc : c.isDigit = false := hRest c rfl
    simp [hc]

/-- Where no digit is in front, nothing is passed over. -/
theorem dropWhile_digits {rest : List Char} (hRest : ∀ c ∈ rest.head?, c.isDigit = false) :
    rest.dropWhile Char.isDigit = rest := by
  cases rest with
  | nil => rfl
  | cons c rest => rw [List.dropWhile_cons_of_neg (by simp [hRest c rfl])]

/-- A reader that goes on as long as there are digits takes all of these, and
leaves what follows. -/
theorem spanDigits_append {cs rest : List Char} (h : AllDigits cs)
    (hRest : ∀ c ∈ rest.head?, c.isDigit = false) : spanDigits (cs ++ rest) = (cs, rest) := by
  rw [spanDigits, takeWhile_digits h hRest, List.dropWhile_append_of_pos h, dropWhile_digits hRest]

end HomeLedger.Text
