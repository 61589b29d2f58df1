import HomeLedger.Proofs.Decimal.Value
import Mathlib.Algebra.Order.AbsoluteValue.Basic

/-!
# HomeLedger — rounding goes to the nearest number

What rounding is meant to give is said without a word on how it is done
(`IsNearestEven`): a whole number that is at most one half away, and an even
one where it is exactly one half away.

Main results:

* `isNearestEven_divHalfEven` — the rounded quotient is that number.
* `isNearestEven_round` — so is a rounded decimal, counted in units of its
  last place.
-/

namespace HomeLedger

/-- Whether a whole number is the nearest one to a number, and of two that are
equally near the even one. There is one such number, so this says all about
rounding. -/
def IsNearestEven (x : ℚ) (n : Int) : Prop := |x - n| ≤ 1 / 2 ∧ (|x - n| = 1 / 2 → n % 2 = 0)

theorem isNearestEven_self (n : Int) : IsNearestEven n n := by
  constructor
  · rw [sub_self, abs_zero]
    norm_num
  · intro h
    rw [sub_self, abs_zero] at h
    norm_num at h

/-- The nearest number has the other sign if the number has, so that it is
enough to round numbers without a sign. -/
theorem IsNearestEven.neg {x : ℚ} {n : Int} (h : IsNearestEven x n) : IsNearestEven (-x) (-n) := by
  have hAbs : |-x - ((-n : Int) : ℚ)| = |x - n| := by
    rw [← abs_neg]
    congr 1
    push_cast
    ring
  unfold IsNearestEven
  rw [hAbs]
  refine ⟨h.1, ?_⟩
  intro hTie
  have := h.2 hTie
  omega

/-- Where the dividend lies halfway, the rounded quotient is even. The two
equations are the two sides from which halfway can be reached. -/
theorem divHalfEven_even {n d : Nat} (hd : 0 < d)
    (hTie : 2 * n = 2 * (d * divHalfEven n d) + d ∨ 2 * n + d = 2 * (d * divHalfEven n d)) :
    divHalfEven n d % 2 = 0 := by
  have hDiv : d * (n / d) + n % d = n := Nat.div_add_mod n d
  have hMod : n % d < d := Nat.mod_lt n hd
  unfold divHalfEven at hTie ⊢
  split
  · next hUp =>
    rw [if_pos hUp, Nat.mul_add] at hTie
    omega
  · next hDown =>
    rw [if_neg hDown] at hTie
    omega

/-- The rounded quotient is the nearest whole number. Being at most half a unit
away is shown by two inequalities between whole numbers. -/
theorem isNearestEven_divHalfEven {n d : Nat} (hd : 0 < d) :
    IsNearestEven ((n : ℚ) / d) (divHalfEven n d) := by
  have hPos : (0 : ℚ) < d := by exact_mod_cast hd
  have hLow : (2 : ℚ) * n ≤ 2 * (d * divHalfEven n d) + d := by
    exact_mod_cast two_mul_le_divHalfEven hd
  have hHigh : (2 : ℚ) * (d * divHalfEven n d) ≤ 2 * n + d := by
    exact_mod_cast two_mul_divHalfEven_le hd
  have hQuot : (n : ℚ) / d * d = n := div_mul_cancel₀ _ hPos.ne'
  set q : ℚ := (n : ℚ) / d with hq
  constructor
  · rw [abs_le]
    push_cast
    constructor <;> nlinarith
  -- a tie is rounded to an even number, whichever side it comes from
  · intro hTie
    have hEven : divHalfEven n d % 2 = 0 := by
      refine divHalfEven_even hd ?_
      push_cast at hTie
      rcases (abs_eq (by norm_num)).mp hTie with h | h
      · left
        have : (2 : ℚ) * n = 2 * (d * divHalfEven n d) + d := by
          rw [← hQuot, show q = divHalfEven n d + 1 / 2 by linarith]
          ring
        exact_mod_cast this
      · right
        have : (2 : ℚ) * n + d = 2 * (d * divHalfEven n d) := by
          rw [← hQuot, show q = divHalfEven n d - 1 / 2 by linarith]
          ring
        exact_mod_cast this
    omega

namespace Decimal

/-- At a scale with more places the mantissa has as many zeros more. -/
theorem natAbs_signedAt (d : Decimal) (scale : Nat) :
    (d.signedAt scale).natAbs = d.mantissa * 10 ^ (scale - d.scale) := by
  have hSigned : d.signed.natAbs = d.mantissa := by
    unfold signed
    split <;> simp
  rw [signedAt, Int.natAbs_mul, Int.natAbs_pow, hSigned]
  rfl

/-- A rounded decimal has no more places than were asked for. It may have fewer,
since none are added. -/
theorem scale_round_le (d : Decimal) (places : Nat) : (d.round places).scale ≤ places := by
  unfold round
  split
  · exact le_rfl
  · next h => exact Nat.le_of_not_lt h

/-- A rounded decimal is the nearest one with so many places. A decimal that has
no more is left as it is, and is its own nearest one. -/
theorem isNearestEven_round (d : Decimal) (places : Nat) :
    IsNearestEven (d.toRat * 10 ^ places) ((d.round places).signedAt places) := by
  -- only an amount with more places than are asked for is rounded at all
  by_cases h : places < d.scale
  · have hScale : d.scale = places + (d.scale - places) := by omega
    have hRound : (d.round places).signedAt places =
        if d.negative then -(divHalfEven d.mantissa (10 ^ (d.scale - places)) : Int)
        else divHalfEven d.mantissa (10 ^ (d.scale - places)) := by
      rw [signedAt, round, dif_pos h, signed]
      by_cases hz : divHalfEven d.mantissa (10 ^ (d.scale - places)) = 0
      · simp [hz]
      · simp [hz]
    have hValue : d.toRat * 10 ^ places =
        if d.negative then -((d.mantissa : ℚ) / ((10 ^ (d.scale - places) : Nat) : ℚ))
        else (d.mantissa : ℚ) / ((10 ^ (d.scale - places) : Nat) : ℚ) := by
      rw [toRat, signed, hScale, pow_add, ← hScale]
      split
      · push_cast
        field_simp
      · push_cast
        field_simp
    have hNearest := isNearestEven_divHalfEven (n := d.mantissa) (d := 10 ^ (d.scale - places))
      (Nat.pow_pos (by decide))
    rw [hRound, hValue]
    split
    · exact hNearest.neg
    · exact hNearest
  · have hle : d.scale ≤ places := Nat.le_of_not_lt h
    rw [round_of_scale_le hle, ← signedAt_eq hle]
    exact isNearestEven_self _

end Decimal

end HomeLedger
