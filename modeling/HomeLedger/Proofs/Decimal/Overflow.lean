import HomeLedger.Proofs.Decimal.Value
import Mathlib.Algebra.Order.Floor.Semiring
import Mathlib.Data.Rat.Floor

/-!
# HomeLedger — when a sum fits

Digits behind the point never keep two decimals from having a sum: they are
rounded off as far as needed. Only the whole part can be too large, and that
is said by the exact sum alone: there is none from half a unit below `2 ^ 96`
on, since from there it is rounded to `2 ^ 96`, a tie being even.

A sum of many decimals is rounded on the way, and the errors add up. But none
of its parts passes a whole number that the exact part does not pass, so sums
are bounded in whole units (`units`).

Main results:

* `add?_eq_none_iff` — which two decimals have no sum.
* `sum?_le_units` — a sum is bounded by its summands in whole units.
* `sum?_of_units_lt` — summands whose units fit have a sum.
-/

namespace HomeLedger

-- ---------------------------------------------------------------------------
-- Division to the nearest
-- ---------------------------------------------------------------------------

/-- The rounded quotient reaches an even number from half a unit below it on.
For an odd number the tie would go the other way, but `2 ^ 96` is even. -/
theorem two_mul_le_divHalfEven_iff {n d m : Nat} (hd : 0 < d) (hm : 0 < m) :
    2 * m ≤ divHalfEven n d ↔ (4 * m - 1) * d ≤ 2 * n := by
  have hDiv : d * (n / d) + n % d = n := Nat.div_add_mod n d
  have hMod : n % d < d := Nat.mod_lt n hd
  have hBound : (4 * m - 1) * d + d = 2 * (2 * m * d) := by
    obtain ⟨k, hk⟩ : ∃ k, 4 * m = k + 1 := ⟨4 * m - 1, by omega⟩
    have : (4 * m - 1) * d + d = 4 * m * d := by rw [hk, Nat.add_sub_cancel]; ring
    rw [this]
    ring
  unfold divHalfEven
  rcases Nat.lt_trichotomy (n / d + 1) (2 * m) with hLess | hNext | hMore
  · -- even rounded up the quotient is too small
    have hle : d * (n / d) + 2 * d ≤ 2 * m * d := by
      calc d * (n / d) + 2 * d = (n / d + 2) * d := by ring
        _ ≤ 2 * m * d := Nat.mul_le_mul_right d hLess
    constructor
    · intro h
      split at h <;> omega
    · intro h
      omega
  · -- the quotient is odd, so that a tie is rounded up
    have hEq : 2 * m * d = d * (n / d) + d := by
      rw [← hNext]
      ring
    have hOdd : n / d % 2 = 1 := by omega
    constructor
    · intro h
      split at h <;> omega
    · intro h
      rw [if_pos (by omega)]
      omega
  -- rounded down or up, the quotient is large enough
  · have hle : 2 * m * d ≤ d * (n / d) := by
      rw [Nat.mul_comm d]
      exact Nat.mul_le_mul_right d (by omega)
    constructor
    · intro _
      omega
    · intro _
      split <;> omega

/-- Rounding does not pass a whole number that the exact quotient does not pass,
because that number is a candidate itself. -/
theorem divHalfEven_le_of_le_mul {n d m : Nat} (hd : 0 < d) (h : n ≤ m * d) :
    divHalfEven n d ≤ m := by
  have hDiv : d * (n / d) + n % d = n := Nat.div_add_mod n d
  unfold divHalfEven
  rcases Nat.lt_or_ge (n / d) m with hLess | hMore
  · split <;> omega
  · have hle : m * d ≤ d * (n / d) := by
      rw [Nat.mul_comm d]
      exact Nat.mul_le_mul_right d hMore
    have hQuot : n / d ≤ m := (Nat.div_le_div_right h).trans (by rw [Nat.mul_div_cancel _ hd])
    rw [if_neg (by omega)]
    exact hQuot

namespace Decimal

-- ---------------------------------------------------------------------------
-- Two summands
-- ---------------------------------------------------------------------------

/-- A number has no decimal if its whole part is rounded to `2 ^ 96`. As long as
it is not, enough digits behind the point can be given up. -/
theorem fit?_eq_none_iff {negative : Bool} {n scale : Nat} (hScale : scale ≤ 28) :
    fit? negative n scale = none ↔ (2 ^ 97 - 1) * 10 ^ scale ≤ 2 * n := by
  have hLarge : ∀ k, 2 ^ 96 ≤ divHalfEven n (10 ^ k) ↔ (2 ^ 97 - 1) * 10 ^ k ≤ 2 * n :=
    fun k => two_mul_le_divHalfEven_iff (m := 2 ^ 95) (Nat.pow_pos (by decide)) (by decide)
  constructor
  · intro h
    -- with the smallest scale all digits behind the point are given up, and there is nothing else
    rw [← hLarge, ← not_lt]
    intro hSmall
    unfold fit? at h
    split at h
    · next k hk =>
      have hFits := List.find?_some hk
      have hParts : (ofParts? negative (divHalfEven n (10 ^ k)) (scale - k)).isSome :=
        ofParts?_isSome_iff.mpr ⟨by simpa using hFits, by omega⟩
      rw [h] at hParts
      simp at hParts
    · next hNone =>
      have hLast := List.find?_eq_none.mp hNone scale (List.mem_range.mpr (Nat.lt_succ_self _))
      simp [hSmall] at hLast
  · intro h
    have hNone : (List.range (scale + 1)).find? (fun k => divHalfEven n (10 ^ k) < 2 ^ 96) =
        none := by
      refine List.find?_eq_none.mpr fun k hk => ?_
      have hle : 10 ^ k ≤ 10 ^ scale :=
        Nat.pow_le_pow_right (by decide) (Nat.lt_succ_iff.mp (List.mem_range.mp hk))
      -- the bound grows with the digits that are given up, so it is enough to give up all of them
      have hk' := (hLarge k).mpr ((Nat.mul_le_mul_left _ hle).trans h)
      simpa using hk'
    rw [fit?, hNone]

/-- No decimal is as large as `2 ^ 96`, since its mantissa is not and a scale
only makes it smaller. -/
theorem abs_toRat_le (d : Decimal) : |d.toRat| ≤ 2 ^ 96 - 1 := by
  have hAbs : |(d.signed : ℚ)| = d.mantissa := by
    unfold signed
    split <;> simp
  have hMantissa : (d.mantissa : ℚ) ≤ 2 ^ 96 - 1 := by
    have : ((d.mantissa + 1 : Nat) : ℚ) ≤ ((2 ^ 96 : Nat) : ℚ) := Nat.cast_le.mpr d.mantissa_lt
    push_cast at this
    linarith
  have hPow : (1 : ℚ) ≤ 10 ^ d.scale := one_le_pow₀ (by norm_num)
  calc |d.toRat| = d.mantissa / 10 ^ d.scale := by
        rw [toRat, abs_div, hAbs, abs_of_nonneg (by positivity)]
    _ ≤ d.mantissa := div_le_self (Nat.cast_nonneg _) hPow
    _ ≤ 2 ^ 96 - 1 := hMantissa

/-- Two decimals have no sum just where the exact sum is half a unit below `2 ^
96`, or beyond. The scales of the summands do not matter. -/
theorem add?_eq_none_iff (a b : Decimal) :
    add? a b = none ↔ 2 ^ 97 - 1 ≤ 2 * |a.toRat + b.toRat| := by
  unfold add?
  split
  · next ha =>
    have hb := abs_toRat_le b
    rw [toRat_of_isZero ha, zero_add]
    simp only [reduceCtorEq, false_iff, not_le]
    linarith
  · split
    · next hb =>
      have ha := abs_toRat_le a
      rw [toRat_of_isZero hb, add_zero]
      simp only [reduceCtorEq, false_iff, not_le]
      linarith
    · -- both sides at the larger of the two scales
      have hPos : (0 : ℚ) < 10 ^ max a.scale b.scale := by positivity
      have hTotal : ((a.signedAt (max a.scale b.scale) +
          b.signedAt (max a.scale b.scale)).natAbs : ℚ) =
            |a.toRat + b.toRat| * 10 ^ max a.scale b.scale := by
        rw [Nat.cast_natAbs, Int.cast_abs, signedAt_add_eq, abs_mul, abs_of_pos hPos]
      rw [fit?_eq_none_iff (max_le a.scale_le b.scale_le), ← Nat.cast_le (α := ℚ)]
      push_cast
      rw [hTotal, ← mul_assoc, mul_le_mul_iff_left₀ hPos]
      norm_num

/-- A sum does not pass a whole number that the exact sum does not pass. So
rounding on the way never leads beyond what was counted in whole units. -/
theorem add?_le {a b c : Decimal} (h : add? a b = some c) {m : Nat}
    (hSum : a.toRat + b.toRat ≤ m) : c.toRat ≤ m := by
  rcases add?_cases h with ⟨ha, rfl⟩ | ⟨hb, rfl⟩ | ⟨k, hFit⟩
  · rwa [toRat_of_isZero ha, zero_add] at hSum
  · rwa [toRat_of_isZero hb, add_zero] at hSum
  · by_cases hNegative :
      a.signedAt (max a.scale b.scale) + b.signedAt (max a.scale b.scale) < 0
    · have hc : c.toRat ≤ 0 := by
        rw [toRat, hFit.signed_eq, if_pos (by simpa using hNegative)]
        push_cast
        rw [neg_div]
        exact neg_nonpos.mpr (by positivity)
      exact hc.trans (Nat.cast_nonneg m)
    · have hExact : (a.signedAt (max a.scale b.scale) +
          b.signedAt (max a.scale b.scale)).natAbs ≤ m * 10 ^ max a.scale b.scale := by
        rw [← Nat.cast_le (α := ℚ), Nat.cast_natAbs, abs_of_nonneg (not_lt.mp hNegative),
          signedAt_add_eq]
        push_cast
        exact mul_le_mul_of_nonneg_right hSum (by positivity)
      -- the digits that are left belong to the scale of the sum
      have hScale : max a.scale b.scale = c.scale + k := by
        rw [hFit.scale_eq, Nat.sub_add_cancel hFit.le_scale]
      rw [hScale, pow_add, ← Nat.mul_assoc] at hExact
      have hMantissa : divHalfEven _ (10 ^ k) ≤ m * 10 ^ c.scale :=
        divHalfEven_le_of_le_mul (Nat.pow_pos (by decide)) hExact
      have hPos : (0 : ℚ) < 10 ^ c.scale := by positivity
      rw [toRat, hFit.signed_eq, if_neg (by simpa using hNegative), div_le_iff₀ hPos]
      rw [hScale]
      exact_mod_cast hMantissa

-- ---------------------------------------------------------------------------
-- Many summands
-- ---------------------------------------------------------------------------

/-- The least number of whole units that is not less than the number, and none
for a negative number. -/
def units (d : Decimal) : Nat := ⌈d.toRat⌉₊

/-- A number is no more than its units, since those are rounded up. -/
theorem toRat_le_units (d : Decimal) : d.toRat ≤ d.units := Nat.le_ceil _

/-- A sum is bounded by its summands in whole units. The induction is on the end
of the list, where one more summand is rounded once more. -/
theorem sum?_le_units {ds : List Decimal} {c : Decimal} (h : sum? ds = some c) :
    c.toRat ≤ (ds.map units).sum := by
  induction ds using List.reverseRecOn generalizing c with
  | nil =>
    obtain rfl := Option.some.inj h
    simp
  | append_singleton ds d ih =>
    rw [sum?_append_singleton, Option.bind_eq_some_iff] at h
    obtain ⟨b, hb, hAdd⟩ := h
    rw [List.map_append, List.sum_append, List.map_singleton, List.sum_singleton]
    refine add?_le hAdd ?_
    rw [Nat.cast_add]
    exact add_le_add (ih hb) (toRat_le_units d)

/-- Numbers that are not negative have a sum if their units fit. The units of a
number are a bound of it that is whole, so they add up without any rounding, and
each sum on the way stays below the largest decimal. -/
theorem sum?_of_units_lt {ds : List Decimal} (hNonneg : ∀ d ∈ ds, 0 ≤ d.toRat)
    (hFits : (ds.map units).sum < 2 ^ 96) : ∃ c, sum? ds = some c ∧ 0 ≤ c.toRat := by
  induction ds using List.reverseRecOn with
  | nil => exact ⟨zero, rfl, by simp⟩
  | append_singleton ds d ih =>
    rw [List.map_append, List.sum_append, List.map_singleton, List.sum_singleton] at hFits
    obtain ⟨b, hb, hbNonneg⟩ :=
      ih (fun d' hd' => hNonneg d' (List.mem_append_left _ hd')) (by omega)
    have hd : 0 ≤ d.toRat := hNonneg d (List.mem_append_right _ (List.mem_singleton_self d))
    -- the new sum is below the units of all that are summed up
    have hExact : b.toRat + d.toRat ≤ 2 ^ 96 - 1 := by
      have hUnits : (((ds.map units).sum + d.units + 1 : Nat) : ℚ) ≤ ((2 ^ 96 : Nat) : ℚ) :=
        Nat.cast_le.mpr hFits
      have hb' := sum?_le_units hb
      have hd' := toRat_le_units d
      push_cast at hUnits hb'
      linarith
    cases hAdd : add? b d with
    | none =>
      rw [add?_eq_none_iff, abs_of_nonneg (add_nonneg hbNonneg hd)] at hAdd
      linarith
    | some c =>
      refine ⟨c, ?_, add?_nonneg hAdd (add_nonneg hbNonneg hd)⟩
      rw [sum?_append_singleton, hb, Option.bind_some, hAdd]

end Decimal

end HomeLedger
