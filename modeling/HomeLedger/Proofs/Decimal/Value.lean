import HomeLedger.Decimal.Round
import HomeLedger.Power
import Mathlib.Algebra.Order.Field.Rat
import Mathlib.Tactic.FieldSimp
import Mathlib.Tactic.Linarith
import Mathlib.Tactic.Positivity
import Mathlib.Tactic.Ring

/-!
# HomeLedger — the number that a decimal denotes

A decimal has a scale, and two decimals of different scales may denote the
same number. What is said about money is said about the number,
`Decimal.toRat`: the comparisons of the library are the order of these
numbers, and a sum lies where the exact sum puts it.

A sum is *not* always exact: where its digits do not fit they are rounded
off. So that an amount that is paid in never makes a balance smaller is not
a fact of arithmetic. It holds because the largest mantissa leaves room: a
sum that has to give up the last digit of the balance is so large that
rounding cannot bring it back below the balance (`le_add?`).

Main results:

* `lt_iff` / `le_iff` — comparing decimals compares their numbers.
* `add?_nonneg` — a sum whose exact value is not negative is not negative.
* `le_add?` — adding a positive number to one that is not negative never
  gives less.
-/

namespace HomeLedger

-- ---------------------------------------------------------------------------
-- Division to the nearest
-- ---------------------------------------------------------------------------

/-- The rounded quotient is at most half a unit too small. -/
theorem two_mul_le_divHalfEven {n d : Nat} (hd : 0 < d) :
    2 * n ≤ 2 * (d * divHalfEven n d) + d := by
  have hDiv : d * (n / d) + n % d = n := Nat.div_add_mod n d
  have hMod : n % d < d := Nat.mod_lt n hd
  unfold divHalfEven
  split
  · rw [Nat.mul_add]
    omega
  · omega

/-- The rounded quotient is at most half a unit too large. -/
theorem two_mul_divHalfEven_le {n d : Nat} (hd : 0 < d) :
    2 * (d * divHalfEven n d) ≤ 2 * n + d := by
  have hDiv : d * (n / d) + n % d = n := Nat.div_add_mod n d
  have hMod : n % d < d := Nat.mod_lt n hd
  unfold divHalfEven
  split
  · rw [Nat.mul_add]
    omega
  · omega

/-- Rounding never goes below the whole part of the quotient. -/
theorem div_le_divHalfEven (n d : Nat) : n / d ≤ divHalfEven n d := by
  unfold divHalfEven
  split <;> omega

namespace Decimal

-- ---------------------------------------------------------------------------
-- The number
-- ---------------------------------------------------------------------------

/-- The number that a decimal denotes. -/
def toRat (d : Decimal) : ℚ := d.signed / 10 ^ d.scale

@[simp] theorem toRat_zero : zero.toRat = 0 := by
  simp [toRat]

/-- The decimal with the other sign denotes the number with the other sign. -/
@[simp] theorem toRat_negate (d : Decimal) : d.negate.toRat = -d.toRat := by
  rw [toRat, signed_negate, toRat, show d.negate.scale = d.scale from rfl]
  push_cast
  ring

/-- A decimal without digits denotes zero, whatever its scale and its sign. -/
theorem toRat_of_isZero {d : Decimal} (h : d.isZero = true) : d.toRat = 0 := by
  have hm : d.mantissa = 0 := by simpa [isZero] using h
  simp [toRat, signed, hm]

/-- At a larger scale the mantissa is the number times a power of ten. This is
how decimals of different scales are compared and added. -/
theorem signedAt_eq {d : Decimal} {s : Nat} (h : d.scale ≤ s) :
    (d.signedAt s : ℚ) = d.toRat * 10 ^ s := by
  obtain ⟨k, rfl⟩ := Nat.exists_eq_add_of_le h
  rw [signedAt, toRat, Nat.add_sub_cancel_left]
  push_cast
  rw [pow_add]
  field_simp

/-- Comparing decimals compares the numbers they denote. -/
theorem lt_iff (a b : Decimal) : a.lt b = true ↔ a.toRat < b.toRat := by
  have hPos : (0 : ℚ) < 10 ^ max a.scale b.scale := by positivity
  rw [lt, decide_eq_true_eq, ← Int.cast_lt (R := ℚ), signedAt_eq (le_max_left ..),
    signedAt_eq (le_max_right ..)]
  exact mul_lt_mul_iff_left₀ hPos

theorem le_iff (a b : Decimal) : a.le b = true ↔ a.toRat ≤ b.toRat := by
  rw [le, Bool.not_eq_true', ← Bool.not_eq_true, lt_iff, not_lt]

/-- An amount is positive if its number is. A zero with a sign is neither
positive nor negative. -/
theorem isPositive_iff_toRat (d : Decimal) : d.isPositive = true ↔ 0 < d.toRat := by
  rw [isPositive, lt_iff, toRat_zero]

/-- The sign of the number is that of the mantissa. -/
theorem toRat_nonneg_iff (d : Decimal) : 0 ≤ d.toRat ↔ 0 ≤ d.signed := by
  have hPos : (0 : ℚ) < 10 ^ d.scale := by positivity
  rw [toRat, le_div_iff₀ hPos, zero_mul, Int.cast_nonneg_iff]

-- ---------------------------------------------------------------------------
-- Fitting a number into a decimal
-- ---------------------------------------------------------------------------

/-- What `fit?` gives up: the last `k` digits, rounded, where fewer would not
have been enough. Everything about rounded sums is read off these fields. -/
structure Fitted (negative : Bool) (n scale k : Nat) (d : Decimal) : Prop where
  le_scale : k ≤ scale
  mantissa : d.mantissa = divHalfEven n (10 ^ k)
  scale_eq : d.scale = scale - k
  sign : d.negative = (negative && d.mantissa != 0)
  fewest : ∀ j < k, 2 ^ 96 ≤ divHalfEven n (10 ^ j)

/-- Whatever fits was fitted by giving up some digits, perhaps none. The
candidates are tried in their order, so the first that fits gives up as few as
possible. -/
theorem fitted_of_fit? {negative : Bool} {n scale : Nat} {d : Decimal}
    (h : fit? negative n scale = some d) : ∃ k, Fitted negative n scale k d := by
  unfold fit? at h
  split at h
  · next k hk =>
    obtain ⟨hFits, before, after, hSplit, hBefore⟩ := List.find?_eq_some_iff_append.mp hk
    have hMem : k ∈ List.range (scale + 1) := by simp [hSplit]
    have hlt : k < scale + 1 := List.mem_range.mp hMem
    unfold ofParts? at h
    split at h
    · next hParts =>
      obtain rfl := Option.some.inj h
      refine ⟨k, by omega, rfl, rfl, rfl, ?_⟩
      intro j hj
      -- the candidates in front of `k` are exactly the smaller ones
      have hjBefore : j ∈ before := by
        have hLen : before.length = k := by
          have hGet : (List.range (scale + 1))[before.length]? = some k := by
            rw [hSplit, List.getElem?_append_right (Nat.le_refl _)]
            simp
          rw [List.getElem?_range] at hGet
          · exact Option.some.inj hGet
          · have := congrArg List.length hSplit
            simp at this
            omega
        have hjGet : (List.range (scale + 1))[j]? = some j := by
          rw [List.getElem?_range (by omega)]
        rw [hSplit, List.getElem?_append_left (by omega)] at hjGet
        exact List.mem_of_getElem? hjGet
      have := hBefore j hjBefore
      simpa using this
    · simp at h
  · simp at h

/-- The number of a fitted decimal. -/
theorem Fitted.signed_eq {negative : Bool} {n scale k : Nat} {d : Decimal}
    (h : Fitted negative n scale k d) :
    d.signed = if negative then -(divHalfEven n (10 ^ k) : Int) else divHalfEven n (10 ^ k) := by
  rw [signed, h.sign, h.mantissa]
  cases negative with
  | false => simp
  | true =>
    by_cases hz : divHalfEven n (10 ^ k) = 0
    · simp [hz]
    · simp [hz]

-- ---------------------------------------------------------------------------
-- Sums
-- ---------------------------------------------------------------------------

/-- The exact sum at the larger of the two scales. -/
theorem signedAt_add_eq (a b : Decimal) :
    ((a.signedAt (max a.scale b.scale) + b.signedAt (max a.scale b.scale) : Int) : ℚ) =
      (a.toRat + b.toRat) * 10 ^ max a.scale b.scale := by
  push_cast
  rw [signedAt_eq (le_max_left ..), signedAt_eq (le_max_right ..), add_mul]

/-- A sum is one of its summands, where the other one is zero, or the exact sum
as far as it fits. The first two are cases of their own because they keep the
scale of the summand. -/
theorem add?_cases {a b c : Decimal} (h : add? a b = some c) :
    (a.isZero = true ∧ c = b) ∨ (b.isZero = true ∧ c = a) ∨
    ∃ k, Fitted (a.signedAt (max a.scale b.scale) + b.signedAt (max a.scale b.scale) < 0)
      (a.signedAt (max a.scale b.scale) + b.signedAt (max a.scale b.scale)).natAbs
      (max a.scale b.scale) k c := by
  unfold add? at h
  split at h
  · next ha => exact Or.inl ⟨ha, (Option.some.inj h).symm⟩
  · split at h
    · next hb => exact Or.inr (Or.inl ⟨hb, (Option.some.inj h).symm⟩)
    · exact Or.inr (Or.inr (fitted_of_fit? h))

/-- A sum whose exact value is not negative is not negative: rounding changes no
sign. -/
theorem add?_nonneg {a b c : Decimal} (h : add? a b = some c) (hSum : 0 ≤ a.toRat + b.toRat) :
    0 ≤ c.toRat := by
  rcases add?_cases h with ⟨ha, rfl⟩ | ⟨hb, rfl⟩ | ⟨k, hFit⟩
  · rwa [toRat_of_isZero ha, zero_add] at hSum
  · rwa [toRat_of_isZero hb, add_zero] at hSum
  · have hTotal : 0 ≤ a.signedAt (max a.scale b.scale) + b.signedAt (max a.scale b.scale) := by
      rw [← Int.cast_nonneg_iff (R := ℚ), signedAt_add_eq]
      positivity
    rw [toRat_nonneg_iff, hFit.signed_eq, if_neg (by simpa using hTotal)]
    exact Int.natCast_nonneg _

/-- The bound behind `le_add?`. The balance `m * 10 ^ j` has a mantissa that
fits, and the sum `n` is rounded to a unit `10 ^ k`. If the unit divides the
balance, rounding does not pass it. If not, the sum needed all `96` bits
with one digit more, and `2 ^ 96` ends in a 6: the last digit is rounded up
to a multiple of ten beyond the largest mantissa. -/
theorem mul_pow_le_divHalfEven {m j n k : Nat} (hm : m < 2 ^ 96) (hn : m * 10 ^ j ≤ n)
    (hFewest : ∀ i < k, 2 ^ 96 ≤ divHalfEven n (10 ^ i)) :
    m * 10 ^ j ≤ divHalfEven n (10 ^ k) * 10 ^ k := by
  -- with no more digits given up than the number has zeros, nothing of it is lost
  by_cases hjk : k ≤ j
  · obtain ⟨i, rfl⟩ := Nat.exists_eq_add_of_le hjk
    have hPow : m * 10 ^ (k + i) = m * 10 ^ i * 10 ^ k := by
      rw [Nat.pow_add]
      ring
    have hPos : 0 < 10 ^ k := Nat.pow_pos (by decide)
    have hQuot : m * 10 ^ i ≤ n / 10 ^ k := by
      rw [Nat.le_div_iff_mul_le hPos, ← hPow]
      exact hn
    rw [hPow]
    exact Nat.mul_le_mul_right _ (hQuot.trans (div_le_divHalfEven n _))
  · obtain ⟨i, rfl⟩ : ∃ i, k = i + 1 := ⟨k - 1, by omega⟩
    have hPos : 0 < 10 ^ i := Nat.pow_pos (by decide)
    have hNext : 10 ^ (i + 1) = 10 * 10 ^ i := by rw [Nat.pow_succ, Nat.mul_comm]
    -- one digit more did not fit
    have hLarge : 2 ^ 96 ≤ divHalfEven n (10 ^ i) := hFewest i (by omega)
    have hBelow := two_mul_divHalfEven_le (n := n) hPos
    have hAbove := two_mul_le_divHalfEven (n := n) (d := 10 ^ (i + 1)) (by omega)
    have hBalance : m * 10 ^ j ≤ m * 10 ^ i :=
      Nat.mul_le_mul_left _ (Nat.pow_le_pow_right (by decide) (by omega))
    rw [hNext] at hAbove ⊢
    generalize 10 ^ i = unit at *
    generalize divHalfEven n unit = finer at *
    generalize divHalfEven n (10 * unit) = rounded at *
    -- so the mantissa is nearly full, and one digit less cannot bring it below the number
    have hFiner : unit * 2 ^ 96 ≤ unit * finer := Nat.mul_le_mul_left _ hLarge
    have hBound : 7922816251426433759354395034 ≤ rounded := by
      by_contra hSmall
      have hle : unit * rounded ≤ unit * 7922816251426433759354395033 :=
        Nat.mul_le_mul_left _ (by omega)
      rw [Nat.mul_assoc] at hAbove
      omega
    have hMantissa : m ≤ 10 * rounded := by omega
    calc m * 10 ^ j ≤ m * unit := hBalance
      _ ≤ 10 * rounded * unit := Nat.mul_le_mul_right _ hMantissa
      _ = rounded * (10 * unit) := by ring

/-- Adding a positive number to one that is not negative never gives less,
digits that are rounded off included. That rounding is monotone would not be
enough, since the balance is not one of the numbers that are rounded to. -/
theorem le_add? {a b c : Decimal} (h : add? a b = some c) (ha : 0 ≤ a.toRat) (hb : 0 < b.toRat) :
    a.toRat ≤ c.toRat := by
  rcases add?_cases h with ⟨hz, rfl⟩ | ⟨hz, rfl⟩ | ⟨k, hFit⟩
  · rw [toRat_of_isZero hz]
    exact hb.le
  · exact le_rfl
  · set s := max a.scale b.scale with hs
    have hda : a.scale ≤ s := le_max_left ..
    have haSigned : a.signed = a.mantissa := by
      have := (toRat_nonneg_iff a).mp ha
      unfold signed at this ⊢
      split <;> simp_all
    have hbAt : 0 ≤ b.signedAt s := by
      rw [← Int.cast_nonneg_iff (R := ℚ), signedAt_eq (le_max_right ..)]
      positivity
    have haAt : a.signedAt s = ((a.mantissa * 10 ^ (s - a.scale) : Nat) : Int) := by
      rw [signedAt, haSigned]
      push_cast
      rfl
    have hn : a.mantissa * 10 ^ (s - a.scale) ≤ (a.signedAt s + b.signedAt s).natAbs := by
      omega
    have hle := mul_pow_le_divHalfEven a.mantissa_lt hn hFit.fewest
    -- both sides at the scale of the sum
    have hPos : (0 : ℚ) < 10 ^ s := by positivity
    have hcSigned : c.signed = divHalfEven (a.signedAt s + b.signedAt s).natAbs (10 ^ k) := by
      rw [hFit.signed_eq, if_neg (by simp only [decide_eq_true_eq]; omega)]
    have hcAt : c.toRat * 10 ^ s =
        ((divHalfEven (a.signedAt s + b.signedAt s).natAbs (10 ^ k) * 10 ^ k : Nat) : ℚ) := by
      rw [toRat, hcSigned, hFit.scale_eq]
      obtain ⟨r, hr⟩ := Nat.exists_eq_add_of_le hFit.le_scale
      rw [hr, Nat.add_sub_cancel_left, pow_add]
      push_cast
      field_simp
    rw [← mul_le_mul_iff_left₀ hPos, ← signedAt_eq hda, haAt, hcAt]
    exact_mod_cast hle

/-- One more summand at the end is added to the sum of the others. So a sum can
be taken apart where the last entry was made. -/
theorem sum?_append_singleton (ds : List Decimal) (d : Decimal) :
    sum? (ds ++ [d]) = (sum? ds).bind (add? · d) := by
  rw [sum?, List.foldlM_append]
  cases h : ds.foldlM add? zero <;> simp [sum?, h]

end Decimal

end HomeLedger
