import HomeLedger.Proofs.Decimal.Overflow

/-!
# HomeLedger — sums that lose no digit

Two decimals have an exact sum if its digits fit at the larger of their
scales. For many decimals that has to hold of every sum on the way, and a sum
on the way may be large although the last one is small. So the bound is on
the numbers without their signs (`unitsAt`): no part of the sum is beyond it,
in whatever order the parts are taken.

Main results:

* `add?_exact` — a sum that fits is exact.
* `sum?_exact` — so is one of many decimals that fit together.
-/

namespace HomeLedger

namespace Decimal

-- ---------------------------------------------------------------------------
-- Two summands
-- ---------------------------------------------------------------------------

/-- A number that fits is taken as it is: no digit has to be given up for it. -/
theorem fit?_of_lt (negative : Bool) {n scale : Nat} (hn : n < 2 ^ 96) (hScale : scale ≤ 28) :
    ∃ d, fit? negative n scale = some d ∧ d.scale = scale ∧
      d.signed = if negative then -(n : Int) else n := by
  cases hFit : fit? negative n scale with
  | none =>
    have hPos : 0 < 10 ^ scale := Nat.pow_pos (by decide)
    have hLarge := (fit?_eq_none_iff hScale).mp hFit
    have hOne : (2 ^ 97 - 1) * 1 ≤ (2 ^ 97 - 1) * 10 ^ scale := Nat.mul_le_mul_left _ hPos
    omega
  | some d =>
    obtain ⟨k, hFitted⟩ := fitted_of_fit? hFit
    obtain rfl : k = 0 := by
      by_contra hk
      have hFewest := hFitted.fewest 0 (Nat.pos_of_ne_zero hk)
      rw [Nat.pow_zero, divHalfEven_one] at hFewest
      omega
    refine ⟨d, rfl, hFitted.scale_eq, ?_⟩
    rw [hFitted.signed_eq, Nat.pow_zero, divHalfEven_one]

/-- A sum is exact if it fits at a scale that both summands have room in. A
summand that is zero is passed over, and then the sum is the other one as it
is. -/
theorem add?_exact {a b : Decimal} {s : Nat} (ha : a.scale ≤ s) (hb : b.scale ≤ s)
    (hFits : |a.toRat + b.toRat| * 10 ^ s < 2 ^ 96) :
    ∃ c, add? a b = some c ∧ c.scale ≤ s ∧ c.toRat = a.toRat + b.toRat := by
  unfold add?
  split
  · next hZero => exact ⟨b, rfl, hb, by rw [toRat_of_isZero hZero, zero_add]⟩
  · split
    · next hZero => exact ⟨a, rfl, ha, by rw [toRat_of_isZero hZero, add_zero]⟩
    · set scale := max a.scale b.scale with hScale
      set total := a.signedAt scale + b.signedAt scale with hTotal
      have hle : scale ≤ s := max_le ha hb
      -- the sum at the scale of its summands is exact, and it is no larger than at the common scale
      have hValue : (total : ℚ) = (a.toRat + b.toRat) * 10 ^ scale := signedAt_add_eq a b
      have hSmall : total.natAbs < 2 ^ 96 := by
        have hPos : (0 : ℚ) < 10 ^ scale := by positivity
        have hPow : (10 : ℚ) ^ scale ≤ 10 ^ s := pow_le_pow_right₀ (by norm_num) hle
        have hCast : (total.natAbs : ℚ) < 2 ^ 96 := by
          calc (total.natAbs : ℚ) = |a.toRat + b.toRat| * 10 ^ scale := by
                rw [Nat.cast_natAbs, Int.cast_abs, hValue, abs_mul, abs_of_pos hPos]
            _ ≤ |a.toRat + b.toRat| * 10 ^ s :=
                mul_le_mul_of_nonneg_left hPow (abs_nonneg _)
            _ < 2 ^ 96 := hFits
        exact_mod_cast hCast
      obtain ⟨c, hc, hcScale, hcSigned⟩ :=
        fit?_of_lt (decide (total < 0)) hSmall (max_le a.scale_le b.scale_le)
      have hSigned : c.signed = total := by
        rw [hcSigned]
        by_cases hNeg : total < 0
        · rw [if_pos (by simpa using hNeg)]
          omega
        · rw [if_neg (by simpa using hNeg)]
          omega
      refine ⟨c, hc, hcScale.trans_le hle, ?_⟩
      rw [toRat, hSigned, hcScale, hValue, mul_div_assoc, div_self (by positivity), mul_one]

-- ---------------------------------------------------------------------------
-- Many summands
-- ---------------------------------------------------------------------------

/-- The largest scale of decimals, and zero if there are none. -/
def largestScale (ds : List Decimal) : Nat := (ds.map (·.scale)).foldr max 0

/-- How many units of a decimal place some decimals are together, without
their signs. -/
def unitsAt (s : Nat) (ds : List Decimal) : ℚ := (ds.map fun d => |d.toRat| * 10 ^ s).sum

/-- Whether decimals fit together: without their signs, and in units of the last
place that one of them has, their sum is a mantissa. The bound is on all of them
at once, so it does not matter in which order they are added. -/
def FitTogether (ds : List Decimal) : Prop := unitsAt (largestScale ds) ds < 2 ^ 96

instance (ds : List Decimal) : Decidable (FitTogether ds) :=
  inferInstanceAs (Decidable (unitsAt (largestScale ds) ds < 2 ^ 96))

theorem scale_le_largestScale {ds : List Decimal} {d : Decimal} (h : d ∈ ds) :
    d.scale ≤ largestScale ds := by
  induction ds with
  | nil => simp at h
  | cons d' ds ih =>
    rw [largestScale, List.map_cons, List.foldr_cons]
    rcases List.mem_cons.mp h with rfl | hMem
    · exact le_max_left ..
    · exact (ih hMem).trans (le_max_right ..)

@[simp] theorem unitsAt_nil (s : Nat) : unitsAt s [] = 0 := rfl

@[simp] theorem unitsAt_cons (s : Nat) (d : Decimal) (ds : List Decimal) :
    unitsAt s (d :: ds) = |d.toRat| * 10 ^ s + unitsAt s ds := by
  rw [unitsAt, List.map_cons, List.sum_cons, unitsAt]

@[simp] theorem unitsAt_append (s : Nat) (ds ds' : List Decimal) :
    unitsAt s (ds ++ ds') = unitsAt s ds + unitsAt s ds' := by
  rw [unitsAt, List.map_append, List.sum_append, unitsAt, unitsAt]

/-- Units are counted without signs, so there are never less than none. A part
of the decimals is therefore within the bound of all. -/
theorem unitsAt_nonneg (s : Nat) (ds : List Decimal) : 0 ≤ unitsAt s ds := by
  induction ds with
  | nil => exact le_rfl
  | cons d ds ih =>
    rw [unitsAt_cons]
    positivity

/-- The signs only make a sum smaller. This is why a bound on the units bounds
every sum on the way. -/
theorem abs_sum_mul_le_unitsAt (s : Nat) (ds : List Decimal) :
    |(ds.map toRat).sum| * 10 ^ s ≤ unitsAt s ds := by
  induction ds with
  | nil => simp
  | cons d ds ih =>
    rw [List.map_cons, List.sum_cons, unitsAt_cons]
    calc |d.toRat + (ds.map toRat).sum| * 10 ^ s
        ≤ (|d.toRat| + |(ds.map toRat).sum|) * 10 ^ s :=
          mul_le_mul_of_nonneg_right (abs_add_le _ _) (by positivity)
      _ = |d.toRat| * 10 ^ s + |(ds.map toRat).sum| * 10 ^ s := add_mul ..
      _ ≤ |d.toRat| * 10 ^ s + unitsAt s ds := by gcongr

/-- Decimals that fit together at a scale have an exact sum. The induction is on
the end of the list, as the sum is taken from the left. -/
theorem sum?_exact {ds : List Decimal} {s : Nat} (hScale : ∀ d ∈ ds, d.scale ≤ s)
    (hFits : unitsAt s ds < 2 ^ 96) :
    ∃ c, sum? ds = some c ∧ c.scale ≤ s ∧ c.toRat = (ds.map toRat).sum := by
  induction ds using List.reverseRecOn with
  | nil => exact ⟨zero, rfl, Nat.zero_le _, by simp⟩
  | append_singleton ds d ih =>
    have hAll := abs_sum_mul_le_unitsAt s (ds ++ [d])
    have hLast : 0 ≤ unitsAt s [d] := unitsAt_nonneg s [d]
    rw [unitsAt_append] at hFits hAll
    obtain ⟨b, hb, hbScale, hbValue⟩ :=
      ih (fun d' hd' => hScale d' (List.mem_append_left _ hd')) (by linarith)
    have hValue : ((ds ++ [d]).map toRat).sum = b.toRat + d.toRat := by
      rw [List.map_append, List.sum_append, hbValue, List.map_singleton, List.sum_singleton]
    rw [hValue] at hAll ⊢
    obtain ⟨c, hc, hcScale, hcValue⟩ :=
      add?_exact hbScale (hScale d (List.mem_append_right _ (List.mem_singleton_self d)))
        (hAll.trans_lt hFits)
    exact ⟨c, by rw [sum?_append_singleton, hb, Option.bind_some, hc], hcScale, hcValue⟩

end Decimal

end HomeLedger
