import HomeLedger.Decimal.Basic
import HomeLedger.HalfEven

/-!
# HomeLedger — rounding and adding decimals

A number that has more digits than fit is rounded to the nearest one that does, and a number halfway
between two goes to the one with an even last digit (`divHalfEven`). The same rule serves the
display of an amount (`Decimal.round`) and a sum whose digits do not fit (`Decimal.add?`).

A sum is exact at the larger scale of its two summands. Only where that needs `2^96` or more as a
mantissa are digits given up, as few as possible; when even the whole part does not fit there is no
sum.
-/

namespace HomeLedger

namespace Decimal

-- ---------------------------------------------------------------------------
-- Rounding to a number of places
-- ---------------------------------------------------------------------------

/-- The decimal rounded to `places` digits after the point; one that has no more than these stays as
it is. -/
def round (d : Decimal) (places : Nat) : Decimal :=
  if h : places < d.scale then
    let m := divHalfEven d.mantissa (10 ^ (d.scale - places))
    ⟨d.negative && m != 0, m, places,
      Nat.lt_of_le_of_lt (divHalfEven_le (Nat.pow_pos (by decide))) d.mantissa_lt,
      Nat.le_trans (Nat.le_of_lt h) d.scale_le⟩
  else d

theorem round_of_scale_le {d : Decimal} {places : Nat} (h : d.scale ≤ places) :
    d.round places = d := by
  simp [round, Nat.not_lt.2 h]

-- ---------------------------------------------------------------------------
-- Sums
-- ---------------------------------------------------------------------------

/-- The decimal nearest to `± n / 10 ^ scale` that gives up the fewest digits, or none when the
whole part alone needs too many. -/
def fit? (negative : Bool) (n scale : Nat) : Option Decimal :=
  match (List.range (scale + 1)).find? fun k => divHalfEven n (10 ^ k) < 2 ^ 96 with
  | some k => ofParts? negative (divHalfEven n (10 ^ k)) (scale - k)
  | none => none

/-- The sum of two decimals, if it fits. A summand that is zero leaves the other one as it is, its
sign and scale included. Two numbers that cancel leave a zero without sign. -/
def add? (a b : Decimal) : Option Decimal :=
  if a.isZero then some b
  else if b.isZero then some a
  else
    let scale := max a.scale b.scale
    let total := a.signedAt scale + b.signedAt scale
    fit? (total < 0) total.natAbs scale

/-- The sum of a list, taken from the left and started from zero. -/
def sum? (ds : List Decimal) : Option Decimal := ds.foldlM add? zero

end Decimal

end HomeLedger
