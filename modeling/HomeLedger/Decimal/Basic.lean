import HomeLedger.Power

/-!
# HomeLedger — decimal amounts

Money is kept as a decimal number: a sign, a mantissa below `2^96` and a scale of at most 28, which
says how many of the mantissa's digits stand after the point. The scale is part of the value: `2.50`
and `2.5` are different decimals that denote the same number. So there are two relations on
decimals, equality and the order of the numbers they denote (`Decimal.lt`, `Decimal.le`).
-/

namespace HomeLedger

-- ---------------------------------------------------------------------------
-- The type
-- ---------------------------------------------------------------------------

/-- A decimal number `± mantissa / 10 ^ scale`. -/
structure Decimal where
  negative : Bool
  mantissa : Nat
  scale : Nat
  mantissa_lt : mantissa < 2 ^ 96
  scale_le : scale ≤ 28
  deriving DecidableEq, Repr

namespace Decimal

/-- The largest number of digits after the point. -/
def maxScale : Nat := 28

/-- The decimal with the given parts, if they are within bounds. Zero is built without a sign. -/
def ofParts? (negative : Bool) (mantissa scale : Nat) : Option Decimal :=
  if h : mantissa < 2 ^ 96 ∧ scale ≤ 28 then
    some ⟨negative && mantissa != 0, mantissa, scale, h.1, h.2⟩
  else none

theorem ofParts?_isSome_iff {negative : Bool} {mantissa scale : Nat} :
    (ofParts? negative mantissa scale).isSome ↔ mantissa < 2 ^ 96 ∧ scale ≤ 28 := by
  unfold ofParts?
  split
  · next h => exact ⟨fun _ => h, fun _ => rfl⟩
  · next h => exact ⟨fun h' => absurd h' (by decide), fun h' => absurd h' h⟩

/-- The number zero with no digit after the point. -/
def zero : Decimal := ⟨false, 0, 0, by decide, by decide⟩

instance : Inhabited Decimal := ⟨zero⟩

/-- The decimal of a whole number, if its digits fit. -/
def ofInt? (i : Int) : Option Decimal := ofParts? (i < 0) i.natAbs 0

-- ---------------------------------------------------------------------------
-- Sign
-- ---------------------------------------------------------------------------

/-- Whether the decimal denotes zero, whatever its sign and scale. -/
def isZero (d : Decimal) : Bool := d.mantissa == 0

/-- The decimal with the other sign; zero keeps the sign it is given. -/
def negate (d : Decimal) : Decimal := { d with negative := !d.negative }

/-- The mantissa with the sign of the number: the decimal denotes `signed / 10 ^ scale`. -/
def signed (d : Decimal) : Int := if d.negative then -(d.mantissa : Int) else d.mantissa

@[simp] theorem signed_zero : zero.signed = 0 := rfl

@[simp] theorem signed_negate (d : Decimal) : d.negate.signed = -d.signed := by
  cases d with
  | mk negative _ _ _ _ => cases negative <;> simp [negate, signed]

-- ---------------------------------------------------------------------------
-- Order of the numbers
-- ---------------------------------------------------------------------------

/-- The mantissa that the decimal would have at a scale no smaller than its own. -/
def signedAt (d : Decimal) (scale : Nat) : Int := d.signed * 10 ^ (scale - d.scale)

/-- Whether the first number is less than the second: both mantissas are compared at the larger of
the two scales. -/
def lt (a b : Decimal) : Bool :=
  a.signedAt (max a.scale b.scale) < b.signedAt (max a.scale b.scale)

/-- Whether the first number is at most the second. -/
def le (a b : Decimal) : Bool := !b.lt a

/-- Whether the number is greater than zero. -/
def isPositive (d : Decimal) : Bool := zero.lt d

/-- A decimal is positive exactly when it has no sign and its mantissa is not zero. -/
theorem isPositive_iff (d : Decimal) : d.isPositive = true ↔ 0 < d.signed := by
  have hPow : (0 : Int) < 10 ^ (d.scale - d.scale) := by simp
  simp [isPositive, lt, signedAt, zero, signed]

end Decimal

end HomeLedger
