import HomeLedger.Binary64.Basic
import HomeLedger.Decimal.Basic

/-!
# HomeLedger — decimals of binary numbers

The decimal that a binary number stands for, with as many of its digits as a mantissa of 96 bits can
follow: `0.1` becomes `0.1000000000000000055511151231`. A whole number is taken as it is. For any
other the power of two is turned into a power of ten one factor at a time, since
`2 ^ -1 = 5 * 10 ^ -1`; digits are lost where the mantissa would outgrow its bits, and in the end
beyond the twenty-eighth place. Zeros at the end of the places stay.
-/

namespace HomeLedger.Decimal

/-- A mantissa and how many of its digits stand after the point. -/
structure Placed where
  mantissa : Nat
  places : Nat

/-- Takes `steps` factors `2 ^ -1` in. An even mantissa is halved; an odd one is multiplied by five
and the point moved, or halved with the loss of its last bit when there is no room. -/
def takeHalves : Nat → Placed → Placed
  | 0, s => s
  | steps + 1, ⟨m, k⟩ =>
    takeHalves steps <|
      if m % 2 = 0 then ⟨m / 2, k⟩
      else if 5 * m < 2 ^ 96 then ⟨5 * m, k + 1⟩
      else ⟨m / 2, k⟩

/-- Gives up `steps` places, each by dividing by ten and rounding up from five. A mantissa that
vanishes leaves zero without places. -/
def dropPlaces : Nat → Placed → Placed
  | 0, s => s
  | steps + 1, ⟨m, k⟩ =>
    if m / 10 = 0 then ⟨0, 0⟩
    else dropPlaces steps ⟨if 5 ≤ m % 10 then m / 10 + 1 else m / 10, k - 1⟩

/-- The decimal of a binary number, if it is finite and its whole part fits. Zero keeps its sign. -/
def ofBinary? : Binary64 → Option Decimal
  | .finite negative m e => do
    let s : Placed := if e < 0 then takeHalves e.natAbs ⟨m, 0⟩ else ⟨m * 2 ^ e.toNat, 0⟩
    let s := dropPlaces (s.places - maxScale) s
    let d ← ofParts? false s.mantissa s.places
    return { d with negative }
  | _ => none

end HomeLedger.Decimal
