import HomeLedger.Power

/-!
# HomeLedger — division to the nearest

The one rounding rule of the library: to the nearest, and from halfway to the even neighbour.
Decimal amounts use it with a power of ten below, binary numbers with a power of two.
-/

namespace HomeLedger

/-- The quotient rounded to the nearest natural number, a tie to the even one. -/
def divHalfEven (n d : Nat) : Nat :=
  if d < 2 * (n % d) ∨ (d = 2 * (n % d) ∧ n / d % 2 = 1) then n / d + 1 else n / d

/-- Rounding does not pass the dividend, so a result fits wherever the dividend did. -/
theorem divHalfEven_le {n d : Nat} (hd : 0 < d) : divHalfEven n d ≤ n := by
  have hq : n / d * d + n % d = n := Nat.div_add_mod' n d
  have hle : n / d ≤ n := Nat.div_le_self n d
  unfold divHalfEven
  split
  · have hr : n % d < d := Nat.mod_lt _ hd
    have : n / d * 1 ≤ n / d * d := Nat.mul_le_mul_left _ hd
    omega
  · exact hle

@[simp] theorem divHalfEven_one (n : Nat) : divHalfEven n 1 = n := by
  simp [divHalfEven, Nat.mod_one]

end HomeLedger
