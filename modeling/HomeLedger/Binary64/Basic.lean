import HomeLedger.HalfEven

/-!
# HomeLedger — binary numbers of double precision

The numbers of IEEE 754's 64-bit binary format, as exact values: a finite number is
`± mantissa * 2 ^ exponent`. All arithmetic on them is done on natural numbers and rounded once, by
`ofRatio`, so that no machine floating-point operation is involved. There is one NaN.
-/

namespace HomeLedger

/-- A binary number of double precision. The finite ones that this library builds are in normal
form: the mantissa is below `2 ^ 53`, the exponent at least `-1074`, and either the mantissa is at
least `2 ^ 52` or the exponent is `-1074`. -/
inductive Binary64 where
  | nan
  | infinite (negative : Bool)
  | finite (negative : Bool) (mantissa : Nat) (exponent : Int)
  deriving DecidableEq, Repr

namespace Binary64

instance : Inhabited Binary64 := ⟨.nan⟩

/-- Whether a number is neither infinite nor NaN. -/
def isFinite : Binary64 → Bool
  | .finite .. => true
  | _ => false

/-- Zero of either sign. -/
def zero (negative : Bool) : Binary64 := .finite negative 0 (-1074)

-- ---------------------------------------------------------------------------
-- Rounding a quotient
-- ---------------------------------------------------------------------------

/-- The exponent at which `num / den` has a mantissa of 53 binary digits, or `-1074` when that is
larger. -/
def exponentOf (num den : Nat) : Int :=
  let e : Int := (num.log2 : Int) - den.log2 - 52
  let short := num * 2 ^ (-e).toNat < 2 ^ 52 * (den * 2 ^ e.toNat)
  max (if short then e - 1 else e) (-1074)

/-- The number nearest to `± num / den`, with a tie going to the even mantissa. A quotient too large
for the format becomes infinite. -/
def ofRatio (negative : Bool) (num den : Nat) : Binary64 :=
  if num = 0 then zero negative
  else
    let e := exponentOf num den
    let m := divHalfEven (num * 2 ^ (-e).toNat) (den * 2 ^ e.toNat)
    let (m, e) := if m = 2 ^ 53 then (2 ^ 52, e + 1) else (m, e)
    if 971 < e then .infinite negative else .finite negative m e

/-- The numerator and denominator of the magnitude `mantissa * 2 ^ exponent`. -/
def ratio (mantissa : Nat) (exponent : Int) : Nat × Nat :=
  (mantissa * 2 ^ exponent.toNat, 2 ^ (-exponent).toNat)

/-- The number nearest to `± digits * 10 ^ exponent`, where `count` is the number of digits. An
exponent that is out of the format's reach is decided without computing the power. -/
def ofDigits (negative : Bool) (digits count : Nat) (exponent : Int) : Binary64 :=
  if digits = 0 then zero negative
  else if 310 < exponent + count then .infinite negative
  else if exponent + count < -330 then zero negative
  else ofRatio negative (digits * 10 ^ exponent.toNat) (10 ^ (-exponent).toNat)

-- ---------------------------------------------------------------------------
-- Bits
-- ---------------------------------------------------------------------------

/-- The 64 bits of the interchange format: sign, biased exponent, fraction. -/
def toBits : Binary64 → UInt64
  | .nan => 0x7FF8000000000000
  | .infinite negative => (if negative then 0x8000000000000000 else 0) + 0x7FF0000000000000
  | .finite negative m e =>
    let sign := if negative then 2 ^ 63 else 0
    if m < 2 ^ 52 then UInt64.ofNat (sign + m)
    else UInt64.ofNat (sign + (e + 1075).toNat * 2 ^ 52 + (m - 2 ^ 52))

end Binary64

end HomeLedger
