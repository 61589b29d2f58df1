import HomeLedger.Power

/-!
# HomeLedger — digits

Decimal and hexadecimal digits: the value of a digit, the digits of a number, and the number that
a row of digits denotes. Only the ASCII digits count.
-/

namespace HomeLedger.Text

/-- The value of a decimal digit. -/
def digitValue (c : Char) : Nat := c.toNat - '0'.toNat

/-- The decimal digits of a number, without leading zeros; `0` has one digit. -/
def decimal (n : Nat) : List Char := Nat.toDigits 10 n

/-- The number that a row of decimal digits denotes; the empty row denotes `0`. -/
def ofDecimal (cs : List Char) : Nat := Nat.ofDigitChars 10 cs 0

/-- The decimal digits of a number, filled up with leading zeros to `width`. -/
def padded (width n : Nat) : List Char := List.leftpad width '0' (decimal n)

/-- The decimal digits of an integer, after a minus sign if it is negative. -/
def decimalInt (i : Int) : List Char :=
  if i < 0 then '-' :: decimal i.natAbs else decimal i.natAbs

/-- The longest row of decimal digits at the front, and what follows it. -/
def spanDigits (cs : List Char) : List Char × List Char :=
  (cs.takeWhile Char.isDigit, cs.dropWhile Char.isDigit)

/-- The value of a hexadecimal digit of either case. -/
def hexValue? (c : Char) : Option Nat :=
  if c.isDigit then some (c.toNat - '0'.toNat)
  else if 'a' ≤ c ∧ c ≤ 'f' then some (c.toNat - 'a'.toNat + 10)
  else if 'A' ≤ c ∧ c ≤ 'F' then some (c.toNat - 'A'.toNat + 10)
  else none

/-- The lower-case hexadecimal digit of a value below sixteen. -/
def hexDigit (n : Nat) : Char := Nat.digitChar (n % 16)

end HomeLedger.Text
