import HomeLedger.Json.Basic
import HomeLedger.Text.Digits

/-!
# HomeLedger — numerals of JSON

A numeral without point and exponent is an integer if it fits 64 bits, with a sign or without; every
other numeral is a binary number. It is read in two steps, each of which rounds: the digits as far
as 64 bits hold them, and then one multiplication or division by a power of ten. So the result is
the nearest binary number as long as the digits and the power are exact, and may be a neighbour of
it beyond. A numeral that is too large is an error.
-/

namespace HomeLedger

open Text

-- ---------------------------------------------------------------------------
-- Numerals
-- ---------------------------------------------------------------------------

/-- The parts of a numeral as they are written. The fraction and the exponent are absent or have at
least one digit. -/
structure Numeral where
  negative : Bool
  whole : List Char
  fraction : Option (List Char)
  exponent : Option (Bool × List Char)
  deriving DecidableEq, Repr

namespace Numeral

/-- At least one digit. -/
def readSome? (cs : List Char) : Option (List Char × List Char) :=
  match spanDigits cs with
  | ([], _) => none
  | (digits, rest) => some (digits, rest)

/-- The digits before the point: a single zero, or digits that do not begin with one. -/
def readWhole? (cs : List Char) : Option (List Char × List Char) :=
  match spanDigits cs with
  | ([], _) => none
  | (['0'], rest) => some (['0'], rest)
  | ('0' :: _, _) => none
  | (digits, rest) => some (digits, rest)

/-- A point with digits behind it, or nothing. -/
def readFraction? : List Char → Option (Option (List Char) × List Char)
  | '.' :: cs => (readSome? cs).map fun (digits, rest) => (some digits, rest)
  | cs => some (none, cs)

/-- An exponent with its sign, or nothing. -/
def readExponent? : List Char → Option (Option (Bool × List Char) × List Char)
  | c :: cs =>
    if c = 'e' ∨ c = 'E' then
      match cs with
      | '-' :: cs => (readSome? cs).map fun (digits, rest) => (some (true, digits), rest)
      | '+' :: cs => (readSome? cs).map fun (digits, rest) => (some (false, digits), rest)
      | cs => (readSome? cs).map fun (digits, rest) => (some (false, digits), rest)
    else some (none, c :: cs)
  | [] => some (none, [])

/-- Reads a numeral at the front of a text. -/
def read? (cs : List Char) : Option (Numeral × List Char) := do
  let (negative, cs) := match cs with
    | '-' :: rest => (true, rest)
    | _ => (false, cs)
  let (whole, cs) ← readWhole? cs
  let (fraction, cs) ← readFraction? cs
  let (exponent, cs) ← readExponent? cs
  return (⟨negative, whole, fraction, exponent⟩, cs)

-- ---------------------------------------------------------------------------
-- Values
-- ---------------------------------------------------------------------------

/-- The digits taken in so far: a number below `2 ^ 64`, the power of ten that it is multiplied by,
and whether a digit has been left out. -/
structure Leading where
  significand : Nat := 0
  exponent : Int := 0
  full : Bool := false

/-- Takes in a digit before the point; a digit that is left out counts as a power of ten. -/
def Leading.takeWhole (s : Leading) (c : Char) : Leading :=
  let next := 10 * s.significand + digitValue c
  if s.full || 2 ^ 64 ≤ next then { s with exponent := s.exponent + 1, full := true }
  else { s with significand := next }

/-- Takes in a digit behind the point. -/
def Leading.takeFraction (s : Leading) (c : Char) : Leading :=
  let next := 10 * s.significand + digitValue c
  if s.full || 2 ^ 64 ≤ next then { s with full := true }
  else { s with significand := next, exponent := s.exponent - 1 }

/-- The product of two finite numbers, without their signs. -/
def product : Binary64 → Binary64 → Binary64
  | .finite _ m e, .finite _ m' e' =>
    let (num, den) := Binary64.ratio (m * m') (e + e')
    Binary64.ofRatio false num den
  | _, _ => .nan

/-- The quotient of two finite numbers, without their signs. -/
def quotient : Binary64 → Binary64 → Binary64
  | .finite _ m e, .finite _ m' e' =>
    let (num, den) := Binary64.ratio m (e - e')
    Binary64.ofRatio false num (den * m')
  | _, _ => .nan

/-- The binary number nearest to a power of ten. -/
def powerOfTen (n : Nat) : Binary64 := Binary64.ofDigits false 1 1 n

/-- A number times `10 ^ exponent`. Powers beyond `10 ^ 308` are out of reach upward; downward they
are taken in steps, and `steps` of them are enough to reach zero. -/
def scaled? (steps : Nat) (x : Binary64) (exponent : Int) : Option Binary64 :=
  if exponent.natAbs ≤ 308 then
    if 0 ≤ exponent then
      let y := product x (powerOfTen exponent.toNat)
      if y.isFinite then some y else none
    else some (quotient x (powerOfTen exponent.natAbs))
  else if x = .zero false then some x
  else if 0 ≤ exponent then none
  else match steps with
    | 0 => some x
    | steps + 1 => scaled? steps (quotient x (powerOfTen 308)) (exponent + 308)

/-- The sign of a numeral on a number without one. -/
def withSign (negative : Bool) : Binary64 → Binary64
  | .finite _ m e => .finite negative m e
  | x => x

/-- The binary number of a numeral, if it is not too large. -/
def toBinary? (n : Numeral) : Option Binary64 := do
  let s := n.whole.foldl Leading.takeWhole {}
  let s := (n.fraction.getD []).foldl Leading.takeFraction { s with full := false }
  let (down, digits) := n.exponent.getD (false, ['0'])
  let power := ofDecimal digits
  let x ←
    if 2 ^ 31 ≤ power then
      if s.significand ≠ 0 && !down then none else some (Binary64.zero false)
    else
      scaled? 3 (Binary64.ofRatio false s.significand 1)
        (if down then s.exponent - power else s.exponent + power)
  return withSign n.negative x

/-- The value of a numeral, if it is not too large. Negative zero is no integer. -/
def toJson? (n : Numeral) : Option Json :=
  let whole := ofDecimal n.whole
  match n.fraction, n.exponent with
  | none, none =>
    if !n.negative && whole < 2 ^ 64 then some (.integer whole)
    else if n.negative && 0 < whole && whole ≤ 2 ^ 63 then some (.integer (-(whole : Int)))
    else n.toBinary?.map .float
  | _, _ => n.toBinary?.map .float

end Numeral

end HomeLedger
