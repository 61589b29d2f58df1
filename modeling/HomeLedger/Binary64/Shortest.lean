import HomeLedger.Binary64.Basic
import HomeLedger.Text.Digits

/-!
# HomeLedger — the fewest digits that read back

A binary number is written with as few decimal digits as are needed to read it back: of the decimals
with the fewest digits that lie between the midpoints to its two neighbours, the nearest one is
taken. The midpoints themselves count when the number's mantissa is even, because a tie is read as
the even mantissa. Of two decimals that are equally near, the format that is written decides.

* `shortest` finds the digits; on each grid of decimals only the two neighbours of the number have
  to be tried.
* `Binary64.plainText` writes them without an exponent, however many zeros that takes.
-/

namespace HomeLedger.Binary64

open Text

-- ---------------------------------------------------------------------------
-- Digits
-- ---------------------------------------------------------------------------

/-- Which of two decimals equally near to the number is taken. -/
inductive Tie where
  | up
  | toEven
  deriving DecidableEq, Repr

/-- A decimal `digits * 10 ^ exponent`. -/
structure Digits where
  digits : Nat
  exponent : Int
  deriving DecidableEq, Repr

/-- The power of ten just above `num / den`: the least `k` with `num / den < 10 ^ k`, provided
`10 ^ -400 ≤ num / den`. -/
def magnitude (num den : Nat) : Int :=
  if den ≤ num then (decimal (num / den)).length
  else match (List.range 400).find? fun j => den ≤ num * 10 ^ (j + 1) with
    | some j => -(j : Int)
    | none => -400

/-- A decimal without the zeros at the end of its digits. -/
def dropZeros (d : Digits) : Digits :=
  let tail := ((decimal d.digits).reverse.takeWhile (· == '0')).length
  ⟨d.digits / 10 ^ tail, d.exponent + tail⟩

/-- The decimal with `count` digits that reads back as `m * 2 ^ e`, if there is one, and the nearer
of two. In units of a quarter of the last binary place, the number is `4 * m` and its midpoints are
two units above and two below, or one below where the binary places become finer. -/
def withDigits? (tie : Tie) (m : Nat) (e : Int) (count : Nat) : Option Digits :=
  let (num, den) := ratio (4 * m) (e - 2)
  let below : Nat := if m = 2 ^ 52 ∧ -1074 < e then 1 else 2
  let unit : Nat := 2 ^ (e - 2).toNat
  let grid := magnitude num den - count
  -- every quantity over the common denominator `den * 10 ^ (-grid)`
  let up : Nat := 10 ^ (-grid).toNat
  let value : Nat := num * up
  let step : Nat := den * 10 ^ grid.toNat
  let low : Nat := value - below * unit * up
  let high : Nat := value + 2 * unit * up
  let floor : Nat := value / step
  let inside := fun (p : Nat) => if m % 2 = 0 then low ≤ p && p ≤ high else low < p && p < high
  let downFits := inside (floor * step)
  let upFits := inside ((floor + 1) * step)
  let takeUp : Bool := match compare (2 * (value - floor * step)) step with
    | .lt => false
    | .gt => true
    | .eq => tie == .up || floor % 2 == 1
  match downFits, upFits with
  | true, true => some ⟨bif takeUp then floor + 1 else floor, grid⟩
  | true, false => some ⟨floor, grid⟩
  | false, true => some ⟨floor + 1, grid⟩
  | false, false => none

/-- The fewest digits that read back as `m * 2 ^ e`; seventeen are always enough. -/
def shortest (tie : Tie) (m : Nat) (e : Int) : Digits :=
  match (List.range 17).findSome? fun n => withDigits? tie m e (n + 1) with
  | some d => dropZeros d
  | none => ⟨0, 0⟩

-- ---------------------------------------------------------------------------
-- Plain text
-- ---------------------------------------------------------------------------

/-- The decimal `digits * 10 ^ exponent` without an exponent; a whole number has no point. -/
def positional (digits : List Char) (exponent : Int) : List Char :=
  let point : Int := digits.length + exponent
  if 0 ≤ exponent then digits ++ List.replicate exponent.toNat '0'
  else if 0 < point then digits.take point.toNat ++ '.' :: digits.drop point.toNat
  else ['0', '.'] ++ List.replicate (-point).toNat '0' ++ digits

/-- The sign of a negative number. -/
def signText (negative : Bool) : List Char := if negative then ['-'] else []

/-- The number in plain notation: the fewest digits that read back, ties upward, never an
exponent. -/
def plainText : Binary64 → String
  | .nan => "NaN"
  | .infinite negative => String.ofList (signText negative ++ ['i', 'n', 'f'])
  | .finite negative m e =>
    if m = 0 then String.ofList (signText negative ++ ['0'])
    else
      let d := shortest .up m e
      String.ofList (signText negative ++ positional (decimal d.digits) d.exponent)

end HomeLedger.Binary64
