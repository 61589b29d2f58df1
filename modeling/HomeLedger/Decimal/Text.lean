import HomeLedger.Decimal.Basic
import HomeLedger.Text.Digits

/-!
# HomeLedger — decimals as text

A decimal is written with all its digits, so that scale and sign can be read off: `-12.50`. Reading
takes a sign, digits, at most one point among them, and underscores once a digit has been seen.

What becomes of digits that do not fit is the reader's choice (`Excess`). An amount that a person
types is refused rather than changed (`readExact`). Elsewhere the next digit decides about rounding
up and the digits after it are cut off (`readRounding`), and a text that is still no decimal may be
in scientific notation (`read`).
-/

namespace HomeLedger.Decimal

open Text

-- ---------------------------------------------------------------------------
-- Writing
-- ---------------------------------------------------------------------------

/-- The digits before the point. -/
def wholeDigits (d : Decimal) : List Char := decimal (d.mantissa / 10 ^ d.scale)

/-- The digits after the point, filled up with zeros at the end to `places`. -/
def fractionDigits (d : Decimal) (places : Nat) : List Char :=
  (if d.scale = 0 then [] else padded d.scale (d.mantissa % 10 ^ d.scale))
    ++ List.replicate (places - d.scale) '0'

/-- The number without its sign, with `places` digits after the point; there are never fewer than
the scale asks for. -/
def unsignedText (d : Decimal) (places : Nat) : List Char :=
  if max d.scale places = 0 then d.wholeDigits
  else d.wholeDigits ++ '.' :: d.fractionDigits places

/-- The decimal in full: sign, digits, and as many places as its scale says. -/
def text (d : Decimal) : String :=
  String.ofList ((if d.negative then ['-'] else []) ++ d.unsignedText d.scale)

instance : ToString Decimal := ⟨text⟩

-- ---------------------------------------------------------------------------
-- Reading digits
-- ---------------------------------------------------------------------------

/-- What a reader does with digits after the point that do not fit: it refuses the text, or it
looks at the next one to round. -/
inductive Excess where
  | refuse
  | round
  deriving DecidableEq, Repr

/-- Rounds `mantissa / 10 ^ scale` by the text that no longer fits. Nothing but digits and
separators may stand in it, and its first digit decides: from five on it rounds up, and one place is
given up when that makes the mantissa too large. -/
def roundAt (negative : Bool) (mantissa scale : Nat) (rest : List Char) : Option Decimal :=
  if rest.all (fun c => c.isDigit || c == '_') then
    if (rest.find? Char.isDigit).any (5 ≤ digitValue ·) then
      if mantissa + 1 < 2 ^ 96 then ofParts? negative (mantissa + 1) scale
      else if scale = 0 then none
      else ofParts? negative ((mantissa + 5) / 10) (scale - 1)
    else ofParts? negative mantissa scale
  else none

/-- The choice that `Excess` offers, at the text that no longer fits. -/
def exceed (excess : Excess) (negative : Bool) (mantissa scale : Nat) (rest : List Char) :
    Option Decimal :=
  match excess with
  | .refuse => none
  | .round => roundAt negative mantissa scale rest

/-- Reads on behind the sign. So far the digits denote `mantissa / 10 ^ scale`; `point` and `seen`
say whether a point and whether a digit has been met. -/
def readDigits (excess : Excess) (negative : Bool) :
    (point seen : Bool) → (mantissa scale : Nat) → List Char → Option Decimal
  | _, seen, mantissa, scale, [] => if seen then ofParts? negative mantissa scale else none
  | point, seen, mantissa, scale, c :: cs =>
    if scale = maxScale then exceed excess negative mantissa scale (c :: cs)
    else if c.isDigit then
      let next := 10 * mantissa + digitValue c
      if next < 2 ^ 96 then
        readDigits excess negative point true next (if point then scale + 1 else 0) cs
      else if point then exceed excess negative mantissa scale (c :: cs)
      else none
    else if c = '.' && !point then readDigits excess negative true seen mantissa scale cs
    else if c = '_' && seen then readDigits excess negative point seen mantissa scale cs
    else none

/-- Reads a decimal, with an optional sign in front. -/
def readWith (excess : Excess) (cs : List Char) : Option Decimal :=
  match cs with
  | '-' :: rest => readDigits excess true false false 0 0 rest
  | '+' :: rest => readDigits excess false false false 0 0 rest
  | _ => readDigits excess false false false 0 0 cs

/-- Reads a decimal whose digits must all fit. -/
def readExact (cs : List Char) : Option Decimal := readWith .refuse cs

/-- Reads a decimal and rounds what does not fit. -/
def readRounding (cs : List Char) : Option Decimal := readWith .round cs

-- ---------------------------------------------------------------------------
-- Scientific notation
-- ---------------------------------------------------------------------------

/-- A natural number of at most 32 bits, with an optional plus sign. -/
def readExponent? (cs : List Char) : Option Nat :=
  let digits := match cs with
    | '+' :: rest => rest
    | _ => cs
  if digits ≠ [] ∧ digits.all Char.isDigit ∧ ofDecimal digits < 2 ^ 32 then some (ofDecimal digits)
  else none

/-- The decimal times `10 ^ exponent`. The exponent is taken from the scale; what exceeds it is
multiplied out, and is at most 28. -/
def raise? (d : Decimal) (exponent : Nat) : Option Decimal :=
  if exponent ≤ d.scale then
    some { d with scale := d.scale - exponent, scale_le := Nat.le_trans (Nat.sub_le ..) d.scale_le }
  else if exponent ≤ maxScale then
    ofParts? d.negative (d.mantissa * 10 ^ (exponent - d.scale)) 0
  else none

/-- The mantissa without its last `places` digits, of which the first decides about rounding up. -/
def dropDigits (mantissa places : Nat) : Nat := (mantissa / 10 ^ (places - 1) + 5) / 10

theorem dropDigits_le (mantissa places : Nat) :
    dropDigits mantissa places ≤ (mantissa + 5) / 10 := by
  have h := Nat.div_le_self mantissa (10 ^ (places - 1))
  unfold dropDigits
  omega

/-- The decimal divided by `10 ^ exponent`, for an exponent of at most 28. Places beyond the
twenty-eighth are rounded away. -/
def lower? (d : Decimal) (exponent : Nat) : Option Decimal :=
  if h : d.scale + exponent ≤ 28 then some { d with scale := d.scale + exponent, scale_le := h }
  else if exponent ≤ 28 then
    some ⟨d.negative, dropDigits d.mantissa (d.scale + exponent - 28), 28, by
      have := dropDigits_le d.mantissa (d.scale + exponent - 28)
      have := d.mantissa_lt
      omega, by decide⟩
  else none

/-- Reads a decimal with a power of ten behind an `e` or `E`. -/
def readScientific (cs : List Char) : Option Decimal := do
  let isMark := fun c => c == 'e' || c == 'E'
  let base ← readRounding (cs.takeWhile (!isMark ·))
  match cs.dropWhile (!isMark ·) with
  | [] => none
  | _ :: '-' :: exponent => base.lower? (← readExponent? exponent)
  | _ :: exponent => base.raise? (← readExponent? exponent)

/-- Reads a decimal in plain notation or, failing that, in scientific notation. -/
def read (cs : List Char) : Option Decimal := readRounding cs <|> readScientific cs

end HomeLedger.Decimal
