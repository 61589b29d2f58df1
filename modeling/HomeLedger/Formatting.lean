import HomeLedger.Calendar.Pattern.Read
import HomeLedger.Calendar.Relative
import HomeLedger.Decimal.Round
import HomeLedger.Decimal.Text
import HomeLedger.Fault
import HomeLedger.Text.Replace

/-!
# HomeLedger — amounts and dates as the user writes them

`Formatting` holds what the user can choose about the look of amounts and dates. It is used in both
directions: `Formatting.currency` and `Formatting.shortDate` write, `Formatting.amount?` and
`Formatting.date?` read.

* An amount is rounded for display, but never on reading.
* A date is written by the user's pattern only if the pattern reads it back as the same date; a
  pattern that is invalid, or that loses the century, gives way to `2026-01-31`.
-/

namespace HomeLedger

open Text

/-- The user's choices on the look of amounts and dates. -/
structure Formatting where
  currencySymbol : String := "$"
  currencyCode : String := "USD"
  groupingSeparator : String := ","
  /-- The number of digits behind the point of an amount. -/
  fractionDigits : UInt32 := 2
  /-- The pattern of a date. -/
  shortDatePattern : String := "%-m/%-d/%y"
  /-- The pattern of a date with a time; it serves for reading only. -/
  shortDateTimePattern : String := "%-m/%-d/%y, %-I:%M %p"
  deriving DecidableEq, Repr

instance : Inhabited Formatting := ⟨{}⟩

namespace Formatting

-- ---------------------------------------------------------------------------
-- Amounts
-- ---------------------------------------------------------------------------

/-- The number of digits behind the point of an amount, as a natural number. -/
def places (f : Formatting) : Nat := f.fractionDigits.toNat

@[simp] theorem places_default : places {} = 2 := rfl

/-- Puts a separator between groups of three digits, counted from the right. -/
def grouped (separator : List Char) : List Char → List Char
  | [] => []
  | c :: cs =>
    c :: if !cs.isEmpty && cs.length % 3 == 0 then separator ++ grouped separator cs
      else grouped separator cs

/-- The length of the space in which the digits of an amount are put together. -/
def displaySpace : Nat := 32

/-- The number of places from which on no amount is written. -/
def placesLimit : Nat := 2 ^ 16

/-- The scale that a zero has once it is rounded. It is not kept, as that of any other amount that
has no more places than are asked for, but set to their number, for which there are eight bits. -/
def zeroScale (f : Formatting) : Nat := f.places % 2 ^ 8

/-- Whether the digits of a rounded amount fit the space for them. Places beyond the largest scale
of a decimal are zeros that are added later, and these need no space but have a limit. A zero needs
space for each digit of its own scale as well. -/
def fitsDisplay (f : Formatting) (rounded : Decimal) : Bool :=
  let shown := min f.places Decimal.maxScale
  f.places < placesLimit
    && (shown == 0 || rounded.wholeDigits.length + 1 + shown ≤ displaySpace)
    && (!rounded.isZero || f.zeroScale ≤ displaySpace)

/-- An amount rounded to the chosen number of places, with its symbol and in groups of three digits.
The sign stands in front of the symbol, and zero has none. -/
def currency (f : Formatting) (amount : Decimal) : Except Fault String :=
  let rounded := amount.round f.places
  if !f.fitsDisplay rounded then .error .displayOverflow
  else
    let sign := if rounded.negative && !rounded.isZero then "-" else ""
    let whole := String.ofList (grouped f.groupingSeparator.toList rounded.wholeDigits)
    let fraction :=
      if f.places = 0 then ""
      else String.ofList ('.' :: rounded.fractionDigits f.places)
    .ok (sign ++ f.currencySymbol ++ whole ++ fraction)

/-- The amount that a text denotes once dollar signs, commas and the chosen symbol and separator are
removed. All its digits have to fit. -/
def amount? (f : Formatting) (raw : String) : Option Decimal :=
  let plain := (trim raw.toList).filter fun c => c != '$' && c != ','
  let plain := eraseAll f.currencySymbol.toList plain
  let plain := eraseAll f.groupingSeparator.toList plain
  Decimal.readExact (trim plain)

-- ---------------------------------------------------------------------------
-- Dates
-- ---------------------------------------------------------------------------

/-- A date by the chosen pattern if the pattern reads the result back, else as `2026-01-31`. -/
def shortDate (f : Formatting) (d : Date) : String :=
  match d.write? f.shortDatePattern with
  | some out =>
    if Date.read? f.shortDatePattern out = some d then String.ofList out else d.isoText
  | none => d.isoText

/-- The date that a text denotes on the day `today`. The first reading that succeeds counts: by the
chosen pattern, by the chosen pattern with a time, as `2026-01-31`, and from today. -/
def date? (f : Formatting) (raw : String) (today : Date) : Option Date :=
  let val := trim raw.toList
  Date.read? f.shortDatePattern val
    <|> Date.readWithTime? f.shortDateTimePattern val
    <|> Date.read? "%Y-%m-%d" val
    <|> today.ofRelative? (String.ofList val)

end Formatting

end HomeLedger
