import HomeLedger.Calendar.Date
import HomeLedger.Text.Blank
import HomeLedger.Text.Digits
import HomeLedger.Text.LowerCase

/-!
# HomeLedger — dates relative to today

The words by which a date is named from the day on which it is said: `today`, `tomorrow`,
`yesterday`, `next week`, `next month`, and a number of days as in `3 days` or `-1 day`. Case does
not matter, nor how many blanks stand between the words.
-/

namespace HomeLedger

open Text

/-- A whole number in 64 bits, with an optional sign. -/
def readInt64? (cs : List Char) : Option Int := do
  let (negative, digits) := match cs with
    | '-' :: rest => (true, rest)
    | '+' :: rest => (false, rest)
    | _ => (false, cs)
  if digits ≠ [] ∧ digits.all Char.isDigit then
    let n : Int := if negative then -(ofDecimal digits : Int) else ofDecimal digits
    if -(2 ^ 63) ≤ n ∧ n < 2 ^ 63 then some n else none
  else none

/-- The date that the words name on the day `today`. -/
def Date.ofWords? (today : Date) : List String → Option Date
  | ["today"] => some today
  | ["tomorrow"] => today.addDays? 1
  | ["yesterday"] => today.addDays? (-1)
  | ["next", "week"] => today.addDays? 7
  | ["next", "month"] => today.nextMonth?
  | [n, "day"] | [n, "days"] => do today.addDays? (← readInt64? n.toList)
  | _ => none

/-- The date that a text names on the day `today`. -/
def Date.ofRelative? (today : Date) (s : String) : Option Date :=
  today.ofWords? ((words (lower s).toList).map String.ofList)

end HomeLedger
