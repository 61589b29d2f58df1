import HomeLedger.Calendar.Date
import HomeLedger.Calendar.Pattern
import HomeLedger.Text.Digits

/-!
# HomeLedger — writing dates by a pattern

A date is written by a pattern whose items are all parts of a date. A pattern that asks for the time
of day, or for the century of a year that has none of two digits, writes nothing at all.
-/

namespace HomeLedger

open Text

-- ---------------------------------------------------------------------------
-- Names
-- ---------------------------------------------------------------------------

/-- The English names of the months. -/
def monthNames : List String :=
  ["January", "February", "March", "April", "May", "June", "July", "August", "September", "October",
    "November", "December"]

/-- The English names of the weekdays, from Monday. -/
def weekdayNames : List String :=
  ["Monday", "Tuesday", "Wednesday", "Thursday", "Friday", "Saturday", "Sunday"]

/-- A name in full, or its first three letters. -/
def named (names : List String) (index : Nat) (long : Bool) : List Char :=
  let name := (names.getD index "").toList
  if long then name else name.take 3

namespace Date

-- ---------------------------------------------------------------------------
-- Numbers
-- ---------------------------------------------------------------------------

/-- A number filled up to `width`. -/
def fill (padding : Padding) (width : Nat) (digits : List Char) : List Char :=
  match padding with
  | .none => digits
  | .zero => List.leftpad width '0' digits
  | .space => List.leftpad width ' ' digits

/-- A year: four digits between 0 and 9999, and a sign in front of at least four digits
elsewhere. -/
def yearText (padding : Padding) (y : Int) : List Char :=
  if 0 ≤ y ∧ y ≤ 9999 then fill padding 4 (decimal y.toNat)
  else
    let sign := if y < 0 then '-' else '+'
    match padding with
    | .space => List.leftpad 5 ' ' (sign :: decimal y.natAbs)
    | _ => sign :: fill padding 4 (decimal y.natAbs)

/-- Two digits of a year: the century of a year that has one, or the place in the century. -/
def twoDigits? (padding : Padding) (n : Int) : Option (List Char) :=
  if 0 ≤ n ∧ n ≤ 99 then some (fill padding 2 (decimal n.toNat)) else none

/-- A number part of a date; parts of a time are not in a date. -/
def numberText? (d : Date) (part : NumberPart) (padding : Padding) : Option (List Char) :=
  match part with
  | .year => some (yearText padding d.year)
  | .century => twoDigits? padding (d.year / 100)
  | .yearOfCentury => twoDigits? padding (d.year % 100)
  | .isoYear => some (yearText padding d.isoYear)
  | .isoYearOfCentury => twoDigits? padding (d.isoYear % 100)
  | .quarter => some (decimal d.quarter)
  | .month => some (fill padding 2 (decimal d.month))
  | .day => some (fill padding 2 (decimal d.day))
  | .weekFromSunday => some (fill padding 2 (decimal (d.weekFrom 6)))
  | .weekFromMonday => some (fill padding 2 (decimal (d.weekFrom 0)))
  | .isoWeek => some (fill padding 2 (decimal d.isoWeek))
  | .dayFromSunday => some (decimal ((d.weekday + 1) % 7))
  | .dayFromMonday => some (decimal (d.weekday + 1))
  | .ordinal => some (fill padding 3 (decimal d.ordinal))
  | .hour | .hour12 | .minute | .second | .nanosecond | .timestamp => none

-- ---------------------------------------------------------------------------
-- Whole dates
-- ---------------------------------------------------------------------------

/-- The text of a date under one item of a pattern. -/
def itemText? (d : Date) : PatternItem → Option (List Char)
  | .literal c => some [c]
  | .blank c => some [c]
  | .number part padding => d.numberText? part padding
  | .monthName long => some (named monthNames (d.month - 1) long)
  | .weekdayName long => some (named weekdayNames d.weekday long)
  | .meridiem | .fraction .. | .zoneName | .zoneOffset _ | .stamp => none

/-- The text of a date under the items of a pattern. -/
def writeItems? (d : Date) : List PatternItem → Option (List Char)
  | [] => some []
  | item :: items => do return (← d.itemText? item) ++ (← d.writeItems? items)

/-- The text of a date under a pattern, if the pattern is valid and asks for nothing but the
date. -/
def write? (d : Date) (pattern : String) : Option (List Char) := do
  d.writeItems? (← Pattern.items? pattern.toList)

/-- The date as year, month and day with hyphens between them. -/
def isoText (d : Date) : String :=
  String.ofList <|
    yearText .zero d.year ++ '-' :: fill .zero 2 (decimal d.month) ++ '-' ::
      fill .zero 2 (decimal d.day)

end Date

end HomeLedger
