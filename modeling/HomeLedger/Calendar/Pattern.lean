import HomeLedger.Text.Blank

/-!
# HomeLedger — date patterns

Dates are shown and read by a pattern that the user configures, such as `%-m/%-d/%y`. A pattern is
text with specifiers: a percent sign and a letter stand for a part of a date or a time, a flag
between the two changes the padding, and some letters abbreviate a whole pattern. `Pattern.items`
spells a pattern out; a specifier that does not exist makes the whole pattern invalid.
-/

namespace HomeLedger

/-- How a number shorter than its width is filled up. -/
inductive Padding where
  | none
  | zero
  | space
  deriving DecidableEq, Repr

/-- The parts of a date or time that are numbers. -/
inductive NumberPart where
  | year
  | century
  | yearOfCentury
  | isoYear
  | isoYearOfCentury
  | quarter
  | month
  | day
  | weekFromSunday
  | weekFromMonday
  | isoWeek
  | dayFromSunday
  | dayFromMonday
  | ordinal
  | hour
  | hour12
  | minute
  | second
  | nanosecond
  | timestamp
  deriving DecidableEq, Repr

/-- One element of a pattern. -/
inductive PatternItem where
  /-- A character that stands for itself. -/
  | literal (c : Char)
  /-- A blank: written as it is, read as any number of blanks. -/
  | blank (c : Char)
  | number (part : NumberPart) (padding : Padding)
  | monthName (long : Bool)
  | weekdayName (long : Bool)
  /-- Before or after noon, in two letters. -/
  | meridiem
  /-- The fraction of a second, behind a point or not, with any or a fixed number of digits. -/
  | fraction (point : Bool) (digits : Option Nat)
  | zoneName
  /-- The offset from UTC; a lenient one may be `Z` or lack its minutes. -/
  | zoneOffset (lenient : Bool)
  /-- A whole time stamp, as in `2026-01-31T12:00:00Z`. -/
  | stamp
  deriving DecidableEq, Repr

namespace Pattern

open NumberPart PatternItem

/-- A number filled up with zeros. -/
def zeroed (part : NumberPart) : PatternItem := .number part .zero

/-- A number filled up with blanks. -/
def spaced (part : NumberPart) : PatternItem := .number part .space

/-- A number as it is. -/
def bare (part : NumberPart) : PatternItem := .number part .none

/-- Items with a literal between them. -/
def joined (c : Char) (items : List PatternItem) : List PatternItem :=
  items.intersperse (.literal c)

/-- A time of the day with seconds. -/
def clock : List PatternItem := joined ':' [zeroed hour, zeroed minute, zeroed second]

/-- A date as month, day and year of the century. -/
def slashed : List PatternItem := joined '/' [zeroed month, zeroed day, zeroed yearOfCentury]

/-- A date as year, month and day. -/
def iso : List PatternItem := joined '-' [zeroed year, zeroed month, zeroed day]

/-- What a letter behind the percent sign stands for, if it is a specifier. -/
def specifier? : Char → Option (List PatternItem)
  | 'A' => some [weekdayName true]
  | 'B' => some [monthName true]
  | 'C' => some [zeroed century]
  | 'D' | 'x' => some slashed
  | 'F' => some iso
  | 'G' => some [zeroed isoYear]
  | 'H' => some [zeroed hour]
  | 'I' => some [zeroed hour12]
  | 'M' => some [zeroed minute]
  | 'P' | 'p' => some [meridiem]
  | 'R' => some (joined ':' [zeroed hour, zeroed minute])
  | 'S' => some [zeroed second]
  | 'T' | 'X' => some clock
  | 'U' => some [zeroed weekFromSunday]
  | 'V' => some [zeroed isoWeek]
  | 'W' => some [zeroed weekFromMonday]
  | 'Y' => some [zeroed year]
  | 'Z' => some [zoneName]
  | 'a' => some [weekdayName false]
  | 'b' | 'h' => some [monthName false]
  | 'c' => some ([weekdayName false, blank ' ', monthName false, blank ' ', spaced day, blank ' ']
      ++ clock ++ [blank ' ', zeroed year])
  | 'd' => some [zeroed day]
  | 'e' => some [spaced day]
  | 'f' => some [zeroed nanosecond]
  | 'g' => some [zeroed isoYearOfCentury]
  | 'j' => some [zeroed ordinal]
  | 'k' => some [spaced hour]
  | 'l' => some [spaced hour12]
  | 'm' => some [zeroed month]
  | 'n' => some [blank '\n']
  | 'q' => some [bare quarter]
  | 'r' => some (joined ':' [zeroed hour12, zeroed minute, zeroed second] ++ [blank ' ', meridiem])
  | 's' => some [bare timestamp]
  | 't' => some [blank '\t']
  | 'u' => some [bare dayFromMonday]
  | 'v' => some (joined '-' [spaced day, monthName false, zeroed year])
  | 'w' => some [bare dayFromSunday]
  | 'y' => some [zeroed yearOfCentury]
  | 'z' => some [zoneOffset false]
  | '+' => some [stamp]
  | '%' => some [literal '%']
  | _ => none

/-- A specifier with another padding; only those that stand for a single number take one. -/
def repad? (padding : Padding) (c : Char) : Option (List PatternItem) :=
  match specifier? c with
  | some [.number part _] => some [.number part padding]
  | _ => none

/-- The number of digits that a fraction of fixed length may have. -/
def fractionLength? : Char → Option Nat
  | '3' => some 3
  | '6' => some 6
  | '9' => some 9
  | _ => none

/-- Spells a pattern out, or fails if some specifier does not exist. -/
def items? : List Char → Option (List PatternItem)
  | [] => some []
  | '%' :: '-' :: c :: cs => do return (← repad? .none c) ++ (← items? cs)
  | '%' :: '0' :: c :: cs => do return (← repad? .zero c) ++ (← items? cs)
  | '%' :: '_' :: c :: cs => do return (← repad? .space c) ++ (← items? cs)
  | '%' :: '#' :: 'z' :: cs => do return zoneOffset true :: (← items? cs)
  | '%' :: ':' :: ':' :: ':' :: 'z' :: cs => do return zoneOffset false :: (← items? cs)
  | '%' :: ':' :: ':' :: 'z' :: cs => do return zoneOffset false :: (← items? cs)
  | '%' :: ':' :: 'z' :: cs => do return zoneOffset false :: (← items? cs)
  | '%' :: '.' :: 'f' :: cs => do return fraction true none :: (← items? cs)
  | '%' :: '.' :: n :: 'f' :: cs => do
    return fraction true (some (← fractionLength? n)) :: (← items? cs)
  | '%' :: n :: 'f' :: cs =>
    match fractionLength? n with
    | some n => do return fraction false (some n) :: (← items? cs)
    | none => do return (← specifier? n) ++ (← items? ('f' :: cs))
  | '%' :: c :: cs => do return (← specifier? c) ++ (← items? cs)
  | '%' :: [] => none
  | c :: cs => do return (if Text.isBlank c then blank c else literal c) :: (← items? cs)

end Pattern

end HomeLedger
