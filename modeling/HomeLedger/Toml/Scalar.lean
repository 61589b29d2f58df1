import HomeLedger.Binary64.Read
import HomeLedger.Calendar.Date
import HomeLedger.Text.Digits
import HomeLedger.Text.Replace
import HomeLedger.Toml.Basic

/-!
# HomeLedger — numbers and times in TOML

A value that begins with no quote and no bracket is a word: a truth value, an integer in one of four
bases, a binary number, or a date, a time or both. Underscores may stand between digits, and a
number does not begin with a superfluous zero.
-/

namespace HomeLedger.Toml

open HomeLedger.Text

-- ---------------------------------------------------------------------------
-- Numbers
-- ---------------------------------------------------------------------------

/-- Digits of a base without the underscores between them. -/
def ungrouped? (base : Nat) (cs : List Char) : Option (List Char) :=
  let isDigit (c : Char) : Bool := match hexValue? c with
    | some d => d < base
    | none => false
  let groups := cs.splitOn '_'
  if groups.all fun g => !g.isEmpty && g.all isDigit then some groups.flatten else none

/-- The number that digits of a base denote, with underscores between them. -/
def number? (base : Nat) (cs : List Char) : Option Int := do
  let digits ← ungrouped? base cs
  return digits.foldl (fun n c => n * base + (hexValue? c).getD 0) 0

/-- Decimal digits that do not begin with a superfluous zero, without the underscores. -/
def whole? (cs : List Char) : Option (List Char) := do
  let digits ← ungrouped? 10 cs
  if digits.head? = some '0' ∧ digits.length ≠ 1 then none else some digits

/-- The sign in front of a number, and what follows it. -/
def splitSign : List Char → Option Char × List Char
  | '+' :: cs => (some '+', cs)
  | '-' :: cs => (some '-', cs)
  | cs => (none, cs)

/-- The integer that a word denotes. -/
def integer? (cs : List Char) : Option Int :=
  match cs with
  | '0' :: 'x' :: cs => number? 16 cs
  | '0' :: 'o' :: cs => number? 8 cs
  | '0' :: 'b' :: cs => number? 2 cs
  | cs => do
    let (sign, cs) := splitSign cs
    let n : Int := ofDecimal (← whole? cs)
    return if sign = some '-' then -n else n

/-- The text of a binary number without the underscores: digits, a point with digits behind it, and
an exponent, of which one of the last two has to be there. -/
def floatText? (cs : List Char) : Option (List Char) := do
  let isMark (c : Char) : Bool := c == 'e' || c == 'E'
  let front := cs.takeWhile (!isMark ·)
  let exponent ← match cs.dropWhile (!isMark ·) with
    | [] => some []
    | _ :: cs =>
      let (sign, cs) := splitSign cs
      (ungrouped? 10 cs).map ('e' :: sign.toList ++ ·)
  match splitOnce '.' front with
  | some (whole, fraction) =>
    return (← whole? whole) ++ '.' :: (← ungrouped? 10 fraction) ++ exponent
  | none => if exponent = [] then none else return (← whole? front) ++ exponent

/-- The binary number that a word denotes, or none where only infinity would be near enough. -/
def float? (cs : List Char) : Option (Option Binary64) :=
  let (sign, rest) := splitSign cs
  if rest = "inf".toList ∨ rest = "nan".toList then some (Binary64.read? (sign.toList ++ rest))
  else do
    let text ← floatText? rest
    let x ← Binary64.read? (sign.toList ++ text)
    return if x.isFinite then some x else none

-- ---------------------------------------------------------------------------
-- Dates and times
-- ---------------------------------------------------------------------------

/-- A number of two digits that is below a limit. -/
def isClockPart (limit : Nat) (cs : List Char) : Bool :=
  cs.length == 2 && cs.all Char.isDigit && ofDecimal cs < limit

/-- Whether a text is a date. -/
def isDateText (cs : List Char) : Bool :=
  match cs.splitOn '-' with
  | [year, month, day] =>
    year.length == 4 && year.all Char.isDigit && isClockPart 100 month && isClockPart 100 day
      && (Date.ofParts? (ofDecimal year) (ofDecimal month) (ofDecimal day)).isSome
  | _ => false

/-- Whether a text is a second, maybe with decimals. -/
def isSecondText (cs : List Char) : Bool :=
  match splitOnce '.' cs with
  | some (whole, fraction) => isClockPart 61 whole && !fraction.isEmpty && fraction.all Char.isDigit
  | none => isClockPart 61 cs

/-- Whether a text is a time of day. -/
def isTimeText (cs : List Char) : Bool :=
  match cs.splitOn ':' with
  | [hour, minute] => isClockPart 24 hour && isClockPart 60 minute
  | [hour, minute, second] => isClockPart 24 hour && isClockPart 60 minute && isSecondText second
  | _ => false

/-- Whether a text is a time of day, maybe with an offset. -/
def isZonedTimeText (cs : List Char) : Bool :=
  let isSign (c : Char) : Bool := c == '+' || c == '-'
  match cs.dropWhile (!isSign ·), cs.getLast? with
  | _ :: offset, _ =>
    isTimeText (cs.takeWhile (!isSign ·)) && offset.length == 5 && isTimeText offset
  | [], some c => isTimeText (if c = 'Z' ∨ c = 'z' then cs.dropLast else cs)
  | [], none => false

/-- Whether a character stands between a date and a time. -/
def isDateEnd (c : Char) : Bool := c == 'T' || c == 't' || c == ' '

/-- Whether a word is a date, a time, or both. -/
def isDateTimeText (cs : List Char) : Bool :=
  match cs.take 10, cs.drop 10 with
  | _, [] => isDateText cs || isTimeText cs
  | date, c :: time => isTimeText cs || (isDateText date && isDateEnd c && isZonedTimeText time)

-- ---------------------------------------------------------------------------
-- Words
-- ---------------------------------------------------------------------------

/-- Whether a number needs at most 128 bits. -/
def fitsInteger (i : Int) : Bool := -2 ^ 127 ≤ i && i < 2 ^ 128

/-- The value that a word denotes. -/
def ofWord? (cs : List Char) : Option Toml :=
  if cs = "true".toList then some (.boolean true)
  else if cs = "false".toList then some (.boolean false)
  else match integer? cs with
    | some i => some (if fitsInteger i then .integer i else .outsized true)
    | none =>
      match float? cs with
      | some (some x) => some (.float x)
      | some none => some (.outsized false)
      | none => if isDateTimeText cs then some (.dateTime (String.ofList cs)) else none

/-- What is wrong with a word that denotes no number, told by the character behind its first digits:
it may have been meant as a date or a time, as a binary number, or as an integer. -/
def numberWords (cs : List Char) : String :=
  match cs with
  | '0' :: 'x' :: _ => "invalid hexadecimal integer number, expected digits"
  | '0' :: 'o' :: _ => "invalid octal integer number, expected digits"
  | '0' :: 'b' :: _ => "invalid binary integer number, expected digits"
  | cs =>
    match (splitSign cs).2.dropWhile fun c => c.isDigit || c == '_' with
    | '-' :: _ | ':' :: _ => "invalid datetime"
    | '.' :: _ | 'e' :: _ | 'E' :: _ => "invalid floating-point number, expected digits"
    | _ => "invalid integer number, expected digits"

/-- What is wrong with a word that denotes nothing, told by its first character. -/
def wordWords (cs : List Char) : String :=
  match cs with
  | 't' :: _ | 'T' :: _ => "invalid boolean, expected `true`"
  | 'f' :: _ | 'F' :: _ => "invalid boolean, expected `false`"
  | 'i' :: _ | 'I' :: _ => "invalid floating-point number, expected `inf`"
  | 'n' :: _ | 'N' :: _ => "invalid floating-point number, expected `nan`"
  | c :: _ =>
    if c.isDigit || "+-_.".toList.contains c then numberWords cs
    else "string values must be quoted, expected literal string"
  | [] => "string values must be quoted, expected literal string"

end HomeLedger.Toml
