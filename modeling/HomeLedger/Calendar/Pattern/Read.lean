import HomeLedger.Calendar.Fields
import HomeLedger.Calendar.Pattern.Write

/-!
# HomeLedger — reading dates by a pattern

A text is read by the items of a pattern from left to right, and all of it has to be used. A blank
in the pattern stands for any number of blanks in the text, none included. A number may have blanks
in front of it and takes as many digits as its width allows; a year with a sign takes all that
follow. Names are read in any case. The parts that come together are settled by `Fields`.
-/

namespace HomeLedger

open Text

namespace Pattern

-- ---------------------------------------------------------------------------
-- Numbers
-- ---------------------------------------------------------------------------

/-- A number at the front: at least one digit, at most `width` of them where a width is given, and
below `2 ^ 63`. -/
def readNumber? (width : Option Nat) (cs : List Char) : Option (Nat × List Char) :=
  let digits := match width with
    | some w => (cs.take w).takeWhile Char.isDigit
    | none => cs.takeWhile Char.isDigit
  if digits.isEmpty then none
  else if ofDecimal digits < 2 ^ 63 then some (ofDecimal digits, cs.drop digits.length)
  else none

/-- A year at the front: up to four digits, or any number of them behind a sign. -/
def readYear? (cs : List Char) : Option (Int × List Char) :=
  match cs with
  | '-' :: rest => (readNumber? none rest).map fun (n, rest) => (-(n : Int), rest)
  | '+' :: rest => (readNumber? none rest).map fun (n, rest) => ((n : Int), rest)
  | _ => (readNumber? (some 4) cs).map fun (n, rest) => ((n : Int), rest)

/-- A number that has to lie between two bounds. -/
def between (low high : Nat) (n : Int) : Option Nat :=
  if low ≤ n ∧ n ≤ high then some n.toNat else none

/-- A year or a century that is not too large. -/
def yearInRange (y : Int) : Option Int :=
  if -(2 ^ 31) ≤ y ∧ y < 2 ^ 31 then some y else none

/-- Notes a number that has been read as the part it stands for. -/
def noteNumber? (f : Fields) (part : NumberPart) (n : Int) : Option Fields := do
  match part with
  | .year => return { f with year := ← Fields.agree f.year (← yearInRange n) }
  | .century => return { f with century := ← Fields.agree f.century (← yearInRange n) }
  | .yearOfCentury =>
    return { f with yearOfCentury := ← Fields.agree f.yearOfCentury (← between 0 99 n : Nat) }
  | .isoYear => return { f with isoYear := ← Fields.agree f.isoYear (← yearInRange n) }
  | .isoYearOfCentury =>
    return { f with isoYearOfCentury := ← Fields.agree f.isoYearOfCentury (← between 0 99 n : Nat) }
  | .quarter => return { f with quarter := ← Fields.agree f.quarter (← between 1 4 n) }
  | .month => return { f with month := ← Fields.agree f.month (← between 1 12 n) }
  | .day => return { f with day := ← Fields.agree f.day (← between 1 31 n) }
  | .weekFromSunday =>
    return { f with weekFromSunday := ← Fields.agree f.weekFromSunday (← between 0 53 n) }
  | .weekFromMonday =>
    return { f with weekFromMonday := ← Fields.agree f.weekFromMonday (← between 0 53 n) }
  | .isoWeek => return { f with isoWeek := ← Fields.agree f.isoWeek (← between 1 53 n) }
  | .dayFromSunday =>
    return { f with weekday := ← Fields.agree f.weekday (((← between 0 6 n) + 6) % 7) }
  | .dayFromMonday => return { f with weekday := ← Fields.agree f.weekday ((← between 1 7 n) - 1) }
  | .ordinal => return { f with ordinal := ← Fields.agree f.ordinal (← between 1 366 n) }
  | .hour =>
    let hour ← between 0 23 n
    return { f with
      halfDay := ← Fields.agree f.halfDay (hour / 12)
      hourOfHalf := ← Fields.agree f.hourOfHalf (hour % 12) }
  | .hour12 =>
    return { f with hourOfHalf := ← Fields.agree f.hourOfHalf ((← between 1 12 n) % 12) }
  | .minute => return { f with minute := ← Fields.agree f.minute (← between 0 59 n) }
  | .second => return { f with second := ← Fields.agree f.second (← between 0 60 n) }
  | .nanosecond =>
    return { f with nanosecond := ← Fields.agree f.nanosecond (← between 0 999999999 n) }
  | .timestamp => return { f with timestamp := ← Fields.agree f.timestamp n }

/-- The most digits that a number part takes. -/
def widthOf : NumberPart → Option Nat
  | .year | .isoYear => some 4
  | .quarter | .dayFromSunday | .dayFromMonday => some 1
  | .ordinal => some 3
  | .nanosecond => some 9
  | .timestamp => none
  | _ => some 2

/-- Reads a number part, behind any blanks. -/
def readPart? (f : Fields) (part : NumberPart) (cs : List Char) : Option (Fields × List Char) := do
  let cs := trimStart cs
  let (n, rest) ← match part with
    | .year | .isoYear => readYear? cs
    | part => (readNumber? (widthOf part) cs).map fun (n, rest) => ((n : Int), rest)
  return (← noteNumber? f part n, rest)

-- ---------------------------------------------------------------------------
-- Names
-- ---------------------------------------------------------------------------

/-- What follows `word` in a text that starts with it, in any case. -/
def dropWord? (word cs : List Char) : Option (List Char) :=
  if (cs.take word.length).map Char.toLower = word.map Char.toLower then some (cs.drop word.length)
  else none

/-- The index of the name whose first three letters a text starts with, and what follows: the rest
of the name too, if it may be long and is there in full. -/
def readName? (names : List String) (long : Bool) (cs : List Char) : Option (Nat × List Char) :=
  (List.range names.length).findSome? fun i => do
    let name := (names.getD i "").toList
    let rest ← dropWord? (name.take 3) cs
    if long then return (i, (dropWord? (name.drop 3) rest).getD rest) else return (i, rest)

/-- Reads `am` or `pm`. -/
def readMeridiem? (f : Fields) : List Char → Option (Fields × List Char)
  | a :: m :: rest => do
    let half ← match a.toLower, m.toLower with
      | 'a', 'm' => some 0
      | 'p', 'm' => some 1
      | _, _ => none
    return ({ f with halfDay := ← Fields.agree f.halfDay half }, rest)
  | _ => none

-- ---------------------------------------------------------------------------
-- Fractions and zones
-- ---------------------------------------------------------------------------

/-- A fraction of a second as nanoseconds: up to nine digits, and any further ones are passed
over. -/
def readFraction? (cs : List Char) : Option (Nat × List Char) := do
  let (n, rest) ← readNumber? (some 9) cs
  let digits := cs.length - rest.length
  return (n * 10 ^ (9 - digits), rest.dropWhile Char.isDigit)

/-- A fraction of a second with exactly so many digits. -/
def readFixedFraction? (digits : Nat) (cs : List Char) : Option (Nat × List Char) := do
  let (n, rest) ← readNumber? (some digits) cs
  if cs.length - rest.length = digits then return (n * 10 ^ (9 - digits), rest) else none

/-- Reads a fraction part. A fraction behind a point may be left out, point and all. -/
def readFractionPart? (f : Fields) (point : Bool) (digits : Option Nat) (cs : List Char) :
    Option (Fields × List Char) := do
  let read := match digits with
    | some n => readFixedFraction? n
    | none => readFraction?
  let note := fun (n : Nat) (rest : List Char) => do
    return ({ f with nanosecond := ← Fields.agree f.nanosecond n }, rest)
  match point, cs with
  | true, '.' :: rest => do
    let (n, rest) ← read rest
    note n rest
  | true, _ => return (f, cs)
  | false, _ => do
    let (n, rest) ← read cs
    note n rest

/-- An offset from UTC in seconds: a sign, two digits of hours, any colons and blanks, two digits of
minutes. Where `zulu` allows it the letter `Z` stands for no offset, and where `short` allows it the
minutes may be missing at the end of the text. -/
def readOffset? (zulu short : Bool) (cs : List Char) : Option (Int × List Char) :=
  match cs with
  | [] => none
  | c :: rest =>
    if zulu && (c == 'Z' || c == 'z') then some (0, rest)
    else do
      let negative ← match c with
        | '+' => some false
        | '-' | '−' => some true
        | _ => none
      match rest with
      | h :: h' :: rest =>
        if !(h.isDigit && h'.isDigit) then none
        else
          let hours := ofDecimal [h, h']
          let signed := fun (minutes : Nat) =>
            let seconds : Int := hours * 3600 + minutes * 60
            if negative then -seconds else seconds
          match rest.dropWhile fun c => c == ':' || isBlank c with
          | m :: m' :: rest =>
            if m.isDigit && m'.isDigit && digitValue m < 6 then
              some (signed (ofDecimal [m, m']), rest)
            else none
          | [] => if short then some (signed 0, []) else none
          | [_] => none
      | _ => none

/-- Notes an offset from UTC. -/
def noteOffset? (f : Fields) (offset : Int) : Option Fields := do
  return { f with offset := ← Fields.agree f.offset offset }

-- ---------------------------------------------------------------------------
-- Items
-- ---------------------------------------------------------------------------

/-- Reads one character that stands for itself. -/
def readLiteral? (c : Char) : List Char → Option (List Char)
  | c' :: rest => if c = c' then some rest else none
  | [] => none

/-- Reads year, month and day with hyphens between them, and blanks in front of the hyphens. -/
def readIsoDate? (f : Fields) (cs : List Char) : Option (Fields × List Char) := do
  let (f, cs) ← readPart? f .year cs
  let cs ← readLiteral? '-' (trimStart cs)
  let (f, cs) ← readPart? f .month cs
  let cs ← readLiteral? '-' (trimStart cs)
  readPart? f .day cs

/-- Reads a whole time stamp: a date, `T` or a space, a time with seconds and perhaps a fraction,
and an offset from UTC or the word `UTC`. -/
def readStamp? (f : Fields) (cs : List Char) : Option (Fields × List Char) := do
  let (f, cs) ← readIsoDate? f cs
  let cs ← match cs with
    | 'T' :: rest | 't' :: rest | ' ' :: rest => some rest
    | _ => none
  let (f, cs) ← readPart? f .hour cs
  let cs ← readLiteral? ':' (trimStart cs)
  let (f, cs) ← readPart? f .minute cs
  let cs ← readLiteral? ':' (trimStart cs)
  let (f, cs) ← readPart? f .second cs
  let (f, cs) ← readFractionPart? f true none cs
  let cs := trimStart cs
  let (offset, cs) ← match dropWord? ['u', 't', 'c'] cs with
    | some rest => some (0, rest)
    | none => readOffset? true false cs
  return (← noteOffset? f offset, cs)

/-- Reads what one item of a pattern stands for. -/
def readItem? (f : Fields) (cs : List Char) : PatternItem → Option (Fields × List Char)
  | .literal c => (readLiteral? c cs).map (f, ·)
  | .blank _ => some (f, trimStart cs)
  | .number part _ => readPart? f part cs
  | .monthName long => do
    let (i, rest) ← readName? monthNames long cs
    return ({ f with month := ← Fields.agree f.month (i + 1) }, rest)
  | .weekdayName long => do
    let (i, rest) ← readName? weekdayNames long cs
    return ({ f with weekday := ← Fields.agree f.weekday i }, rest)
  | .meridiem => readMeridiem? f cs
  | .fraction point digits => readFractionPart? f point digits cs
  | .zoneName => some (f, cs.dropWhile (!isBlank ·))
  | .zoneOffset lenient => do
    let (offset, rest) ← readOffset? lenient lenient (trimStart cs)
    return (← noteOffset? f offset, rest)
  | .stamp => readStamp? f cs

/-- Reads what the items of a pattern stand for. -/
def readItems? (f : Fields) (cs : List Char) : List PatternItem → Option (Fields × List Char)
  | [] => some (f, cs)
  | item :: items => do
    let (f, rest) ← readItem? f cs item
    readItems? f rest items

/-- The parts in a text that is read by a pattern to its end. -/
def read? (pattern : String) (cs : List Char) : Option Fields := do
  match ← readItems? {} cs (← items? pattern.toList) with
  | (f, []) => some f
  | _ => none

end Pattern

namespace Date

/-- The date in a text that is written by a pattern. Parts of a time are read and left aside. -/
def read? (pattern : String) (cs : List Char) : Option Date := do
  (← Pattern.read? pattern cs).date.toOption

/-- The date in a text that is written by a pattern for date and time; the time has to be
complete. -/
def readWithTime? (pattern : String) (cs : List Char) : Option Date := do
  ((← Pattern.read? pattern cs).dateTime 0).toOption.map (·.1)

/-- The date in a text with year, month and day, as `isoText` writes it. Digits may be fewer, and
blanks may stand in front of numbers and hyphens and at the end. -/
def ofIso? (cs : List Char) : Option Date := do
  let (f, rest) ← Pattern.readIsoDate? {} cs
  if (trimStart rest).isEmpty then f.date.toOption else none

end Date

end HomeLedger
