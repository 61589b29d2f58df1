import HomeLedger.Calendar.Pattern.Read

/-!
# HomeLedger — instants

The moment at which a transaction was made: a date and a time of day in UTC, to the nanosecond. In
text an instant is a time stamp. It may be written with any offset from UTC and is kept without
one; it is written with the letter `Z`, and with as many groups of three decimals as the nanoseconds
need. A leap second keeps its own second 60.
-/

namespace HomeLedger

open Text

/-- A moment in UTC. The time is below one day, the nanoseconds are below two seconds. -/
structure Instant where
  date : Date
  time : TimeOfDay
  seconds_lt : time.seconds < 86400
  nanoseconds_lt : time.nanoseconds < 2000000000
  deriving DecidableEq, Repr

namespace Instant

/-- The instant at a number of seconds into a day, if the day that this leads to is supported and
the nanoseconds are not too many. -/
def ofSeconds? (date : Date) (seconds : Int) (nanoseconds : Nat) : Option Instant := do
  let date ← date.addDays? (seconds / 86400)
  if h : nanoseconds < 2000000000 then
    return ⟨date, ⟨(seconds % 86400).toNat, nanoseconds⟩, by simp only; omega, h⟩
  else none

/-- Reads a time stamp, with nothing but blanks behind it. -/
def read? (cs : List Char) : Option Instant := do
  let (f, rest) ← Pattern.readStamp? {} cs
  if !(trimStart rest).isEmpty then none
  else
    let offset := f.offset.getD 0
    let (date, time) ← (f.dateTime offset).toOption
    if offset.natAbs < 86400 then ofSeconds? date (time.seconds - offset) time.nanoseconds else none

/-- The fraction of a second: three, six or nine decimals behind a point, or nothing at all. -/
def fractionText (nanoseconds : Nat) : List Char :=
  if nanoseconds = 0 then []
  else if nanoseconds % 1000000 = 0 then '.' :: padded 3 (nanoseconds / 1000000)
  else if nanoseconds % 1000 = 0 then '.' :: padded 6 (nanoseconds / 1000)
  else '.' :: padded 9 nanoseconds

/-- The instant as a time stamp. -/
def text (i : Instant) : String :=
  let s := i.time.seconds
  let leap := i.time.nanoseconds / 1000000000
  i.date.isoText ++ String.ofList
    ('T' :: padded 2 (s / 3600) ++ ':' :: padded 2 (s / 60 % 60) ++ ':' :: padded 2 (s % 60 + leap)
      ++ fractionText (i.time.nanoseconds % 1000000000) ++ ['Z'])

/-- Noon of a day. -/
def noon (d : Date) : Instant := ⟨d, ⟨43200, 0⟩, by decide, by decide⟩

end Instant

end HomeLedger
