import HomeLedger.Text.Blank

/-!
# HomeLedger — tokens of a line

A line is cut into tokens at its blanks. Quotes of either kind keep blanks inside a token, and a
backslash keeps the character after it, whatever that is and inside quotes as well. A quote ends at
the next quote of its own kind, or at the end of the line. Quotes may begin and end inside a token;
what they enclose joins the text around them. A token that would be empty is dropped, `""` included.

* `tokenize` runs the scan of a whole line; `scan` exposes the state it ends in, so that what a
  line does to the text after it can be stated (`scan_append`).
* `quote` writes a text so that the scan reads it back as one token.
-/

namespace HomeLedger

-- ---------------------------------------------------------------------------
-- The scan
-- ---------------------------------------------------------------------------

/-- Where a scan stands: the tokens it has completed, the token it is reading, the quote it is
inside of, and whether the next character is taken as it is. -/
structure Scan where
  tokens : List String := []
  current : String := ""
  quote : Option Char := none
  escaped : Bool := false
  deriving DecidableEq, Repr

namespace Scan

/-- Takes a character into the current token. -/
def keep (s : Scan) (c : Char) : Scan :=
  { s with current := s.current.push c, escaped := false }

/-- Ends the current token; an empty one leaves no trace. -/
def endToken (s : Scan) : Scan :=
  if s.current.isEmpty then s else { s with tokens := s.tokens ++ [s.current], current := "" }

/-- Whether a character opens a quote. -/
def isQuote (c : Char) : Bool := c == '"' || c == '\''

/-- What one character does to the scan. -/
def step (s : Scan) (c : Char) : Scan :=
  if s.escaped then s.keep c
  else if c = '\\' then { s with escaped := true }
  else match s.quote with
    | some q => if c = q then { s with quote := none } else s.keep c
    | none =>
      if isQuote c then { s with quote := some c }
      else if Text.isBlank c then s.endToken
      else s.keep c

end Scan

/-- The state in which the scan of a text ends. -/
def scan (cs : List Char) : Scan := cs.foldl Scan.step {}

/-- A scan of two texts goes on where the first one left off. -/
theorem scan_append (a b : List Char) : scan (a ++ b) = b.foldl Scan.step (scan a) :=
  List.foldl_append

/-- The tokens of a text. The end of the text ends the last token, an open quote with it. -/
def tokenize (s : String) : List String := (scan s.toList).endToken.tokens

-- ---------------------------------------------------------------------------
-- Quoting
-- ---------------------------------------------------------------------------

/-- Whether the scan would read a character as something else than itself. -/
def isSpecial (c : Char) : Bool := Text.isBlank c || Scan.isQuote c || c == '\\'

/-- A character between double quotes: a backslash keeps what would end or change the token. -/
def escapeChar (c : Char) : List Char := if c = '"' ∨ c = '\\' then ['\\', c] else [c]

/-- The text as one token of a line: as it is where that is possible, else in double quotes. The
empty text has no other form than `""`. -/
def quote (s : String) : String :=
  if s.isEmpty || s.toList.any isSpecial then
    String.ofList ('"' :: s.toList.flatMap escapeChar ++ ['"'])
  else s

end HomeLedger
