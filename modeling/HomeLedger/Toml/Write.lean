import HomeLedger.Toml.Text

/-!
# HomeLedger — writing TOML

A text is written in the plainest form that can hold it (`Toml.formOf`). Double quotes are plainest;
they serve if nothing has to be escaped. Else single quotes, then triple quotes of either kind. A
text that no form can hold as it is has its escapes in double quotes, triple ones if it has line
breaks. A text with line breaks begins on a line of its own.
-/

namespace HomeLedger.Toml

open HomeLedger.Text

-- ---------------------------------------------------------------------------
-- Forms
-- ---------------------------------------------------------------------------

/-- The length of the longest row of a character, where `row` of them stand in front. -/
def longestRow (c : Char) : Nat → List Char → Nat
  | row, [] => row
  | row, d :: cs => if d = c then longestRow c (row + 1) cs else max row (longestRow c 0 cs)

/-- Whether a text holds a character that only an escape can stand for. -/
def needsEscape (cs : List Char) : Bool := cs.any fun c => !isLineChar c && c != '\n'

/-- Whether a form holds a text without any escape. -/
def TextForm.holds (cs : List Char) : TextForm → Bool
  | basic => !needsEscape cs && !cs.contains '\\' && !cs.contains '"' && !cs.contains '\n'
  | literal => !needsEscape cs && !cs.contains '\'' && !cs.contains '\n'
  | multiBasic => !needsEscape cs && !cs.contains '\\' && longestRow '"' 0 cs ≤ 2
  | multiLiteral => !needsEscape cs && longestRow '\'' 0 cs ≤ 2

/-- The form in which a text is written. -/
def formOf (cs : List Char) : TextForm :=
  match [TextForm.basic, .literal, .multiBasic, .multiLiteral].find? (·.holds cs) with
  | some form => form
  | none => if cs.contains '\n' then .multiBasic else .basic

-- ---------------------------------------------------------------------------
-- Texts
-- ---------------------------------------------------------------------------

/-- A character between double quotes. -/
def escape (c : Char) : List Char :=
  match c with
  | '\x08' => ['\\', 'b']
  | '\t' => ['\\', 't']
  | '\n' => ['\\', 'n']
  | '\x0c' => ['\\', 'f']
  | '\r' => ['\\', 'r']
  | '"' => ['\\', '"']
  | '\\' => ['\\', '\\']
  | c =>
    if isLineChar c then [c]
    else '\\' :: 'u' :: (List.leftpad 4 '0' (Nat.toDigits 16 c.toNat)).map Char.toUpper

/-- A text between triple double quotes, behind `row` quotes: line breaks stand for themselves, and
the third quote of a row is escaped. -/
def escapeLines : Nat → List Char → List Char
  | _, [] => []
  | row, c :: cs =>
    if c = '"' then
      if row = 2 then '\\' :: '"' :: escapeLines 0 cs else '"' :: escapeLines (row + 1) cs
    else if c = '\n' then '\n' :: escapeLines 0 cs
    else escape c ++ escapeLines 0 cs

/-- The line break behind an opening triple quote, if there are others. -/
def opening (cs : List Char) : List Char := if cs.contains '\n' then ['\n'] else []

/-- What stands between the quotes of a text in a form. -/
def TextForm.writeBody (cs : List Char) : TextForm → List Char
  | basic => cs.flatMap escape
  | literal => cs
  | multiBasic => opening cs ++ escapeLines 0 cs
  | multiLiteral => opening cs ++ cs

/-- A text in a form. -/
def TextForm.write (cs : List Char) (form : TextForm) : List Char :=
  form.quotes ++ form.writeBody cs ++ form.quotes

/-- A text. -/
def writeText (s : String) : String := String.ofList ((formOf s.toList).write s.toList)

-- ---------------------------------------------------------------------------
-- Lines
-- ---------------------------------------------------------------------------

/-- A key and its value on a line. -/
def writeEntry (key value : String) : String := s!"{key} = {value}\n"

/-- A key and a text. -/
def writeTextEntry (key value : String) : String := writeEntry key (writeText value)

/-- The header of a table behind an empty line. -/
def writeHeader (key : String) : String := s!"\n[{key}]\n"

end HomeLedger.Toml
