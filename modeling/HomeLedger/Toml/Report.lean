import HomeLedger.Text.Digits

/-!
# HomeLedger — what is wrong with a TOML file

Whatever is wrong with a file is wrong at some place of it, and can be said in words (`Flaw`). What
the user gets to see is a report: where the place is, the line that it is in with marks below, and
the words (`Report.text`). So a report quotes the file, and whoever looks for words in a report may
find those of the user.

A place in a file is given by the number of characters from there to the end. So the rest of a file
knows where it begins, and nobody has to count what has been read.
-/

namespace HomeLedger.Toml

open HomeLedger.Text

-- ---------------------------------------------------------------------------
-- Flaws
-- ---------------------------------------------------------------------------

/-- A piece of a file: the place where it begins, and the place behind it. -/
structure Span where
  start : Nat
  stop : Nat
  deriving DecidableEq, Repr

instance : Inhabited Span := ⟨⟨0, 0⟩⟩

/-- The empty piece at a place. It stands for something that is missing there. -/
def Span.empty (place : Nat) : Span := ⟨place, place⟩

/-- What is wrong with a file: the piece that should not be as it is, and why, in words. -/
structure Flaw where
  span : Span
  words : String
  deriving DecidableEq, Repr

-- ---------------------------------------------------------------------------
-- Lines and columns
-- ---------------------------------------------------------------------------

/-- What stands in front of a place. The end of a file counts as its last character, so that it
belongs to the last line even where that line is ended. -/
def front (text : String) (place : Nat) : List Char :=
  text.toList.take (min (text.length - place) (text.length - 1))

/-- The beginning of the line of a place, up to the place. -/
def lineStart (text : String) (place : Nat) : List Char :=
  ((front text place).reverse.takeWhile (· != '\n')).reverse

/-- The line of a place. -/
def lineAt (text : String) (place : Nat) : String :=
  let behind := text.toList.drop (front text place).length
  String.ofList (lineStart text place ++ behind.takeWhile (· != '\n'))

/-- The number of the line of a place, from zero. -/
def lineNumber (text : String) (place : Nat) : Nat := (front text place).count '\n'

/-- The number of bytes that characters take. -/
def byteLength (cs : List Char) : Nat := cs.foldl (fun n c => n + c.utf8Size) 0

/-- The column of a place, from zero. It counts characters, but bytes where the character at the
place has more than one. The end of a file is one further than its last character. -/
def column (text : String) (place : Nat) : Nat :=
  let before := lineStart text place
  let past := text.length - place - (front text place).length
  match text.toList.drop (front text place).length with
  | c :: _ => if past = 0 ∧ c.utf8Size ≠ 1 then byteLength before else before.length + past
  | [] => before.length + past

-- ---------------------------------------------------------------------------
-- Reports
-- ---------------------------------------------------------------------------

/-- What the user is told about a flaw. Lines and columns are counted from zero, and the quoted line
has at least one mark below it. -/
structure Report where
  line : Nat
  column : Nat
  quoted : String
  marks : Nat
  words : String
  deriving DecidableEq, Repr

/-- The report of a flaw in a text. The marks are as many as there are bytes in the piece that is
wrong, but they do not go beyond the line. -/
def report (text : String) (flaw : Flaw) : Report :=
  let ⟨start, stop⟩ := flaw.span
  let quoted := lineAt text start
  let covered := (text.toList.drop (text.length - start)).take (start - stop)
  { line := lineNumber text start
    column := column text start
    quoted
    marks := max 1 (min (byteLength covered) (byteLength quoted.toList - column text start))
    words := flaw.words }

/-- What stands in front of the bar in a line of a report that has no number. -/
def Report.margin (r : Report) : String :=
  String.ofList (List.replicate ((decimal (r.line + 1)).length + 1) ' ')

/-- A report as a text: where the flaw is, the line with its number and its marks, and the words. -/
def Report.text (r : Report) : String :=
  let number := String.ofList (decimal (r.line + 1))
  let blanks := String.ofList (List.replicate (r.column + 1) ' ')
  let marks := String.ofList (List.replicate r.marks '^')
  "TOML parse error at line " ++ number ++ ", column " ++ String.ofList (decimal (r.column + 1)) ++
    "\n" ++ r.margin ++ "|\n" ++ number ++ " | " ++ r.quoted ++ "\n" ++ r.margin ++ "|" ++ blanks ++
    marks ++ "\n" ++ r.words ++ "\n"

/-- The words stand below the first character that does not belong there. -/
example : (report "Config file not found\n" ⟨.empty 15, "key with no value, expected `=`"⟩).text =
    "TOML parse error at line 1, column 8\n  |\n1 | Config file not found\n  |        ^\n" ++
      "key with no value, expected `=`\n" := by decide +kernel

end HomeLedger.Toml
