import HomeLedger.Toml.Report

/-!
# HomeLedger — texts in TOML

A text has one of four forms: in double quotes with escapes, or in single quotes without, and each
on one line or, in triple quotes, on several. A line break right behind an opening triple quote does
not count. A backslash at the end of a line joins it to the next word.

What stands between the quotes is read by the rules of its form (`TextForm.read`). The places of
what is wrong there are counted from the closing quote.
-/

namespace HomeLedger.Toml

open HomeLedger.Text

/-- Whether a character may stand in a line. -/
def isLineChar (c : Char) : Bool := c == '\t' || (0x20 ≤ c.toNat && c.toNat != 0x7F)

/-- Whether a character separates parts of a line. -/
def isSpace (c : Char) : Bool := c == ' ' || c == '\t'

-- ---------------------------------------------------------------------------
-- Forms
-- ---------------------------------------------------------------------------

/-- The forms of a text. -/
inductive TextForm where
  | basic | literal | multiBasic | multiLiteral
  deriving DecidableEq, Repr

/-- What opens a text and closes it. -/
def TextForm.quotes : TextForm → List Char
  | basic => ['"']
  | literal => ['\'']
  | multiBasic => ['"', '"', '"']
  | multiLiteral => ['\'', '\'', '\'']

/-- The name of a form. -/
def TextForm.name : TextForm → String
  | basic => "basic string"
  | literal => "literal string"
  | multiBasic => "multi-line basic string"
  | multiLiteral => "multi-line literal string"

/-- What may stand in a text of a form, in words. -/
def TextForm.allowed : TextForm → String
  | basic => "non-double-quote visible characters, `\\`"
  | literal => "non-single-quote visible characters"
  | multiBasic => "`\\`, characters"
  | multiLiteral => "characters"

/-- Whether a text may have several lines. -/
def TextForm.isMulti : TextForm → Bool
  | basic | literal => false
  | multiBasic | multiLiteral => true

-- ---------------------------------------------------------------------------
-- Escapes
-- ---------------------------------------------------------------------------

/-- The number of hexadecimal digits behind the letter of an escape. -/
def escapeLength? : Char → Option Nat
  | 'x' => some 2
  | 'u' => some 4
  | 'U' => some 8
  | _ => none

/-- What a single letter behind a backslash stands for. -/
def escaped? : Char → Option Char
  | 'b' => some '\x08'
  | 't' => some '\t'
  | 'n' => some '\n'
  | 'f' => some '\x0c'
  | 'r' => some '\r'
  | 'e' => some '\x1b'
  | '"' => some '"'
  | '\\' => some '\\'
  | _ => none

/-- The number that a row of hexadecimal digits denotes. -/
def ofHex? (cs : List Char) : Option Nat :=
  cs.foldlM (fun n c => (hexValue? c).map (n * 16 + ·)) 0

/-- What is wrong with the front of a text behind a backslash that stands for nothing: its letter is
none, digits are missing, or they denote no character. -/
def escapeFlaw (cs : List Char) : Flaw :=
  let digitsOf (c : Char) : Nat := (escapeLength? c).getD 0
  match cs with
  | [] => ⟨.empty 0, escapeWords⟩
  | c :: rest =>
    if digitsOf c = 0 then ⟨.empty cs.length, escapeWords⟩
    else if ((rest.take (digitsOf c)).takeWhile fun d => (hexValue? d).isSome).length <
        digitsOf c then
      ⟨.empty rest.length, "too few unicode value digits, expected unicode hexadecimal value"⟩
    else
      ⟨⟨rest.length, rest.length - digitsOf c⟩,
        "invalid value, expected unicode hexadecimal value"⟩
where
  /-- What may stand behind a backslash. -/
  escapeWords : String :=
    "missing escaped value, expected `b`, `e`, `f`, `n`, `r`, `\\`, `\"`, `x`, `u`, `U`"

/-- The character that the front of a text behind a backslash stands for, and how many characters
say so. -/
def readEscape? : List Char → Option (Char × Nat)
  | [] => none
  | c :: cs =>
    match escapeLength? c with
    | some n => do
      let code ← if (cs.take n).length = n then ofHex? (cs.take n) else none
      if code.isValidChar then some (Char.ofNat code, n + 1) else none
    | none => (escaped? c).map (·, 1)

-- ---------------------------------------------------------------------------
-- Texts on one line
-- ---------------------------------------------------------------------------

/-- What is wrong with a text in which a character may not stand in front of `rest`. -/
def TextForm.flaw (form : TextForm) (rest : List Char) : Flaw :=
  ⟨⟨rest.length + 1, rest.length⟩, s!"invalid {form.name}, expected {form.allowed}"⟩

/-- Reads a text with escapes, where the first `skip` characters belong to one. -/
def readBasic : Nat → List Char → Except Flaw (List Char)
  | _, [] => .ok []
  | skip + 1, _ :: cs => readBasic skip cs
  | 0, c :: cs =>
    if c = '\\' then
      match readEscape? cs with
      | some (d, n) => (d :: ·) <$> readBasic n cs
      | none => .error (escapeFlaw cs)
    else if isLineChar c then (c :: ·) <$> readBasic 0 cs
    else .error (TextForm.basic.flaw cs)

/-- Reads a text without escapes. -/
def readLiteral : List Char → Except Flaw (List Char)
  | [] => .ok []
  | c :: cs =>
    if isLineChar c then (c :: ·) <$> readLiteral cs else .error (TextForm.literal.flaw cs)

-- ---------------------------------------------------------------------------
-- Texts on several lines
-- ---------------------------------------------------------------------------

/-- Whether a text begins with a line break, behind any spaces. -/
def endsLine (cs : List Char) : Bool :=
  match cs.dropWhile isSpace with
  | '\n' :: _ | '\r' :: '\n' :: _ => true
  | _ => false

/-- Whether a character may stand in front of `rest` in a text on several lines. -/
def isTextChar (c : Char) (rest : List Char) : Bool :=
  isLineChar c || c == '\n' || (c == '\r' && rest.head? == some '\n')

/-- How many blanks and line breaks a text begins with. -/
def fillerLength (cs : List Char) : Nat :=
  (cs.takeWhile fun c => isSpace c || c == '\n' || c == '\r').length

/-- Reads a text on several lines with escapes, where the first `skip` characters belong to one. -/
def readMultiBasic : Nat → List Char → Except Flaw (List Char)
  | _, [] => .ok []
  | skip + 1, _ :: cs => readMultiBasic skip cs
  | 0, c :: cs =>
    if c = '\\' then
      if endsLine cs then readMultiBasic (fillerLength cs) cs
      else match readEscape? cs with
        | some (d, n) => (d :: ·) <$> readMultiBasic n cs
        | none => .error (escapeFlaw cs)
    else if isTextChar c cs then (c :: ·) <$> readMultiBasic 0 cs
    else .error (TextForm.multiBasic.flaw cs)

/-- Reads a text on several lines without escapes. -/
def readMultiLiteral : List Char → Except Flaw (List Char)
  | [] => .ok []
  | c :: cs =>
    if isTextChar c cs then (c :: ·) <$> readMultiLiteral cs
    else .error (TextForm.multiLiteral.flaw cs)

-- ---------------------------------------------------------------------------
-- Texts of any form
-- ---------------------------------------------------------------------------

/-- A text without the line break it begins with. -/
def dropNewline : List Char → List Char
  | '\n' :: cs => cs
  | '\r' :: '\n' :: cs => cs
  | cs => cs

/-- What stands between the quotes of a text, if it has closing ones. -/
def TextForm.body? (form : TextForm) (cs : List Char) : Option (List Char) :=
  let cs := cs.drop form.quotes.length
  let cs := if form.isMulti then dropNewline cs else cs
  (form.quotes.isPrefixOf? cs.reverse).map List.reverse

/-- Reads what stands between the quotes of a text. -/
def TextForm.read (cs : List Char) : TextForm → Except Flaw (List Char)
  | basic => readBasic 0 cs
  | literal => readLiteral cs
  | multiBasic => readMultiBasic 0 cs
  | multiLiteral => readMultiLiteral cs

end HomeLedger.Toml
