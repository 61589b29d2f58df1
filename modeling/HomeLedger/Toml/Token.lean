import HomeLedger.Toml.Text

/-!
# HomeLedger — the tokens of TOML

A file is cut into tokens before anything is made of it: marks, what lies between the parts, texts
in quotes, and words. A token is only delimited here and not looked into, so that every file has
tokens (`Token.scan`), whatever else is wrong with it. A text on one line ends with the line at the
latest, and a quote within a word does not end it.
-/

namespace HomeLedger.Toml

-- ---------------------------------------------------------------------------
-- Tokens
-- ---------------------------------------------------------------------------

/-- What a token is. -/
inductive TokenKind where
  | dot
  | equals
  | comma
  | openBracket
  | closeBracket
  | openBrace
  | closeBrace
  | blank
  | comment
  | lineBreak
  | text (form : TextForm)
  | word
  deriving DecidableEq, Repr

/-- A token with its place and its characters. -/
structure Token where
  place : Nat
  kind : TokenKind
  chars : List Char
  deriving Repr

/-- The place behind a token. -/
def Token.after (t : Token) : Nat := t.place - t.chars.length

/-- The piece of the file that a token is. -/
def Token.span (t : Token) : Span := ⟨t.place, t.after⟩

/-- The place where tokens begin. -/
def placeOf : List Token → Nat
  | [] => 0
  | t :: _ => t.place

-- ---------------------------------------------------------------------------
-- The length of texts
-- ---------------------------------------------------------------------------

/-- The length of a text in double quotes, behind the opening one. -/
def basicLength : List Char → Nat
  | [] => 0
  | '\n' :: _ => 0
  | '"' :: _ => 1
  | '\\' :: '\\' :: cs | '\\' :: '"' :: cs => basicLength cs + 2
  | _ :: cs => basicLength cs + 1

/-- The length of a text in single quotes, behind the opening one. -/
def literalLength : List Char → Nat
  | [] => 0
  | '\n' :: _ => 0
  | '\'' :: _ => 1
  | _ :: cs => literalLength cs + 1

/-- How many quotes follow closing ones and belong to the text: at most two. -/
def extraQuotes (quote : Char) (cs : List Char) : Nat :=
  ((cs.take 2).takeWhile (· == quote)).length

/-- The length of a text in triple double quotes, behind the opening ones. -/
def multiBasicLength : List Char → Nat
  | [] => 0
  | '"' :: '"' :: '"' :: cs => 3 + extraQuotes '"' cs
  | '\\' :: '\\' :: cs | '\\' :: '"' :: cs => multiBasicLength cs + 2
  | _ :: cs => multiBasicLength cs + 1

/-- The length of a text in triple single quotes, behind the opening ones. -/
def multiLiteralLength : List Char → Nat
  | [] => 0
  | '\'' :: '\'' :: '\'' :: cs => 3 + extraQuotes '\'' cs
  | _ :: cs => multiLiteralLength cs + 1

-- ---------------------------------------------------------------------------
-- Scanning
-- ---------------------------------------------------------------------------

/-- Whether a character ends a word. -/
def endsWord (c : Char) : Bool :=
  isSpace c || ".=,[]#\r\n".toList.contains c || c == '\x7b' || c == '\x7d'

/-- What begins with a character, and how many characters that follow it belong to it. -/
def tokenAt (c : Char) (cs : List Char) : TokenKind × Nat :=
  match c, cs with
  | '.', _ => (.dot, 0)
  | '=', _ => (.equals, 0)
  | ',', _ => (.comma, 0)
  | '[', _ => (.openBracket, 0)
  | ']', _ => (.closeBracket, 0)
  | '\x7b', _ => (.openBrace, 0)
  | '\x7d', _ => (.closeBrace, 0)
  | '\n', _ => (.lineBreak, 0)
  | '\r', '\n' :: _ => (.lineBreak, 1)
  | '\r', _ => (.lineBreak, 0)
  | '#', cs => (.comment, (cs.takeWhile fun c => c != '\r' && c != '\n').length)
  | '"', '"' :: '"' :: cs => (.text .multiBasic, 2 + multiBasicLength cs)
  | '"', cs => (.text .basic, basicLength cs)
  | '\'', '\'' :: '\'' :: cs => (.text .multiLiteral, 2 + multiLiteralLength cs)
  | '\'', cs => (.text .literal, literalLength cs)
  | c, cs =>
    if isSpace c then (.blank, (cs.takeWhile isSpace).length)
    else (.word, (cs.takeWhile (!endsWord ·)).length)

/-- The tokens of a text that begins at a place. The first argument bounds their number. -/
def scanFrom : Nat → Nat → List Char → List Token
  | 0, _, _ => []
  | _, _, [] => []
  | steps + 1, place, c :: cs =>
    let (kind, more) := tokenAt c cs
    { place, kind, chars := c :: cs.take more }
      :: scanFrom steps (place - (1 + (cs.take more).length)) (cs.drop more)

/-- The tokens of a text. -/
def Token.scan (cs : List Char) : List Token := scanFrom cs.length cs.length cs

end HomeLedger.Toml
