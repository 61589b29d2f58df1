import HomeLedger.Binary64.Shortest
import HomeLedger.Json.Basic

/-!
# HomeLedger — writing JSON

Two layouts of the same text: without any blanks, and with one member or item a line, indented by
two spaces. A string is written as it is except for quotes, backslashes and control characters. A
binary number has the fewest digits that read back and always a point or an exponent, so that it
does not look like an integer; numbers that are not finite become `null`.
-/

namespace HomeLedger.Json

open Text Binary64

-- ---------------------------------------------------------------------------
-- Strings
-- ---------------------------------------------------------------------------

/-- A character within a string. The five control characters that have a letter use it. -/
def escape (c : Char) : List Char :=
  if c = '"' then ['\\', '"']
  else if c = '\\' then ['\\', '\\']
  else if c = '\n' then ['\\', 'n']
  else if c = '\r' then ['\\', 'r']
  else if c = '\t' then ['\\', 't']
  else if c = '\x08' then ['\\', 'b']
  else if c = '\x0c' then ['\\', 'f']
  else if c.toNat < 0x20 then ['\\', 'u', '0', '0', hexDigit (c.toNat / 16), hexDigit c.toNat]
  else [c]

/-- A string in quotes. -/
def stringText (s : String) : List Char := '"' :: s.toList.flatMap escape ++ ['"']

-- ---------------------------------------------------------------------------
-- Numbers
-- ---------------------------------------------------------------------------

/-- The decimal `digits * 10 ^ exponent` with a point or an exponent in any case. It is positional
as long as the point lies at most sixteen digits behind the first digit and at most four zeros lie
between them. -/
def decimalText (digits : List Char) (exponent : Int) : List Char :=
  let point : Int := digits.length + exponent
  if -5 < point ∧ point ≤ 16 then
    positional digits exponent ++ (if 0 ≤ exponent then ['.', '0'] else [])
  else
    let mantissa := match digits with
      | [] => []
      | [d] => [d]
      | d :: ds => d :: '.' :: ds
    mantissa ++ 'e' :: (if 0 < point then ['+'] else []) ++ decimalInt (point - 1)

/-- A binary number; a tie between two shortest decimals goes to the even digit. -/
def floatText : Binary64 → List Char
  | .finite negative m e =>
    if m = 0 then signText negative ++ ['0', '.', '0']
    else
      let d := shortest .toEven m e
      signText negative ++ decimalText (decimal d.digits) d.exponent
  | _ => ['n', 'u', 'l', 'l']

/-- A value that is no array and no object. -/
def scalarText : Json → List Char
  | .null => ['n', 'u', 'l', 'l']
  | .bool true => ['t', 'r', 'u', 'e']
  | .bool false => ['f', 'a', 'l', 's', 'e']
  | .integer i => decimalInt i
  | .float x => floatText x
  | .string s => stringText s
  | .array _ => []
  | .object _ => []

-- ---------------------------------------------------------------------------
-- Without blanks
-- ---------------------------------------------------------------------------

mutual

/-- A value without blanks. -/
def compactChars : Json → List Char
  | .array items => '[' :: compactItems items ++ [']']
  | .object members => '{' :: compactMembers members ++ ['}']
  | scalar => scalarText scalar

/-- Items with commas between them. -/
def compactItems : List Json → List Char
  | [] => []
  | [item] => compactChars item
  | item :: items => compactChars item ++ ',' :: compactItems items

/-- Members with commas between them. -/
def compactMembers : List (String × Json) → List Char
  | [] => []
  | [(key, value)] => stringText key ++ ':' :: compactChars value
  | (key, value) :: members =>
    stringText key ++ ':' :: compactChars value ++ ',' :: compactMembers members

end

/-- The text of a value without blanks. -/
def compact (j : Json) : String := String.ofList (compactChars j)

-- ---------------------------------------------------------------------------
-- One item a line
-- ---------------------------------------------------------------------------

/-- A new line that is indented to a depth. -/
def newLine (depth : Nat) : List Char := '\n' :: List.replicate (2 * depth) ' '

mutual

/-- A value at a depth of indentation. Nothing stands between the brackets of an empty array or
object. -/
def prettyChars (depth : Nat) : Json → List Char
  | .array [] => ['[', ']']
  | .array items => '[' :: prettyItems (depth + 1) items ++ newLine depth ++ [']']
  | .object [] => ['{', '}']
  | .object members => '{' :: prettyMembers (depth + 1) members ++ newLine depth ++ ['}']
  | scalar => scalarText scalar

/-- Items with commas between them, each on a line. -/
def prettyItems (depth : Nat) : List Json → List Char
  | [] => []
  | [item] => newLine depth ++ prettyChars depth item
  | item :: items => newLine depth ++ prettyChars depth item ++ ',' :: prettyItems depth items

/-- Members with commas between them, each on a line. -/
def prettyMembers (depth : Nat) : List (String × Json) → List Char
  | [] => []
  | [(key, value)] => newLine depth ++ stringText key ++ [':', ' '] ++ prettyChars depth value
  | (key, value) :: members =>
    newLine depth ++ stringText key ++ [':', ' '] ++ prettyChars depth value ++
      ',' :: prettyMembers depth members

end

/-- The text of a value with one member or item a line. -/
def pretty (j : Json) : String := String.ofList (prettyChars 0 j)

end HomeLedger.Json
