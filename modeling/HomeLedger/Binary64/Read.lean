import HomeLedger.Binary64.Basic
import HomeLedger.Text.Digits

/-!
# HomeLedger — reading binary numbers

The text form of a number that a person types: an optional sign and either digits with at most one
point and an optional exponent, or one of the words `inf`, `infinity` and `nan` in any case. At
least one digit stands before or behind the point; nothing may surround the number. The number read
is the one nearest to the decimal that is written.
-/

namespace HomeLedger.Binary64

open Text

/-- An exponent: an optional sign and at least one digit, up to the end of the text. -/
def readExponent? (cs : List Char) : Option Int :=
  let (negative, digits) := match cs with
    | '-' :: rest => (true, rest)
    | '+' :: rest => (false, rest)
    | _ => (false, cs)
  if digits ≠ [] ∧ digits.all Char.isDigit then
    some (if negative then -(ofDecimal digits : Int) else ofDecimal digits)
  else none

/-- The words that stand for numbers without digits. -/
def readWord? (negative : Bool) (cs : List Char) : Option Binary64 :=
  let word := String.ofList (cs.map Char.toLower)
  if word = "inf" ∨ word = "infinity" then some (.infinite negative)
  else if word = "nan" then some .nan
  else none

/-- A number behind its sign. -/
def readUnsigned? (negative : Bool) (cs : List Char) : Option Binary64 :=
  let (whole, rest) := spanDigits cs
  let (fraction, rest) := match rest with
    | '.' :: rest => spanDigits rest
    | _ => ([], rest)
  if whole ++ fraction = [] then readWord? negative cs
  else
    let exponent? := match rest with
      | [] => some 0
      | c :: rest => if c = 'e' ∨ c = 'E' then readExponent? rest else none
    exponent?.map fun exponent =>
      let digits := ofDecimal (whole ++ fraction)
      ofDigits negative digits (decimal digits).length (exponent - fraction.length)

/-- Reads a number that takes up the whole text. -/
def read? (cs : List Char) : Option Binary64 :=
  match cs with
  | '-' :: rest => readUnsigned? true rest
  | '+' :: rest => readUnsigned? false rest
  | _ => readUnsigned? false cs

end HomeLedger.Binary64
