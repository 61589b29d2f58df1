import HomeLedger.Text.Digits
import HomeLedger.Text.Utf8

/-!
# HomeLedger — percent-encoding

A byte that a part of a URL must not hold is written as `%` and two hexadecimal digits. Which ASCII
characters a part must not hold is said by a predicate for each part; other characters are always
encoded. A `%` that is not followed by two digits stands for itself.
-/

namespace HomeLedger.Url

open Text

/-- A byte in encoded form. -/
def percentByte (b : UInt8) : List Char :=
  ['%', (hexDigit (b.toNat / 16)).toUpper, (hexDigit b.toNat).toUpper]

/-- Encodes the characters that `isUnsafe` holds of. -/
def percentEncode (isUnsafe : Char → Bool) (cs : List Char) : List Char :=
  cs.flatMap fun c => if isUnsafe c then (encodeUtf8 [c]).flatMap percentByte else [c]

/-- The bytes of a text in which some are encoded. -/
def percentDecode : List Char → Bytes
  | [] => []
  | '%' :: a :: b :: cs =>
    match hexValue? a, hexValue? b with
    | some high, some low => UInt8.ofNat (high * 16 + low) :: percentDecode cs
    | _, _ => encodeUtf8 ['%'] ++ percentDecode (a :: b :: cs)
  | c :: cs => encodeUtf8 [c] ++ percentDecode cs

-- ---------------------------------------------------------------------------
-- What the parts of a URL must not hold
-- ---------------------------------------------------------------------------

/-- Control characters, and all that is not ASCII. -/
def isControl (c : Char) : Bool := c.toNat < 0x20 || 0x7F ≤ c.toNat

/-- What a fragment must not hold. -/
def unsafeInFragment (c : Char) : Bool := isControl c || " \"<>`".toList.contains c

/-- What a path must not hold. -/
def unsafeInPath (c : Char) : Bool := unsafeInFragment c || ['#', '?', '\x7b', '\x7d'].contains c

/-- What the name and the password of a user must not hold. -/
def unsafeInUser (c : Char) : Bool := unsafeInPath c || "/:;=@[\\]^|".toList.contains c

/-- What a query must not hold; in the special schemes that is a little more. -/
def unsafeInQuery (special : Bool) (c : Char) : Bool :=
  isControl c || " \"#<>".toList.contains c || (special && c == '\'')

end HomeLedger.Url
