import HomeLedger.Url.Percent

/-!
# HomeLedger — pairs in a query

A query holds names and values as a web form sends them: `a=1&b=2`, where a space is `+` and all but
letters, digits and `*-._` is percent-encoded. Reading takes any text: a pair without `=` has an
empty value, an empty pair is none, and bytes that are no text become replacement characters.
-/

namespace HomeLedger.Url.Form

open Text

/-- Whether a byte stands for itself. -/
def isPlain (b : UInt8) : Bool :=
  let c := Char.ofNat b.toNat
  c.isAlphanum || "*-._".toList.contains c

/-- A byte of a name or a value. -/
def byteText (b : UInt8) : List Char :=
  if b.toNat = 0x20 then ['+']
  else if isPlain b then [Char.ofNat b.toNat]
  else percentByte b

/-- A name or a value. -/
def encode (s : String) : List Char := (encodeUtf8 s.toList).flatMap byteText

/-- The name or the value that a text denotes. -/
def decode (cs : List Char) : String :=
  String.ofList (decodeUtf8 (percentDecode (cs.map fun c => if c = '+' then ' ' else c)))

/-- One pair. -/
def pairText (pair : String × String) : List Char := encode pair.1 ++ '=' :: encode pair.2

/-- Pairs as a query. -/
def write (pairs : List (String × String)) : List Char :=
  List.intercalate ['&'] (pairs.map pairText)

/-- The pair that a text between two `&` denotes; the first `=` separates name and value. -/
def readPair (cs : List Char) : String × String :=
  (decode (cs.takeWhile (· != '=')), decode ((cs.dropWhile (· != '=')).drop 1))

/-- The pairs of a query. -/
def read (cs : List Char) : List (String × String) :=
  ((cs.splitOn '&').filter (· ≠ [])).map readPair

end HomeLedger.Url.Form
