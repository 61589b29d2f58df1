import HomeLedger.Url.Domain
import HomeLedger.Url.Percent

/-!
# HomeLedger — the host of a URL

The special schemes of the web know what a host is: a domain in lower case and in ASCII, or an
address of either kind. In any other scheme a host is a text that only must not hold what ends it,
and its case is kept.
-/

namespace HomeLedger

open Text

/-- Why a text is no URL. -/
inductive UrlError where
  | noScheme
  | emptyHost
  | badPort
  | badIpv4
  | badIpv6
  | badDomainCharacter
  | badDomain
  deriving DecidableEq, Repr

/-- What is wrong with a URL, in words. -/
def UrlError.message : UrlError → String
  | noScheme => "relative URL without a base"
  | emptyHost => "empty host"
  | badPort => "invalid port number"
  | badIpv4 => "invalid IPv4 address"
  | badIpv6 => "invalid IPv6 address"
  | badDomainCharacter => "invalid domain character"
  | badDomain => "invalid international domain name"

namespace Url

-- ---------------------------------------------------------------------------
-- Addresses of four bytes
-- ---------------------------------------------------------------------------

/-- The number that digits in a base denote, if all of them are digits. -/
def ofDigits? (base : Nat) (cs : List Char) : Option Nat :=
  cs.foldlM (fun n c => match hexValue? c with
    | some d => if d < base then some (n * base + d) else none
    | none => none) 0

/-- The number in a part of an address: hexadecimal behind `0x`, octal behind `0`, else decimal. -/
def ipv4Number? : List Char → Option Nat
  | [] => none
  | '0' :: 'x' :: cs | '0' :: 'X' :: cs => ofDigits? 16 cs
  | '0' :: c :: cs => ofDigits? 8 (c :: cs)
  | cs => ofDigits? 10 cs

/-- The parts of a domain; one that is empty may end it. -/
def domainParts (cs : List Char) : List (List Char) :=
  let parts := cs.splitOn '.'
  if parts.length > 1 && parts.getLast? == some [] then parts.dropLast else parts

/-- Whether a domain has to be an address because its last part is a number. -/
def endsInNumber (cs : List Char) : Bool :=
  match (domainParts cs).getLast? with
  | some last => (!last.isEmpty && last.all Char.isDigit) || (ipv4Number? last).isSome
  | none => false

/-- The address that a domain denotes. Its last number fills all the bytes that are left. -/
def ipv4? (cs : List Char) : Option Nat := do
  let numbers ← (domainParts cs).mapM ipv4Number?
  let last ← numbers.getLast?
  let front := numbers.dropLast
  if 3 < front.length ∨ 256 ^ (4 - front.length) ≤ last ∨ ¬ front.all (· < 256) then none
  else return front.zipIdx.foldl (fun sum (n, i) => sum + n * 256 ^ (3 - i)) last

/-- An address of four bytes. -/
def ipv4Text (n : Nat) : List Char :=
  List.intercalate ['.'] ([3, 2, 1, 0].map fun i => decimal (n / 256 ^ i % 256))

-- ---------------------------------------------------------------------------
-- Addresses of eight pieces
-- ---------------------------------------------------------------------------

/-- The byte in a dotted ending: decimal and without leading zeros. -/
def dottedByte? (cs : List Char) : Option Nat := do
  if cs.isEmpty ∨ (1 < cs.length ∧ cs.head? = some '0') then none
  let n ← ofDigits? 10 cs
  if n < 256 then some n else none

/-- The pieces that a text between colons denotes; only the last text may be dotted. -/
def pieces? : List (List Char) → Option (List Nat)
  | [] => some []
  | cs :: rest =>
    if rest.isEmpty && cs.contains '.' then
      match (cs.splitOn '.').mapM dottedByte? with
      | some [a, b, c, d] => some [a * 256 + b, c * 256 + d]
      | _ => none
    else if cs.isEmpty || 4 < cs.length then none
    else do return (← ofDigits? 16 cs) :: (← pieces? rest)

/-- The pieces of a text with colons between them; the empty text has none. -/
def colonPieces? (cs : List Char) : Option (List Nat) :=
  if cs.isEmpty then some [] else pieces? (cs.splitOn ':')

/-- The text before the first `::` and the text after it. -/
def splitDoubleColon : List Char → Option (List Char × List Char)
  | ':' :: ':' :: cs => some ([], cs)
  | c :: cs => (splitDoubleColon cs).map fun (a, b) => (c :: a, b)
  | [] => none

/-- The eight pieces of an address; `::` stands for zeros that are left out. -/
def ipv6? (cs : List Char) : Option (List Nat) :=
  match splitDoubleColon cs with
  | none => do
    let pieces ← colonPieces? cs
    if pieces.length = 8 then some pieces else none
  | some (front, back) => do
    if front.contains '.' then none
    let front ← colonPieces? front
    let back ← colonPieces? back
    let zeros := 8 - (front.length + back.length)
    if zeros = 0 then none else some (front ++ List.replicate zeros 0 ++ back)

/-- How many zeros begin at each place. -/
def zeroRuns : List Nat → List Nat
  | [] => []
  | n :: rest =>
    let runs := zeroRuns rest
    (if n = 0 then runs.head?.getD 0 + 1 else 0) :: runs

/-- An address of eight pieces; the first of its longest runs of zeros is left out. -/
def ipv6Text (pieces : List Nat) : List Char :=
  let joined (ns : List Nat) : List Char := List.intercalate [':'] (ns.map (Nat.toDigits 16))
  let runs := zeroRuns pieces
  let longest := runs.foldl max 0
  if longest < 2 then joined pieces
  else
    let start := runs.findIdx (· == longest)
    joined (pieces.take start) ++ [':', ':'] ++ joined (pieces.drop (start + longest))

end Url

-- ---------------------------------------------------------------------------
-- Hosts
-- ---------------------------------------------------------------------------

/-- The host of a URL. -/
inductive Host where
  | name (s : String)
  | ipv4 (n : Nat)
  | ipv6 (pieces : List Nat)
  deriving DecidableEq, Repr

namespace Host

open Url

/-- A host as it is written. -/
def text : Host → String
  | name s => s
  | ipv4 n => String.ofList (ipv4Text n)
  | ipv6 pieces => String.ofList ('[' :: ipv6Text pieces ++ [']'])

/-- The address in brackets, if the text begins with one. -/
def bracketed? : List Char → Option (Except UrlError Host)
  | '[' :: cs =>
    some <| if cs.getLast? ≠ some ']' then .error .badIpv6
      else match ipv6? cs.dropLast with
        | some pieces => .ok (.ipv6 pieces)
        | none => .error .badIpv6
  | _ => none

/-- The host that a text denotes in a scheme that is not special. -/
def ofPlain (cs : List Char) : Except UrlError Host :=
  match bracketed? cs with
  | some result => result
  | none =>
    if cs.any fun c => c == '\x00' || "\t\n\r #/:<>?@[\\]^|".toList.contains c then
      .error .badDomainCharacter
    else .ok (.name (String.ofList (percentEncode isControl cs)))

/-- The host that a text denotes in a special scheme. -/
def ofSpecial (cs : List Char) : Except UrlError Host :=
  match bracketed? cs with
  | some result => result
  | none =>
    match domain? (decodeUtf8 (percentDecode cs)) with
    | none => .error .badDomain
    | some [] => .error .emptyHost
    | some domain =>
      if endsInNumber domain then
        match ipv4? domain with
        | some n => .ok (.ipv4 n)
        | none => .error .badIpv4
      else .ok (.name (String.ofList domain))

end Host

end HomeLedger
