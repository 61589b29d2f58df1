import HomeLedger.Text.Digits

/-!
# HomeLedger — host names in ASCII

A label of a host name that holds characters beyond ASCII is written in ASCII: its ASCII characters
first, and then, in the order of their numbers, where each of the others goes. The distance from one
to the next is a number with digits of varying weight, and the weights follow the distances that
have come before.

* `encode` writes a label, and `decode?` reads it.
-/

namespace HomeLedger.Url.Punycode

/-- A digit in base thirty-six: letters come before digits. -/
def digit (n : Nat) : Char := if n < 26 then Char.ofNat (0x61 + n) else Char.ofNat (0x30 + n - 26)

/-- How far a distance is scaled down, and in how many steps. -/
def scaleDown : Nat → Nat → Nat × Nat
  | 0, distance => (distance, 0)
  | steps + 1, distance =>
    if 455 < distance then
      let (d, k) := scaleDown steps (distance / 35)
      (d, k + 1)
    else (distance, 0)

/-- The bias of the weights after a distance. -/
def adapt (distance written : Nat) (isFirst : Bool) : Nat :=
  let d := if isFirst then distance / 700 else distance / 2
  let (d, k) := scaleDown d (d + d / written)
  36 * k + 36 * d / (d + 38)

/-- The threshold of the digit at a place. -/
def threshold (place bias : Nat) : Nat := max 1 (min 26 (36 * place - bias))

/-- The digits of a distance, from a place on. The first argument bounds their number. -/
def digits : Nat → Nat → Nat → Nat → List Char
  | 0, _, _, _ => []
  | steps + 1, place, bias, q =>
    let t := threshold place bias
    if q < t then [digit q]
    else digit (t + (q - t) % (36 - t)) :: digits steps (place + 1) bias ((q - t) / (36 - t))

/-- Where the writing stands: the distance that has piled up, the bias, and how many characters are
written. -/
structure Progress where
  distance : Nat := 0
  bias : Nat := 72
  written : Nat
  out : List Char := []

/-- Passes one character of the label while those of number `n` are written. -/
def Progress.pass (n basic : Nat) (p : Progress) (c : Char) : Progress :=
  if c.toNat < n then { p with distance := p.distance + 1 }
  else if c.toNat = n then
    { distance := 0
      bias := adapt p.distance (p.written + 1) (p.written == basic)
      written := p.written + 1
      out := p.out ++ digits (p.distance + 1) 1 p.bias p.distance }
  else p

/-- Writes the characters of each number in turn. -/
def encodeNumbers (label : List Char) (basic : Nat) : Nat → List Nat → Progress → List Char
  | _, [], p => p.out
  | least, n :: rest, p =>
    let p := { p with distance := p.distance + (n - least) * (p.written + 1) }
    let p := label.foldl (Progress.pass n basic) p
    encodeNumbers label basic (n + 1) rest { p with distance := p.distance + 1 }

/-- A label in ASCII, without the mark that tells it from an ordinary one. -/
def encode (label : List Char) : List Char :=
  let ascii := label.filter (·.toNat < 0x80)
  let numbers := ((label.map (·.toNat)).filter (0x80 ≤ ·)).mergeSort.eraseReps
  ascii ++ (if ascii.isEmpty then [] else ['-'])
    ++ encodeNumbers label ascii.length 0x80 numbers { written := ascii.length }

-- ---------------------------------------------------------------------------
-- Reading
-- ---------------------------------------------------------------------------

/-- The value of a digit. -/
def digitValue? (c : Char) : Option Nat :=
  if 'a' ≤ c ∧ c ≤ 'z' then some (c.toNat - 'a'.toNat)
  else if '0' ≤ c ∧ c ≤ '9' then some (c.toNat - '0'.toNat + 26)
  else none

/-- Adds the distance that digits denote to `sum`, where the first of them stands at `place` and
counts `weight` times. Neither number may need more than 32 bits. -/
def addDistance? (bias : Nat) : Nat → Nat → Nat → List Char → Option (Nat × List Char)
  | _, _, _, [] => none
  | place, weight, sum, c :: cs => do
    let d ← digitValue? c
    let t := threshold place bias
    let sum := sum + d * weight
    if 2 ^ 32 ≤ sum then none
    else if d < t then return (sum, cs)
    else if 2 ^ 32 ≤ weight * (36 - t) then none
    else addDistance? bias (place + 1) (weight * (36 - t)) sum cs

/-- Reads distances and puts a character into the text for each. The next one is counted from the
character of number `n` at the index `start`: behind the last index comes the first one of the next
number. The first argument bounds the number of characters. -/
def insertAll? : Nat → Nat → Nat → Nat → Bool → List Char → List Char → Option (List Char)
  | _, _, _, _, _, text, [] => some text
  | 0, _, _, _, _, _, _ => none
  | steps + 1, n, start, bias, isFirst, text, cs => do
    let (stop, rest) ← addDistance? bias 1 1 start cs
    let size := text.length + 1
    let n := n + stop / size
    if ¬ n.isValidChar then none
    else
      insertAll? steps n (stop % size + 1) (adapt (stop - start) size isFirst) false
        (text.insertIdx (stop % size) (Char.ofNat n)) rest

/-- The text that a label in small letters stands for, without the mark in front. Something has to
follow the last hyphen, and something has to stand in front of it. -/
def decode? (label : List Char) : Option (List Char) :=
  let code := (label.reverse.takeWhile (· != '-')).reverse
  let ascii := label.take (label.length - code.length - 1)
  if code = [] ∨ ¬ label.all (·.toNat < 0x80) ∨ label.head? = some '-' ∧ ascii = [] then none
  else insertAll? code.length 0x80 0 72 true ascii code

end HomeLedger.Url.Punycode
