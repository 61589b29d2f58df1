/-!
# HomeLedger — UTF-8

The bytes of a text, and the text of bytes that need not be valid: each longest beginning of a
character that breaks off is read as one replacement character `U+FFFD`, and reading goes on at
the byte where it broke off.
-/

namespace HomeLedger.Text

/-- A sequence of bytes. -/
abbrev Bytes := List UInt8

/-- The UTF-8 encoding of a text. -/
def encodeUtf8 (cs : List Char) : Bytes := cs.flatMap String.utf8EncodeChar

/-- Stands for bytes that are no character. -/
def replacement : Char := '\uFFFD'

/-- Whether a byte continues a character. -/
def isContinuation (b : UInt8) : Bool := 0x80 ≤ b.toNat && b.toNat < 0xC0

/-- Which second bytes may follow a lead byte of three or four: the bounds keep out overlong
forms, surrogates and numbers above `U+10FFFF`. -/
def secondFits (lead second : UInt8) : Bool :=
  let s := second.toNat
  match lead.toNat with
  | 0xE0 => 0xA0 ≤ s && s < 0xC0
  | 0xED => 0x80 ≤ s && s < 0xA0
  | 0xF0 => 0x90 ≤ s && s < 0xC0
  | 0xF4 => 0x80 ≤ s && s < 0x90
  | _ => 0x80 ≤ s && s < 0xC0

/-- The six payload bits of a continuation byte. -/
def payload (b : UInt8) : Nat := b.toNat % 0x40

/-- The character at the front of the bytes `a :: rest`, and how many bytes of `rest` belong to
it. A lead byte whose character breaks off gives the replacement character and takes the bytes
that had fitted so far. -/
def frontChar (a : UInt8) (rest : Bytes) : Char × Nat :=
  if a.toNat < 0x80 then (Char.ofNat a.toNat, 0)
  else if 0xC2 ≤ a.toNat && a.toNat < 0xE0 then
    match rest with
    | b :: _ =>
      if isContinuation b then (Char.ofNat (a.toNat % 0x20 * 0x40 + payload b), 1)
      else (replacement, 0)
    | [] => (replacement, 0)
  else if 0xE0 ≤ a.toNat && a.toNat < 0xF0 then
    match rest with
    | b :: c :: _ =>
      if !secondFits a b then (replacement, 0)
      else if !isContinuation c then (replacement, 1)
      else (Char.ofNat (a.toNat % 0x10 * 0x1000 + payload b * 0x40 + payload c), 2)
    | [b] => (replacement, if secondFits a b then 1 else 0)
    | [] => (replacement, 0)
  else if 0xF0 ≤ a.toNat && a.toNat < 0xF5 then
    match rest with
    | b :: c :: d :: _ =>
      if !secondFits a b then (replacement, 0)
      else if !isContinuation c then (replacement, 1)
      else if !isContinuation d then (replacement, 2)
      else (Char.ofNat (a.toNat % 0x08 * 0x40000 + payload b * 0x1000 + payload c * 0x40
        + payload d), 3)
    | [b, c] => (replacement, if !secondFits a b then 0 else if isContinuation c then 2 else 1)
    | [b] => (replacement, if secondFits a b then 1 else 0)
    | [] => (replacement, 0)
  else (replacement, 0)

/-- Reads bytes as UTF-8, where the first `skip` bytes belong to a character already read. -/
def decodeUtf8From : Nat → Bytes → List Char
  | _, [] => []
  | skip + 1, _ :: rest => decodeUtf8From skip rest
  | 0, a :: rest => (frontChar a rest).1 :: decodeUtf8From (frontChar a rest).2 rest

/-- Reads bytes as UTF-8, with a replacement character for each part that is none. -/
def decodeUtf8 (bytes : Bytes) : List Char := decodeUtf8From 0 bytes

end HomeLedger.Text
