import HomeLedger.Text.Utf8

/-!
# HomeLedger — a text survives its bytes

Reading takes any bytes, and puts a replacement character where they are no
text. Where they are one, nothing is replaced: what is read from the bytes
of a text is the text.

Main results:

* `frontChar_utf8EncodeChar` — the character at the front of its own bytes.
* `decodeUtf8_encodeUtf8` — a text is what is read from its bytes.
-/

namespace HomeLedger.Text

-- ---------------------------------------------------------------------------
-- One character
-- ---------------------------------------------------------------------------

/-- A character's number is not that of a surrogate and not too large. -/
theorem toNat_valid (c : Char) : c.toNat < 0xD800 ∨ 0xDFFF < c.toNat ∧ c.toNat < 0x110000 :=
  c.valid

theorem between_iff {low high n : Nat} :
    (decide (low ≤ n) && decide (n < high)) = true ↔ low ≤ n ∧ n < high := by
  rw [Bool.and_eq_true, decide_eq_true_eq, decide_eq_true_eq]

/-- The bytes of a character, by the size of its number. -/
theorem utf8EncodeChar_eq (c : Char) :
    String.utf8EncodeChar c =
      if c.toNat ≤ 0x7F then [UInt8.ofNat c.toNat]
      else if c.toNat ≤ 0x7FF then
        [UInt8.ofNat (c.toNat / 64 % 0x20 + 0xC0), UInt8.ofNat (c.toNat % 0x40 + 0x80)]
      else if c.toNat ≤ 0xFFFF then
        [UInt8.ofNat (c.toNat / 4096 % 0x10 + 0xE0), UInt8.ofNat (c.toNat / 64 % 0x40 + 0x80),
          UInt8.ofNat (c.toNat % 0x40 + 0x80)]
      else
        [UInt8.ofNat (c.toNat / 262144 % 0x08 + 0xF0),
          UInt8.ofNat (c.toNat / 4096 % 0x40 + 0x80), UInt8.ofNat (c.toNat / 64 % 0x40 + 0x80),
          UInt8.ofNat (c.toNat % 0x40 + 0x80)] := rfl

theorem toNat_byte {n : Nat} (h : n < 256) : (UInt8.ofNat n).toNat = n :=
  UInt8.toNat_ofNat_of_lt h

/-- A byte made of six bits continues a character. -/
theorem isContinuation_byte (n : Nat) : isContinuation (UInt8.ofNat (n % 0x40 + 0x80)) = true := by
  have hn : n % 0x40 < 0x40 := Nat.mod_lt _ (by decide)
  unfold isContinuation
  rw [toNat_byte (by omega), between_iff]
  omega

theorem payload_byte (n : Nat) : payload (UInt8.ofNat (n % 0x40 + 0x80)) = n % 0x40 := by
  have hn : n % 0x40 < 0x40 := Nat.mod_lt _ (by decide)
  unfold payload
  rw [toNat_byte (by omega)]
  omega

/-- The second byte fits the first where a character has three. Characters whose
numbers would fit into two bytes are refused here, and surrogates. -/
theorem secondFits_three {v : Nat} (hLow : 0x7FF < v) (hHigh : v ≤ 0xFFFF)
    (hValid : v < 0xD800 ∨ 0xDFFF < v) :
    secondFits (UInt8.ofNat (v / 4096 % 0x10 + 0xE0)) (UInt8.ofNat (v / 64 % 0x40 + 0x80)) =
      true := by
  unfold secondFits
  rw [toNat_byte (by omega), toNat_byte (by omega)]
  split <;> rw [between_iff] <;> omega

/-- The second byte fits the first where a character has four. Here it is
numbers that fit into three bytes, or are too large for a character. -/
theorem secondFits_four {v : Nat} (hLow : 0xFFFF < v) (hHigh : v < 0x110000) :
    secondFits (UInt8.ofNat (v / 262144 % 0x08 + 0xF0)) (UInt8.ofNat (v / 4096 % 0x40 + 0x80)) =
      true := by
  unfold secondFits
  rw [toNat_byte (by omega), toNat_byte (by omega)]
  split <;> rw [between_iff] <;> omega

/-- What is read at the front of a character's bytes is the character, and all
of its bytes belong to it. The cases are those of its size. -/
theorem frontChar_utf8EncodeChar (c : Char) (rest : Bytes) :
    ∃ a tail, String.utf8EncodeChar c = a :: tail ∧
      frontChar a (tail ++ rest) = (c, tail.length) := by
  have hValid := toNat_valid c
  have hSelf : Char.ofNat c.toNat = c := Char.ofNat_toNat c
  rw [utf8EncodeChar_eq]
  -- one, two, three or four bytes; in each case the first byte tells how many there are
  split
  · next h =>
    refine ⟨_, _, rfl, ?_⟩
    unfold frontChar
    rw [toNat_byte (by omega), if_pos (by omega), hSelf]
    rfl
  · split
    · next h =>
      refine ⟨_, _, rfl, ?_⟩
      unfold frontChar
      rw [toNat_byte (by omega), if_neg (by omega), if_pos (between_iff.mpr (by omega))]
      simp only [List.cons_append, List.nil_append, isContinuation_byte, payload_byte, if_true]
      rw [show (c.toNat / 64 % 0x20 + 0xC0) % 0x20 * 0x40 + c.toNat % 0x40 = c.toNat by omega,
        hSelf]
      rfl
    · split
      · next h =>
        refine ⟨_, _, rfl, ?_⟩
        have hFits := secondFits_three (v := c.toNat) (by omega) (by omega) (by omega)
        unfold frontChar
        rw [toNat_byte (by omega), if_neg (by omega), if_neg (mt between_iff.mp (by omega)),
          if_pos (between_iff.mpr (by omega))]
        simp only [List.cons_append, List.nil_append, hFits, isContinuation_byte, payload_byte,
          Bool.not_true, Bool.false_eq_true, if_false]
        rw [show (c.toNat / 4096 % 0x10 + 0xE0) % 0x10 * 0x1000 + c.toNat / 64 % 0x40 * 0x40
          + c.toNat % 0x40 = c.toNat by omega, hSelf]
        rfl
      · next h =>
        refine ⟨_, _, rfl, ?_⟩
        have hFits := secondFits_four (v := c.toNat) (by omega) (by omega)
        unfold frontChar
        rw [toNat_byte (by omega), if_neg (by omega), if_neg (mt between_iff.mp (by omega)),
          if_neg (mt between_iff.mp (by omega)), if_pos (between_iff.mpr (by omega))]
        simp only [List.cons_append, List.nil_append, hFits, isContinuation_byte, payload_byte,
          Bool.not_true, Bool.false_eq_true, if_false]
        rw [show (c.toNat / 262144 % 0x08 + 0xF0) % 0x08 * 0x40000 + c.toNat / 4096 % 0x40 * 0x1000
          + c.toNat / 64 % 0x40 * 0x40 + c.toNat % 0x40 = c.toNat by omega, hSelf]
        rfl

-- ---------------------------------------------------------------------------
-- Texts
-- ---------------------------------------------------------------------------

/-- Bytes that belong to a character already read are passed over, so that the
reader looks at the front of the next one. -/
theorem decodeUtf8From_append (read rest : Bytes) :
    decodeUtf8From read.length (read ++ rest) = decodeUtf8From 0 rest := by
  induction read with
  | nil => rfl
  | cons b read ih => exact ih

/-- The bytes of a text are those of its first character, and then those of the
others. -/
theorem encodeUtf8_cons (c : Char) (cs : List Char) :
    encodeUtf8 (c :: cs) = String.utf8EncodeChar c ++ encodeUtf8 cs :=
  List.flatMap_cons

/-- A text is what is read from its bytes. By induction on its characters, each
of which is found at the front. -/
@[simp] theorem decodeUtf8_encodeUtf8 (cs : List Char) : decodeUtf8 (encodeUtf8 cs) = cs := by
  induction cs with
  | nil => rfl
  | cons c cs ih =>
    obtain ⟨a, tail, hBytes, hFront⟩ := frontChar_utf8EncodeChar c (encodeUtf8 cs)
    rw [encodeUtf8_cons, hBytes, List.cons_append, decodeUtf8, decodeUtf8From, hFront,
      decodeUtf8From_append]
    exact congrArg (c :: ·) ih

/-- An ASCII character is one byte. -/
theorem utf8EncodeChar_of_ascii {c : Char} (h : c.toNat < 0x80) :
    String.utf8EncodeChar c = [UInt8.ofNat c.toNat] := by
  rw [utf8EncodeChar_eq, if_pos (by omega)]

end HomeLedger.Text
