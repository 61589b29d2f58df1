import HomeLedger.Proofs.Text.Utf8
import HomeLedger.Url.Basic

/-!
# HomeLedger — pairs survive a query

Names and values may hold anything, the separators `&` and `=` and the
signs `%` and `+` of the encoding included. They come back because no byte is
written as a text that holds a separator, and because a plus sign that was
meant is written as `%2B`: the pluses that are there are blanks.

Main results:

* `decode_encode` — a name or a value is what is read from its encoding.
* `read_write` — so are the pairs of a query.
* `pairs_addPairs` — and those of a URL that they were put on.
-/

namespace HomeLedger.Url

namespace Form

open Text

-- ---------------------------------------------------------------------------
-- One byte
-- ---------------------------------------------------------------------------

/-- Reads a plus sign as a blank. -/
def unplus (c : Char) : Char := if c = '+' then ' ' else c

/-- The digits of a byte in encoded form are no plus signs, and denote it. They
are written in upper case and read in either. -/
theorem percentByte_digits : ∀ n < 256,
    unplus (hexDigit (n / 16)).toUpper = (hexDigit (n / 16)).toUpper ∧
      unplus (hexDigit n).toUpper = (hexDigit n).toUpper ∧
      hexValue? (hexDigit (n / 16)).toUpper = some (n / 16) ∧
      hexValue? (hexDigit n).toUpper = some (n % 16) := by
  decide +kernel

/-- A byte that stands for itself is ASCII, and neither a blank nor a sign of
the encoding, so it is read as itself. -/
theorem isPlain_bounds : ∀ n < 256, isPlain (UInt8.ofNat n) = true →
    (Char.ofNat n).toNat = n ∧ n < 0x80 ∧ Char.ofNat n ≠ '+' ∧ Char.ofNat n ≠ '%' := by
  decide +kernel

/-- No byte is written with a separator. So a query can be cut into pairs, and a
pair into a name and a value, before anything is decoded. -/
theorem byteText_separators :
    ∀ n < 256, ∀ c ∈ byteText (UInt8.ofNat n), c ≠ '&' ∧ c ≠ '=' := by
  have hAll : ∀ n < 256, (byteText (UInt8.ofNat n)).all (fun c => c != '&' && c != '=') = true := by
    decide +kernel
  intro n hn c hc
  simpa using List.all_eq_true.mp (hAll n hn) c hc

theorem percentDecode_cons {c : Char} (h : c ≠ '%') (cs : List Char) :
    percentDecode (c :: cs) = encodeUtf8 [c] ++ percentDecode cs := by
  rw [percentDecode]
  intro a b cs' hc _
  exact h hc

/-- An ASCII character is read as its byte. -/
theorem percentDecode_ascii {c : Char} (hAscii : c.toNat < 0x80) (h : c ≠ '%') (cs : List Char) :
    percentDecode (c :: cs) = UInt8.ofNat c.toNat :: percentDecode cs := by
  rw [percentDecode_cons h, encodeUtf8, List.flatMap_singleton, utf8EncodeChar_of_ascii hAscii]
  rfl

/-- A byte is what is read from its text, whatever follows. There are three ways
in which a byte is written: as itself, as a plus sign and by two digits. -/
theorem percentDecode_byteText (b : UInt8) (cs : List Char) :
    percentDecode ((byteText b).map unplus ++ cs) = b :: percentDecode cs := by
  have hb : b.toNat < 256 := UInt8.toNat_lt b
  have hSelf : UInt8.ofNat b.toNat = b := UInt8.ofNat_toNat
  unfold byteText
  -- a blank is a plus sign, a plain byte is itself, and all others are two digits
  split
  · next hBlank =>
    rw [← hSelf, hBlank]
    exact percentDecode_ascii (by decide) (by decide) cs
  · split
    · next hPlain =>
      rw [← hSelf] at hPlain
      obtain ⟨hToNat, hAscii, hPlus, hPercent⟩ := isPlain_bounds b.toNat hb hPlain
      rw [List.map_singleton, unplus, if_neg hPlus, List.singleton_append,
        percentDecode_ascii (by omega) hPercent, hToNat, hSelf]
    · obtain ⟨hHigh, hLow, hHighValue, hLowValue⟩ := percentByte_digits b.toNat hb
      rw [percentByte, List.map_cons, List.map_cons, List.map_singleton, hHigh, hLow,
        show unplus '%' = '%' from rfl]
      simp only [List.cons_append, List.nil_append]
      rw [percentDecode, hHighValue, hLowValue]
      show UInt8.ofNat (b.toNat / 16 * 16 + b.toNat % 16) :: percentDecode cs = _
      rw [show b.toNat / 16 * 16 + b.toNat % 16 = b.toNat by omega, hSelf]

-- ---------------------------------------------------------------------------
-- Names and values
-- ---------------------------------------------------------------------------

theorem percentDecode_bytes (bytes : Bytes) :
    percentDecode ((bytes.flatMap byteText).map unplus) = bytes := by
  induction bytes with
  | nil => rfl
  | cons b bytes ih =>
    rw [List.flatMap_cons, List.map_append, percentDecode_byteText, ih]

/-- A name or a value is what is read from its encoding. It goes through its
bytes, so that it can have any characters. -/
theorem decode_encode (s : String) : decode (encode s) = s := by
  show String.ofList (decodeUtf8 (percentDecode ((encode s).map unplus))) = s
  rw [encode, percentDecode_bytes, decodeUtf8_encodeUtf8, String.ofList_toList]

/-- An encoding holds no separator. -/
theorem ne_separator_of_mem_encode {s : String} {c : Char} (h : c ∈ encode s) :
    c ≠ '&' ∧ c ≠ '=' := by
  obtain ⟨b, -, hc⟩ := List.mem_flatMap.mp h
  have hb := byteText_separators b.toNat (UInt8.toNat_lt b)
  rw [UInt8.ofNat_toNat] at hb
  exact hb c hc

-- ---------------------------------------------------------------------------
-- Pairs
-- ---------------------------------------------------------------------------

/-- A pair is what is read from its text. -/
theorem readPair_pairText (pair : String × String) : readPair (pairText pair) = pair := by
  obtain ⟨name, value⟩ := pair
  have hName : ∀ c ∈ encode name, (c != '=') = true := by
    intro c hc
    simpa using (ne_separator_of_mem_encode hc).2
  rw [readPair, pairText, List.takeWhile_append_of_pos hName, List.dropWhile_append_of_pos hName]
  simp [decode_encode]

theorem amp_notMem_pairText (pair : String × String) : '&' ∉ pairText pair := by
  intro h
  rcases List.mem_append.mp h with hName | hValue
  · exact (ne_separator_of_mem_encode hName).1 rfl
  · rcases List.mem_cons.mp hValue with hEq | hValue
    · exact absurd hEq (by decide)
    · exact (ne_separator_of_mem_encode hValue).1 rfl

/-- The pairs of a query are what is read from it. By induction on the pairs,
each of which ends at the first separator. -/
theorem read_write (pairs : List (String × String)) : read (write pairs) = pairs := by
  by_cases hPairs : pairs = []
  · subst hPairs
    rfl
  · have hSplit : (write pairs).splitOn '&' = pairs.map pairText := by
      refine List.splitOn_intercalate '&' ?_ (by simpa using hPairs)
      intro text hText
      obtain ⟨pair, -, rfl⟩ := List.mem_map.mp hText
      exact amp_notMem_pairText pair
    have hAll : (pairs.map pairText).filter (· ≠ []) = pairs.map pairText := by
      rw [List.filter_eq_self]
      intro text hText
      obtain ⟨pair, -, rfl⟩ := List.mem_map.mp hText
      simp [pairText]
    rw [read, hSplit, hAll, List.map_map]
    calc pairs.map (readPair ∘ pairText) = pairs.map id :=
          List.map_congr_left fun pair _ => readPair_pairText pair
      _ = pairs := List.map_id pairs

end Form

/-- The pairs that are put on a URL without a query are those that it has
then. -/
theorem pairs_addPairs {url : Url} (h : url.query = none) (pairs : List (String × String)) :
    (url.addPairs pairs).pairs = pairs := by
  have hQuery : (url.addPairs pairs).query = some (String.ofList (Form.write pairs)) := by
    simp [addPairs, h]
  rw [Url.pairs, hQuery, Option.getD_some, String.toList_ofList, Form.read_write]

end HomeLedger.Url
