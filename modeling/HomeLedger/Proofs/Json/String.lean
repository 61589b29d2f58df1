import HomeLedger.Json.Node
import HomeLedger.Json.Write

/-!
# HomeLedger — a string of JSON is read as it was written

Each character is written as itself, behind a backslash, or as the number of
a UTF-16 unit, and is read as one piece (`Node.pieceOf`). A number may belong
to the number behind it, but only if it is half of a surrogate pair, and the
characters that are written by their number are below the surrogates. So the
pieces can be joined one after the other.

Main results:

* `readPieces?_escape` — a character is read as its piece.
* `readString?_stringText` — a string is read as it was written.
-/

namespace HomeLedger.Node

open Json Text

-- ---------------------------------------------------------------------------
-- Characters
-- ---------------------------------------------------------------------------

/-- The characters that are written by a letter behind a backslash. -/
def lettered : List Char := ['"', '\\', '\n', '\r', '\t', '\x08', '\x0c']

/-- The piece that a character is read as: a character, or the number of one.
Only control characters without a letter of their own are written by their
number. -/
def pieceOf (c : Char) : Piece :=
  if c.toNat < 0x20 ∧ c ∉ lettered then .unit c.toNat else .char c

/-- The three ways to write a character. Everything about strings is shown by
going through them. -/
theorem escape_cases (c : Char) :
    (∃ letter ≠ 'u', escaped? letter = some c ∧ escape c = ['\\', letter] ∧
      pieceOf c = .char c) ∨
    (c.toNat < 0x20 ∧ pieceOf c = .unit c.toNat ∧
      escape c = ['\\', 'u', '0', '0', hexDigit (c.toNat / 16), hexDigit c.toNat]) ∨
    ((c ≠ '"' ∧ c ≠ '\\') ∧ ¬c.toNat < 0x20 ∧ escape c = [c] ∧ pieceOf c = .char c) := by
  by_cases hLetter : c ∈ lettered
  · left
    simp only [lettered, List.mem_cons, List.not_mem_nil, or_false] at hLetter
    rcases hLetter with rfl | rfl | rfl | rfl | rfl | rfl | rfl
    all_goals exact ⟨_, by decide, rfl, rfl, rfl⟩
  · right
    have hne := hLetter
    simp only [lettered, List.mem_cons, List.not_mem_nil, or_false, not_or] at hne
    unfold escape pieceOf
    simp only [hne, if_false]
    by_cases hControl : c.toNat < 0x20
    · rw [if_pos hControl, if_pos ⟨hControl, hLetter⟩]
      exact Or.inl ⟨hControl, rfl, rfl⟩
    · rw [if_neg hControl, if_neg fun h => hControl h.1]
      exact Or.inr ⟨⟨hne.1, hne.2.1⟩, hControl, rfl, rfl⟩

section Read

variable {cs rest : List Char} {pieces : List Piece}

theorem readPieces?_letter {letter c : Char} (hu : letter ≠ 'u') (hc : escaped? letter = some c)
    (h : readPieces? cs = some (pieces, rest)) :
    readPieces? ('\\' :: letter :: cs) = some (.char c :: pieces, rest) := by
  rw [readPieces?, hc, h]
  · rfl
  · rintro a b c' d cs' rfl
    exact absurd rfl hu

/-- A character below the space is read from its number. -/
theorem hexUnit?_control :
    ∀ n < 0x20, hexUnit? '0' '0' (hexDigit (n / 16)) (hexDigit n) = some n := by
  decide

/-- A character that is written by its number is read as this number, which may
still turn out to be half of another one. -/
theorem readPieces?_unit {a b c d : Char} {n : Nat} (hn : hexUnit? a b c d = some n)
    (h : readPieces? cs = some (pieces, rest)) :
    readPieces? ('\\' :: 'u' :: a :: b :: c :: d :: cs) = some (.unit n :: pieces, rest) := by
  rw [readPieces?, hn, h]
  rfl

theorem readPieces?_plain {c : Char} (hQuote : c ≠ '"') (hSlash : c ≠ '\\')
    (hSpace : ¬c.toNat < 0x20) (h : readPieces? cs = some (pieces, rest)) :
    readPieces? (c :: cs) = some (.char c :: pieces, rest) := by
  rw [readPieces?, if_neg (not_or.mpr ⟨hSpace, hSlash⟩), h]
  · rfl
  · exact hQuote
  · rintro a b c' d cs' rfl
    exact absurd rfl hSlash
  · rintro c' cs' rfl
    exact absurd rfl hSlash

/-- A character is read as its piece. -/
theorem readPieces?_escape (c : Char) (h : readPieces? cs = some (pieces, rest)) :
    readPieces? (escape c ++ cs) = some (pieceOf c :: pieces, rest) := by
  rcases escape_cases c with ⟨letter, hu, hc, hEscape, hPiece⟩ | ⟨hControl, hPiece, hEscape⟩ |
    ⟨⟨hQuote, hSlash⟩, hSpace, hEscape, hPiece⟩
  · rw [hEscape, hPiece]
    exact readPieces?_letter hu hc h
  · rw [hEscape, hPiece]
    exact readPieces?_unit (hexUnit?_control _ hControl) h
  · rw [hEscape, hPiece]
    exact readPieces?_plain hQuote hSlash hSpace h

/-- A string is read up to its closing quote, because a quote inside of it is
written behind a backslash. -/
theorem readPieces?_escaped (cs rest : List Char) :
    readPieces? (cs.flatMap escape ++ '"' :: rest) = some (cs.map pieceOf, rest) := by
  induction cs with
  | nil => rw [List.flatMap_nil, List.nil_append, readPieces?, List.map_nil]
  | cons c cs ih =>
    rw [List.flatMap_cons, List.append_assoc, List.map_cons]
    exact readPieces?_escape c ih

end Read

-- ---------------------------------------------------------------------------
-- Strings
-- ---------------------------------------------------------------------------

/-- A number below the surrogates is a character whatever follows it. The
characters that are written by their numbers are all below them. -/
theorem joinPieces?_unit {n : Nat} (hn : n < 0xD800) (pieces : List Piece) :
    joinPieces? (.unit n :: pieces) = (joinPieces? pieces).map (Char.ofNat n :: ·) := by
  have hFirst : ¬(0xD800 ≤ n ∧ n < 0xDC00) := by omega
  have hSecond : ¬(0xDC00 ≤ n ∧ n < 0xE000) := by omega
  have hHalf : ¬(0xD800 ≤ n ∧ n < 0xE000) := by omega
  cases pieces with
  | nil =>
    conv => lhs; unfold joinPieces?
    rw [if_neg hHalf]
  | cons piece pieces =>
    cases piece with
    | char c =>
      conv => lhs; unfold joinPieces?
      rw [if_neg hHalf]
    | unit m => rw [joinPieces?, if_neg hFirst, if_neg hSecond]

/-- Pieces of characters are joined to the characters. -/
theorem joinPieces?_pieceOf (cs : List Char) : joinPieces? (cs.map pieceOf) = some cs := by
  induction cs with
  | nil => rfl
  | cons c cs ih =>
    rw [List.map_cons]
    rcases escape_cases c with ⟨-, -, -, -, hPiece⟩ | ⟨hControl, hPiece, -⟩ | ⟨-, -, -, hPiece⟩
    · rw [hPiece, joinPieces?, ih, Option.map_some]
    · rw [hPiece, joinPieces?_unit (by omega), ih, Option.map_some, Char.ofNat_toNat]
    · rw [hPiece, joinPieces?, ih, Option.map_some]

/-- A string is read as it was written. -/
theorem readString?_stringText (s : String) (rest : List Char) :
    readString? (s.toList.flatMap escape ++ '"' :: rest) = some (some s, rest) := by
  rw [readString?, readPieces?_escaped]
  simp only [Option.bind_eq_bind, Option.bind_some, joinPieces?_pieceOf, Option.map_some,
    String.ofList_toList, pure]

end HomeLedger.Node
