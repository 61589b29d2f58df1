import HomeLedger.Toml.Token
import HomeLedger.Toml.Write
import Mathlib.Data.List.Infix

/-!
# HomeLedger — a text in TOML is read as it was written

A text is written in one of four forms, and a reader has to find where it
ends before it looks into it. So there are two laws for each form: the text is
scanned up to its closing quotes, and what stands between the quotes is read
as what was written.

In the forms with three quotes, up to two quotes in a row belong to the text,
also right in front of the closing ones. So the scan of such a text is
followed with the number of quotes that have just been passed.

Main results:

* `IsCode` / `escape_cases` — what an escape is for a scan and for a reader.
* `fits_formOf` — the form that is chosen for a text can hold it.
* `tokenAt_write` — a text is scanned up to its closing quotes.
* `body?_write` / `read_content` — what stands between the quotes is read.
-/

namespace HomeLedger.Toml

open HomeLedger.Text

-- ---------------------------------------------------------------------------
-- Scanning
-- ---------------------------------------------------------------------------

/-- Whether a character of a text in double quotes is scanned as itself. All
others end a line or a text, or change what follows. -/
def IsPlain (c : Char) : Prop := c ≠ '\n' ∧ c ≠ '"' ∧ c ≠ '\\'

instance (c : Char) : Decidable (IsPlain c) := inferInstanceAs (Decidable (_ ∧ _ ∧ _))

section Scan

variable {c : Char} {cs : List Char}

theorem basicLength_plain (h : IsPlain c) : basicLength (c :: cs) = basicLength cs + 1 := by
  obtain ⟨hBreak, hQuote, hSlash⟩ := h
  rw [basicLength]
  · exact hBreak
  · exact hQuote
  · rintro cs' rfl
    exact absurd rfl hSlash
  · rintro cs' rfl
    exact absurd rfl hSlash

/-- A backslash in front of a plain character is one more character. The scan
passes over both, and leaves it to the reader what they mean. -/
theorem basicLength_slash (h : IsPlain c) :
    basicLength ('\\' :: c :: cs) = basicLength cs + 2 := by
  have hSlash : basicLength ('\\' :: c :: cs) = basicLength (c :: cs) + 1 := by
    obtain ⟨-, hQuote, hSlash⟩ := h
    rw [basicLength]
    · decide
    · decide
    · rintro cs' - hCons
      exact hSlash (List.cons.inj hCons).1
    · rintro cs' - hCons
      exact hQuote (List.cons.inj hCons).1
  rw [hSlash, basicLength_plain h]

theorem basicLength_append {front : List Char} (h : ∀ c ∈ front, IsPlain c) :
    basicLength (front ++ cs) = basicLength cs + front.length := by
  induction front with
  | nil => rfl
  | cons c front ih =>
    obtain ⟨hc, hFront⟩ := List.forall_mem_cons.mp h
    rw [List.cons_append, basicLength_plain hc, ih hFront, List.length_cons, Nat.add_assoc]

/-- In a text on several lines, a line break is one more character as well. -/
theorem multiBasicLength_plain (hQuote : c ≠ '"') (hSlash : c ≠ '\\') :
    multiBasicLength (c :: cs) = multiBasicLength cs + 1 := by
  rw [multiBasicLength]
  · rintro cs' rfl
    exact absurd rfl hQuote
  · rintro cs' rfl
    exact absurd rfl hSlash
  · rintro cs' rfl
    exact absurd rfl hSlash

theorem multiBasicLength_slash (h : IsPlain c) :
    multiBasicLength ('\\' :: c :: cs) = multiBasicLength cs + 2 := by
  obtain ⟨-, hQuote, hSlash⟩ := h
  have hStep : multiBasicLength ('\\' :: c :: cs) = multiBasicLength (c :: cs) + 1 := by
    rw [multiBasicLength]
    · rintro cs' hCons
      exact absurd hCons (by decide)
    · rintro cs' - hCons
      exact hSlash (List.cons.inj hCons).1
    · rintro cs' - hCons
      exact hQuote (List.cons.inj hCons).1
  rw [hStep, multiBasicLength_plain hQuote hSlash]

theorem multiBasicLength_append {front : List Char} (h : ∀ c ∈ front, IsPlain c) :
    multiBasicLength (front ++ cs) = multiBasicLength cs + front.length := by
  induction front with
  | nil => rfl
  | cons c front ih =>
    obtain ⟨⟨-, hQuote, hSlash⟩, hFront⟩ := List.forall_mem_cons.mp h
    rw [List.cons_append, multiBasicLength_plain hQuote hSlash, ih hFront, List.length_cons,
      Nat.add_assoc]

end Scan

-- ---------------------------------------------------------------------------
-- Escapes
-- ---------------------------------------------------------------------------

/-- What stands behind the backslash of an escape of a character. It is scanned
as a whole, it does not join lines, and it is read as the character. This is all
that is used of escapes. -/
structure IsCode (code : List Char) (c : Char) : Prop where
  basicLength : ∀ rest, basicLength ('\\' :: (code ++ rest)) = basicLength rest + (code.length + 1)
  multiBasicLength : ∀ rest,
    multiBasicLength ('\\' :: (code ++ rest)) = multiBasicLength rest + (code.length + 1)
  endsLine : ∀ rest, endsLine (code ++ rest) = false
  read : ∀ rest, readEscape? (code ++ rest) = some (c, code.length)

theorem isCode_letter {letter c : Char} (h : escaped? letter = some c) : IsCode [letter] c := by
  unfold escaped? at h
  split at h <;> cases h <;> exact ⟨fun _ => rfl, fun _ => rfl, fun _ => rfl, fun _ => rfl⟩

/-- The digits of the number of a character in an escape. -/
def codeDigits (n : Nat) : List Char := (List.leftpad 4 '0' (Nat.toDigits 16 n)).map Char.toUpper

/-- Up to the last ASCII character, the number of a character has four digits to
the base of sixteen. Only such characters have an escape by number. -/
theorem codeDigits_spec : ∀ n < 128, (codeDigits n).length = 4 ∧
    (codeDigits n).all (IsPlain ·) = true ∧ ofHex? (codeDigits n) = some n ∧ n.isValidChar := by
  decide

theorem isCode_number {c : Char} (h : c.toNat < 128) : IsCode ('u' :: codeDigits c.toNat) c := by
  obtain ⟨hLength, hAll, hRead, hValid⟩ := codeDigits_spec c.toNat h
  have hPlain : ∀ d ∈ codeDigits c.toNat, IsPlain d :=
    fun d hd => of_decide_eq_true (List.all_eq_true.mp hAll d hd)
  have hu : IsPlain 'u' := by decide
  refine ⟨fun rest => ?_, fun rest => ?_, fun rest => rfl, fun rest => ?_⟩
  · rw [List.cons_append, basicLength_slash hu, basicLength_append hPlain, List.length_cons,
      Nat.add_assoc]
  · rw [List.cons_append, multiBasicLength_slash hu, multiBasicLength_append hPlain,
      List.length_cons, Nat.add_assoc]
  · have hTake : (codeDigits c.toNat ++ rest).take 4 = codeDigits c.toNat := List.take_left' hLength
    rw [List.cons_append, readEscape?, List.length_cons, hLength]
    simp only [escapeLength?, hTake, hLength, if_true, hRead, Option.bind_eq_bind, Option.bind_some,
      hValid, Char.ofNat_toNat]

/-- A character that may stand in a line stands for itself, unless it is a quote
or a backslash. All others have escapes, so that there is no text which cannot
be written. -/
theorem escape_cases (c : Char) :
    (escape c = [c] ∧ isLineChar c = true ∧ IsPlain c) ∨
      ∃ code, escape c = '\\' :: code ∧ IsCode code c := by
  unfold escape
  split
  · exact Or.inr ⟨_, rfl, isCode_letter rfl⟩
  · exact Or.inr ⟨_, rfl, isCode_letter rfl⟩
  · exact Or.inr ⟨_, rfl, isCode_letter rfl⟩
  · exact Or.inr ⟨_, rfl, isCode_letter rfl⟩
  · exact Or.inr ⟨_, rfl, isCode_letter rfl⟩
  · exact Or.inr ⟨_, rfl, isCode_letter rfl⟩
  · exact Or.inr ⟨_, rfl, isCode_letter rfl⟩
  · next hBack hTab hBreak hFeed hReturn hQuote hSlash =>
    split
    · next hLine => exact Or.inl ⟨rfl, hLine, hBreak, hQuote, hSlash⟩
    · next hLine =>
      have hAscii : c.toNat < 128 := by
        simp only [isLineChar, Bool.or_eq_true, Bool.and_eq_true, decide_eq_true_eq, bne_iff_ne,
          beq_iff_eq] at hLine
        omega
      exact Or.inr ⟨_, rfl, isCode_number hAscii⟩

-- ---------------------------------------------------------------------------
-- Texts on one line
-- ---------------------------------------------------------------------------

/-- A text with its escapes is scanned up to the quote that closes it, as no
quote in it is without a backslash. -/
theorem basicLength_escaped (cs rest : List Char) :
    basicLength (cs.flatMap escape ++ '"' :: rest) = (cs.flatMap escape).length + 1 := by
  induction cs with
  | nil => rfl
  | cons c cs ih =>
    rw [List.flatMap_cons, List.append_assoc, List.length_append]
    rcases escape_cases c with ⟨hEscape, -, hPlain⟩ | ⟨code, hEscape, hCode⟩
    · rw [hEscape, List.singleton_append, basicLength_plain hPlain, ih, List.length_singleton]
      omega
    · rw [hEscape, List.cons_append, hCode.basicLength, ih, List.length_cons]
      omega

/-- What belongs to an escape that has been read is passed over. -/
theorem readBasic_append (code rest : List Char) :
    readBasic code.length (code ++ rest) = readBasic 0 rest := by
  induction code with
  | nil => rfl
  | cons c code ih => exact ih

theorem readBasic_escaped (cs : List Char) : readBasic 0 (cs.flatMap escape) = .ok cs := by
  induction cs with
  | nil => rfl
  | cons c cs ih =>
    rw [List.flatMap_cons]
    rcases escape_cases c with ⟨hEscape, hLine, -, -, hSlash⟩ | ⟨code, hEscape, hCode⟩
    · rw [hEscape, List.singleton_append, readBasic, if_neg hSlash, if_pos hLine, ih]
      rfl
    · rw [hEscape, List.cons_append, readBasic, if_pos rfl, hCode.read]
      simp only
      rw [readBasic_append, ih]
      rfl

theorem literalLength_append {cs : List Char} (h : ∀ c ∈ cs, c ≠ '\n' ∧ c ≠ '\'')
    (rest : List Char) : literalLength (cs ++ '\'' :: rest) = cs.length + 1 := by
  induction cs with
  | nil => rfl
  | cons c cs ih =>
    obtain ⟨⟨hBreak, hQuote⟩, hcs⟩ := List.forall_mem_cons.mp h
    rw [List.cons_append, literalLength, ih hcs, List.length_cons]
    · exact hBreak
    · exact hQuote

/-- A text in single quotes is read as it stands, since nothing in it is an
escape. -/
theorem readLiteral_eq {cs : List Char} (h : ∀ c ∈ cs, isLineChar c = true) :
    readLiteral cs = .ok cs := by
  induction cs with
  | nil => rfl
  | cons c cs ih =>
    obtain ⟨hc, hcs⟩ := List.forall_mem_cons.mp h
    rw [readLiteral, if_pos hc, ih hcs]
    rfl

-- ---------------------------------------------------------------------------
-- Texts on several lines
-- ---------------------------------------------------------------------------

/-- Up to two quotes in a row are part of the text, for a scan that passes over
a quote unless two others follow it. -/
theorem length_quotes {length : List Char → Nat} {quote c : Char} {row : Nat}
    (hLength : ∀ cs, (∀ cs', cs ≠ quote :: quote :: cs') → length (quote :: cs) = length cs + 1)
    (hRow : row ≤ 2) (hc : c ≠ quote) (cs : List Char) :
    length (List.replicate row quote ++ c :: cs) = length (c :: cs) + row := by
  have hOne : length (quote :: c :: cs) = length (c :: cs) + 1 :=
    hLength _ fun cs' hCons => hc (List.cons.inj hCons).1
  have hTwo : length (quote :: quote :: c :: cs) = length (quote :: c :: cs) + 1 :=
    hLength _ fun cs' hCons => hc (List.cons.inj (List.cons.inj hCons).2).1
  have hCases : row = 0 ∨ row = 1 ∨ row = 2 := by omega
  rcases hCases with rfl | rfl | rfl
  · rfl
  · exact hOne
  · exact hTwo.trans (by rw [hOne])

/-- This is so for double quotes, whose scan looks for three of them in a
row. -/
theorem multiBasicLength_quotes {row : Nat} {c : Char} (hRow : row ≤ 2) (hc : c ≠ '"')
    (cs : List Char) : multiBasicLength (List.replicate row '"' ++ c :: cs) =
      multiBasicLength (c :: cs) + row := by
  refine length_quotes (fun cs hcs => ?_) hRow hc cs
  rw [multiBasicLength]
  · exact fun cs' _ => hcs cs'
  · rintro cs' hSlash
    exact absurd hSlash (by decide)
  · rintro cs' hSlash
    exact absurd hSlash (by decide)

/-- A text is scanned up to its closing quotes, wherever it is entered: behind a
row of quotes, no more than two. The third in a row is written with a backslash,
so there is no longer one. -/
theorem multiBasicLength_escapeLines {row : Nat} (hRow : row ≤ 2) (cs rest : List Char) :
    multiBasicLength (List.replicate row '"' ++ (escapeLines row cs ++
      '"' :: '"' :: '"' :: '\n' :: rest)) = row + (escapeLines row cs).length + 3 := by
  induction cs generalizing row with
  | nil =>
    have hCases : row = 0 ∨ row = 1 ∨ row = 2 := by omega
    rcases hCases with rfl | rfl | rfl <;> rfl
  | cons c cs ih =>
    rw [escapeLines]
    by_cases hQuote : c = '"'
    · rw [if_pos hQuote]
      by_cases hFull : row = 2
      · -- the third quote in a row has a backslash
        subst hFull
        rw [if_pos rfl, List.cons_append, List.cons_append,
          multiBasicLength_quotes (by decide) (by decide), multiBasicLength, List.length_cons,
          List.length_cons]
        have hRest := @ih 0 (by decide)
        rw [List.replicate_zero, List.nil_append] at hRest
        omega
      · have hNext := @ih (row + 1) (by omega)
        rw [if_neg hFull, List.cons_append, List.length_cons]
        rw [List.replicate_succ', List.append_assoc, List.singleton_append] at hNext
        omega
    · rw [if_neg hQuote]
      have hRest := @ih 0 (by decide)
      rw [List.replicate_zero, List.nil_append] at hRest
      by_cases hBreak : c = '\n'
      · subst hBreak
        rw [if_pos rfl, List.cons_append, multiBasicLength_quotes hRow (by decide),
          multiBasicLength_plain (by decide) (by decide), List.length_cons]
        omega
      · rw [if_neg hBreak, List.append_assoc, List.length_append]
        -- a character in the line stands for itself, or its escape is scanned as a whole
        rcases escape_cases c with ⟨hEscape, -, -, -, hSlash⟩ | ⟨code, hEscape, hCode⟩
        · rw [hEscape, List.singleton_append, multiBasicLength_quotes hRow hQuote,
            multiBasicLength_plain hQuote hSlash, List.length_singleton]
          omega
        · rw [hEscape, List.cons_append, multiBasicLength_quotes hRow (by decide),
            hCode.multiBasicLength, List.length_cons]
          omega

theorem readMultiBasic_append (code rest : List Char) :
    readMultiBasic code.length (code ++ rest) = readMultiBasic 0 rest := by
  induction code with
  | nil => rfl
  | cons c code ih => exact ih

/-- A character that stands for itself is read. -/
theorem readMultiBasic_cons {c : Char} {cs rest : List Char} (hSlash : c ≠ '\\')
    (hc : isLineChar c = true ∨ c = '\n') (h : readMultiBasic 0 rest = .ok cs) :
    readMultiBasic 0 (c :: rest) = .ok (c :: cs) := by
  have hText : isTextChar c rest = true := by
    unfold isTextChar
    rcases hc with hLine | rfl
    · simp [hLine]
    · simp
  rw [readMultiBasic, if_neg hSlash, if_pos hText, h]
  rfl

/-- So is one that has an escape. -/
theorem readMultiBasic_code {c : Char} {code cs rest : List Char} (hCode : IsCode code c)
    (h : readMultiBasic 0 rest = .ok cs) :
    readMultiBasic 0 ('\\' :: (code ++ rest)) = .ok (c :: cs) := by
  rw [readMultiBasic, if_pos rfl, hCode.endsLine, hCode.read]
  simp only [Bool.false_eq_true, if_false]
  rw [readMultiBasic_append, h]
  rfl

/-- What is read of a text on several lines is the text, quotes in a row
included. -/
theorem readMultiBasic_escapeLines (row : Nat) (cs : List Char) :
    readMultiBasic 0 (escapeLines row cs) = .ok cs := by
  induction cs generalizing row with
  | nil => rfl
  | cons c cs ih =>
    rw [escapeLines]
    by_cases hQuote : c = '"'
    · subst hQuote
      have hCode : IsCode ['"'] '"' := isCode_letter rfl
      -- the third quote in a row is read from its escape
      by_cases hFull : row = 2
      · rw [if_pos rfl, if_pos hFull]
        exact readMultiBasic_code hCode (ih 0)
      · rw [if_pos rfl, if_neg hFull]
        exact readMultiBasic_cons (by decide) (Or.inl (by decide)) (ih (row + 1))
    · rw [if_neg hQuote]
      by_cases hBreak : c = '\n'
      · subst hBreak
        rw [if_pos rfl]
        exact readMultiBasic_cons (by decide) (Or.inr rfl) (ih 0)
      · rw [if_neg hBreak]
        rcases escape_cases c with ⟨hEscape, hLine, -, -, hSlash⟩ | ⟨code, hEscape, hCode⟩
        · rw [hEscape]
          exact readMultiBasic_cons hSlash (Or.inl hLine) (ih 0)
        · rw [hEscape]
          exact readMultiBasic_code hCode (ih 0)

theorem multiLiteralLength_cons {c : Char} (hc : c ≠ '\'') (cs : List Char) :
    multiLiteralLength (c :: cs) = multiLiteralLength cs + 1 := by
  rw [multiLiteralLength]
  rintro cs' rfl
  exact absurd rfl hc

theorem multiLiteralLength_quotes {row : Nat} {c : Char} (hRow : row ≤ 2) (hc : c ≠ '\'')
    (cs : List Char) : multiLiteralLength (List.replicate row '\'' ++ c :: cs) =
      multiLiteralLength (c :: cs) + row := by
  refine length_quotes (fun cs hcs => ?_) hRow hc cs
  rw [multiLiteralLength]
  exact fun cs' _ => hcs cs'

/-- The longest row of quotes is no shorter than the one that a text begins
in. -/
theorem le_longestRow (c : Char) (row : Nat) (cs : List Char) : row ≤ longestRow c row cs := by
  induction cs generalizing row with
  | nil => exact Nat.le_refl row
  | cons d cs ih =>
    rw [longestRow]
    split
    · exact Nat.le_trans (Nat.le_succ row) (ih (row + 1))
    · exact Nat.le_max_left _ _

/-- A text in three single quotes is scanned up to its closing ones, if there is
no row of three in it. There are no escapes that could break one up. -/
theorem multiLiteralLength_append {row : Nat} {cs : List Char} (h : longestRow '\'' row cs ≤ 2)
    (rest : List Char) : multiLiteralLength (List.replicate row '\'' ++ (cs ++
      '\'' :: '\'' :: '\'' :: '\n' :: rest)) = row + cs.length + 3 := by
  have hRow : row ≤ 2 := Nat.le_trans (le_longestRow _ _ _) h
  induction cs generalizing row with
  | nil =>
    have hCases : row = 0 ∨ row = 1 ∨ row = 2 := by omega
    rcases hCases with rfl | rfl | rfl <;> rfl
  | cons c cs ih =>
    rw [longestRow] at h
    by_cases hQuote : c = '\''
    · subst hQuote
      -- a quote makes the row longer, and any other character ends it
      rw [if_pos rfl] at h
      have hNext := ih h (Nat.le_trans (le_longestRow _ _ _) h)
      rw [List.replicate_succ', List.append_assoc, List.singleton_append] at hNext
      rw [List.cons_append, List.length_cons]
      omega
    · rw [if_neg hQuote, Nat.max_le] at h
      have hRest := ih h.2 (by decide)
      rw [List.replicate_zero, List.nil_append] at hRest
      rw [List.cons_append, multiLiteralLength_quotes hRow hQuote, multiLiteralLength_cons hQuote,
        hRest, List.length_cons]
      omega

/-- A text in three single quotes is read as it stands, line breaks included. -/
theorem readMultiLiteral_eq {cs : List Char} (h : ∀ c ∈ cs, isLineChar c = true ∨ c = '\n') :
    readMultiLiteral cs = .ok cs := by
  induction cs with
  | nil => rfl
  | cons c cs ih =>
    obtain ⟨hc, hcs⟩ := List.forall_mem_cons.mp h
    have hText : isTextChar c cs = true := by
      unfold isTextChar
      rcases hc with hLine | rfl
      · simp [hLine]
      · simp
    rw [readMultiLiteral, if_pos hText, ih hcs]
    rfl

-- ---------------------------------------------------------------------------
-- Forms
-- ---------------------------------------------------------------------------

theorem ne_of_isLineChar {c : Char} (h : isLineChar c = true) : c ≠ '\n' ∧ c ≠ '\r' := by
  constructor <;> rintro rfl <;> exact absurd h (by decide)

namespace TextForm

/-- What stands between the quotes of a text, behind a line break that does not
count. -/
def content (cs : List Char) : TextForm → List Char
  | basic => cs.flatMap escape
  | literal => cs
  | multiBasic => escapeLines 0 cs
  | multiLiteral => cs

/-- Whether a form can hold a text, with escapes if it has any. Single quotes
have none, and so there are texts that they cannot hold. -/
def Fits (cs : List Char) : TextForm → Prop
  | basic | multiBasic => True
  | literal => ∀ c ∈ cs, isLineChar c = true ∧ c ≠ '\''
  | multiLiteral => (∀ c ∈ cs, isLineChar c = true ∨ c = '\n') ∧ longestRow '\'' 0 cs ≤ 2

/-- What needs no escape stands in lines, or between them. -/
theorem isLineChar_or_of_needsEscape {cs : List Char} (h : needsEscape cs = false) :
    ∀ c ∈ cs, isLineChar c = true ∨ c = '\n' := by
  intro c hc
  have hStands := (List.any_eq_false.mp h) c hc
  simp only [Bool.and_eq_true, bne_iff_ne, not_and, not_not, Bool.not_eq_true'] at hStands
  cases hLine : isLineChar c with
  | true => exact Or.inl rfl
  | false => exact Or.inr (hStands hLine)

/-- A form that is chosen because it holds a text can hold it. The forms with
escapes hold any text, so there is something to show for the two literal ones
only. -/
theorem fits_of_holds {form : TextForm} {cs : List Char} (h : form.holds cs = true) :
    form.Fits cs := by
  cases form with
  | basic => trivial
  | multiBasic => trivial
  | literal =>
    simp only [holds, Bool.and_eq_true, Bool.not_eq_true', List.contains_eq_mem,
      decide_eq_false_iff_not] at h
    obtain ⟨⟨hEscape, hQuote⟩, hBreak⟩ := h
    intro c hc
    refine ⟨(isLineChar_or_of_needsEscape hEscape c hc).resolve_right ?_, ?_⟩
    · rintro rfl
      exact hBreak hc
    · rintro rfl
      exact hQuote hc
  | multiLiteral =>
    simp only [holds, Bool.and_eq_true, Bool.not_eq_true', decide_eq_true_eq] at h
    exact ⟨isLineChar_or_of_needsEscape h.1, h.2⟩

end TextForm

open TextForm

/-- The form that is chosen for a text can hold it. If no other one does, it is
a form with escapes, which can hold every text. -/
theorem fits_formOf (cs : List Char) : (formOf cs).Fits cs := by
  unfold formOf
  split
  · next form hFind =>
    have hHolds : form.holds cs = true := List.find?_some hFind
    exact fits_of_holds hHolds
  · split <;> trivial

section Form

variable {form : TextForm} {cs : List Char}

theorem read_content (h : form.Fits cs) : form.read (form.content cs) = .ok cs := by
  cases form with
  | basic => exact readBasic_escaped cs
  | literal => exact readLiteral_eq fun c hc => (h c hc).1
  | multiBasic => exact readMultiBasic_escapeLines 0 cs
  | multiLiteral => exact readMultiLiteral_eq h.1

/-- The line break in front of a text that has others does not count, and there
is none in front of any other text. So the first line of a text is never
lost. -/
theorem dropNewline_opening {content : List Char}
    (h : '\n' ∉ cs → ∀ c ∈ content.head?, c ≠ '\n' ∧ c ≠ '\r') :
    dropNewline (opening cs ++ content) = content := by
  unfold opening
  by_cases hBreak : '\n' ∈ cs
  · rw [if_pos (by simpa using hBreak)]
    rfl
  · rw [if_neg (by simpa using hBreak), List.nil_append]
    unfold dropNewline
    split
    · exact absurd rfl (h hBreak _ rfl).1
    · exact absurd rfl (h hBreak _ rfl).2
    · rfl

/-- A text on one line does not begin with a line break when it is written. The
reader drops a line break behind three quotes, and here it finds none to
drop. -/
theorem escapeLines_head (h : '\n' ∉ cs) (rest : List Char) :
    ∀ c ∈ (escapeLines 0 cs ++ '"' :: rest).head?, c ≠ '\n' ∧ c ≠ '\r' := by
  cases cs with
  | nil =>
    intro c hc
    obtain rfl := Option.some.inj hc
    decide
  | cons c cs =>
    have hBreak : c ≠ '\n' := by
      rintro rfl
      exact h List.mem_cons_self
    rw [escapeLines, if_neg hBreak]
    -- neither a quote nor a backslash ends a line
    by_cases hQuote : c = '"'
    · rw [if_pos hQuote, if_neg (by decide)]
      intro c' hc'
      obtain rfl := Option.some.inj hc'
      decide
    · rw [if_neg hQuote]
      rcases escape_cases c with ⟨hEscape, hLine, -⟩ | ⟨code, hEscape, -⟩
      · rw [hEscape]
        intro c' hc'
        obtain rfl := Option.some.inj hc'
        exact ne_of_isLineChar hLine
      · rw [hEscape]
        intro c' hc'
        obtain rfl := Option.some.inj hc'
        decide

/-- What is written between the quotes of a text is what its reader finds there,
be there one quote on either side or three. -/
theorem body?_write (h : form.Fits cs) : form.body? (form.write cs) = some (form.content cs) := by
  -- the line break behind the quotes is dropped, if there is one
  have hInner : (if form.isMulti then dropNewline (form.writeBody cs ++ form.quotes)
      else form.writeBody cs ++ form.quotes) = form.content cs ++ form.quotes := by
    cases form with
    | basic => rfl
    | literal => rfl
    | multiBasic =>
      show dropNewline (opening cs ++ escapeLines 0 cs ++ ['"', '"', '"']) = _
      rw [List.append_assoc]
      exact dropNewline_opening fun hBreak => escapeLines_head hBreak _
    | multiLiteral =>
      show dropNewline (opening cs ++ cs ++ ['\'', '\'', '\'']) = _
      rw [List.append_assoc]
      refine dropNewline_opening fun hBreak c hc => ?_
      cases cs with
      | nil =>
        obtain rfl := Option.some.inj hc
        decide
      | cons d cs =>
        obtain rfl := Option.some.inj hc
        refine ne_of_isLineChar ((h.1 d List.mem_cons_self).resolve_right ?_)
        rintro rfl
        exact hBreak List.mem_cons_self
  have hQuotes : form.quotes.reverse = form.quotes := by cases form <;> rfl
  have hClosing : form.quotes.isPrefixOf? (form.content cs ++ form.quotes).reverse =
      some (form.content cs).reverse := by
    rw [List.reverse_append, hQuotes]
    exact List.isPrefixOf?_eq_some_iff_append_eq.mpr rfl
  unfold body? write
  simp only [List.append_assoc, List.drop_left, hInner, hClosing, Option.map_some,
    List.reverse_reverse]

/-- What does not begin with two quotes is scanned as a text on one line. The
empty text begins with one, its closing quote. -/
theorem tokenAt_basic (h : ∀ cs', cs ≠ '"' :: '"' :: cs') :
    tokenAt '"' cs = (.text .basic, basicLength cs) := by
  unfold tokenAt
  split <;> simp_all

theorem tokenAt_literal (h : ∀ cs', cs ≠ '\'' :: '\'' :: cs') :
    tokenAt '\'' cs = (.text .literal, literalLength cs) := by
  unfold tokenAt
  split <;> simp_all

/-- The closing quotes of a text are found behind the line break at its
beginning, too. The scan of either form with three quotes counts this line break
as one character. -/
theorem length_opening {length : List Char → Nat} {quote : Char} {body rest : List Char}
    (hBreak : ∀ cs', length ('\n' :: cs') = length cs' + 1)
    (hBody : length (body ++ quote :: quote :: quote :: '\n' :: rest) = body.length + 3) :
    2 + length ((opening cs ++ (body ++ [quote, quote, quote])) ++ '\n' :: rest) =
      (quote :: quote :: (opening cs ++ (body ++ [quote, quote, quote]))).length := by
  have hOpening : ∀ cs', length (opening cs ++ cs') = length cs' + (opening cs).length := by
    intro cs'
    unfold opening
    split
    · exact hBreak cs'
    · rfl
  rw [List.append_assoc, List.append_assoc, hOpening]
  simp only [List.cons_append, List.nil_append, hBody, List.length_cons, List.length_append,
    List.length_nil]
  omega

/-- A text at the end of a line is scanned up to its closing quotes, in each of
the four forms. -/
theorem tokenAt_write (h : form.Fits cs) (rest : List Char) : ∃ quote more,
    form.write cs = quote :: more ∧
      tokenAt quote (more ++ '\n' :: rest) = (.text form, more.length) := by
  cases form with
  | basic =>
    refine ⟨'"', cs.flatMap escape ++ ['"'], rfl, ?_⟩
    rw [List.append_assoc, List.singleton_append, tokenAt_basic, basicLength_escaped,
      List.length_append, List.length_singleton]
    -- the empty text has two quotes and not three, and no other one begins with a quote
    intro cs' hCons
    cases cs with
    | nil => exact absurd (List.cons.inj (List.cons.inj hCons).2).1 (by decide)
    | cons c cs =>
      rw [List.flatMap_cons] at hCons
      rcases escape_cases c with ⟨hEscape, -, -, hQuote, -⟩ | ⟨code, hEscape, -⟩
      · rw [hEscape] at hCons
        exact hQuote (List.cons.inj hCons).1
      · rw [hEscape] at hCons
        exact absurd (List.cons.inj hCons).1 (by decide)
  | literal =>
    have hPlain : ∀ c ∈ cs, c ≠ '\n' ∧ c ≠ '\'' := fun c hc =>
      ⟨(ne_of_isLineChar (h c hc).1).1, (h c hc).2⟩
    refine ⟨'\'', cs ++ ['\''], rfl, ?_⟩
    rw [List.append_assoc, List.singleton_append, tokenAt_literal, literalLength_append hPlain,
      List.length_append, List.length_singleton]
    intro cs' hCons
    cases cs with
    | nil => exact absurd (List.cons.inj (List.cons.inj hCons).2).1 (by decide)
    | cons c cs => exact (hPlain c List.mem_cons_self).2 (List.cons.inj hCons).1
  | multiBasic =>
    refine ⟨'"', '"' :: '"' :: (opening cs ++ (escapeLines 0 cs ++ ['"', '"', '"'])), ?_, ?_⟩
    · show '"' :: '"' :: '"' :: ((opening cs ++ escapeLines 0 cs) ++ ['"', '"', '"']) = _
      rw [List.append_assoc]
    · have hLength := multiBasicLength_escapeLines (Nat.zero_le 2) cs rest
      rw [List.replicate_zero, List.nil_append, Nat.zero_add] at hLength
      exact congrArg (TokenKind.text .multiBasic, ·) (length_opening (fun _ => rfl) hLength)
  | multiLiteral =>
    refine ⟨'\'', '\'' :: '\'' :: (opening cs ++ (cs ++ ['\'', '\'', '\''])), ?_, ?_⟩
    · show '\'' :: '\'' :: '\'' :: ((opening cs ++ cs) ++ ['\'', '\'', '\'']) = _
      rw [List.append_assoc]
    · have hLength := multiLiteralLength_append h.2 rest
      rw [List.replicate_zero, List.nil_append, Nat.zero_add] at hLength
      exact congrArg (TokenKind.text .multiLiteral, ·) (length_opening (fun _ => rfl) hLength)

end Form

end HomeLedger.Toml
