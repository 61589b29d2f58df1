import HomeLedger.Proofs.Text.Digits
import HomeLedger.Proofs.Toml.Text
import HomeLedger.Toml.Read

/-!
# HomeLedger — a TOML file is read as it was written

A file is written line by line, and is read in three steps: into tokens, into
statements and into members. What the three make of the lines that are left
is told by one relation (`Leads`), with a rule for each kind of line, so that
a file is followed from its first line to its last. Places depend on all that
follows, and no rule says anything about them.

Main results:

* `scan_append` — a token in front of a text that does not go on with it.
* `writes_text`, `writes_boolean`, `writes_natural` — how values are written.
* `Leads.entry`, `Leads.header` — the rules of the lines.
* `read_lines` — a file of entries and a table is read as it was written.
-/

namespace HomeLedger.Toml

open HomeLedger.Text

-- ---------------------------------------------------------------------------
-- Tokens
-- ---------------------------------------------------------------------------

/-- Whether characters are one token when `rest` follows them. What follows
counts, since a token goes on as far as it can. -/
def IsToken (kind : TokenKind) (chars rest : List Char) : Prop :=
  ∃ c more, chars = c :: more ∧ tokenAt c (more ++ rest) = (kind, more.length)

/-- More steps than there are characters make no difference, for each step takes
a character at least. -/
theorem scanFrom_congr {n m : Nat} (place : Nat) {cs : List Char} (hn : cs.length ≤ n)
    (hm : cs.length ≤ m) : scanFrom n place cs = scanFrom m place cs := by
  induction n generalizing m place cs with
  | zero =>
    obtain rfl := List.eq_nil_of_length_eq_zero (Nat.le_zero.mp hn)
    cases m <;> rfl
  | succ n ih =>
    cases cs with
    | nil => cases m <;> rfl
    | cons c cs =>
      cases m with
      | zero => simp at hm
      | succ m =>
        rw [List.length_cons] at hn hm
        have hDrop : (cs.drop (tokenAt c cs).2).length ≤ cs.length := by
          rw [List.length_drop]
          omega
        rw [scanFrom, scanFrom]
        simp only
        rw [ih (m := m) _ (by omega) (by omega)]

/-- A token in front of a text is scanned, and then the text as it would be on
its own. Its place is told by how much there is from it to the end. -/
theorem scan_append {kind : TokenKind} {chars rest : List Char} (h : IsToken kind chars rest) :
    Token.scan (chars ++ rest) = ⟨(chars ++ rest).length, kind, chars⟩ :: Token.scan rest := by
  obtain ⟨c, more, rfl, hToken⟩ := h
  have hLength : (c :: more ++ rest).length = (more ++ rest).length + 1 := rfl
  have hPlace : (more ++ rest).length + 1 - (1 + more.length) = rest.length := by
    rw [List.length_append]
    omega
  rw [Token.scan, List.cons_append, List.length_cons, scanFrom, hToken]
  simp only [List.take_left, List.drop_left, hPlace]
  rw [scanFrom_congr _ (by simp) le_rfl]
  rfl

/-- A character that is a token by itself, whatever follows it. -/
theorem scan_mark {c : Char} {kind : TokenKind} (h : ∀ rest, tokenAt c rest = (kind, 0))
    (rest : List Char) :
    Token.scan (c :: rest) = ⟨rest.length + 1, kind, [c]⟩ :: Token.scan rest :=
  scan_append ⟨c, [], rfl, h rest⟩

-- ---------------------------------------------------------------------------
-- Words
-- ---------------------------------------------------------------------------

/-- Whether a character goes into a word, and begins one. -/
def isWordChar (c : Char) : Bool := !endsWord c && c != '"' && c != '\''

theorem tokenAt_word {c : Char} (h : isWordChar c = true) (cs : List Char) :
    tokenAt c cs = (.word, (cs.takeWhile (!endsWord ·)).length) := by
  have hSpace : ¬isSpace c = true := by
    intro hSpace
    simp [isWordChar, endsWord, hSpace] at h
  unfold tokenAt
  split
  case h_16 => rw [if_neg hSpace]
  all_goals exact absurd h (by decide)

/-- The characters that are not in words, which are few enough to look at one by
one. -/
theorem mem_of_isWordChar {c : Char} (h : isWordChar c = false) :
    c ∈ [' ', '\t', '.', '=', ',', '[', ']', '#', '\r', '\n', '\x7b', '\x7d', '"', '\''] := by
  simp only [isWordChar, endsWord, isSpace, Bool.and_eq_false_iff, Bool.not_eq_false',
    Bool.or_eq_true, bne_eq_false_iff_eq, beq_iff_eq] at h
  simp at h ⊢
  tauto

/-- Keys without quotes are words. -/
theorem isWordChar_of_isKeyChar {c : Char} (h : isKeyChar c = true) : isWordChar c = true := by
  by_contra hNot
  have hMem := mem_of_isWordChar (Bool.not_eq_true _ ▸ hNot)
  have hNone : [' ', '\t', '.', '=', ',', '[', ']', '#', '\r', '\n', '\x7b', '\x7d', '"',
      '\''].all (!isKeyChar ·) = true := by decide
  have hKey := List.all_eq_true.mp hNone c hMem
  rw [h] at hKey
  exact absurd hKey (by decide)

/-- So are numbers. -/
theorem isWordChar_of_isDigit {c : Char} (h : c.isDigit = true) : isWordChar c = true :=
  isWordChar_of_isKeyChar (by simp [isKeyChar, Char.isAlphanum, h])

/-- Characters of words are one word in front of a character that ends one, or
at the end. -/
theorem isToken_word {w rest : List Char} (hne : w ≠ []) (hw : ∀ c ∈ w, isWordChar c = true)
    (hRest : ∀ c ∈ rest.head?, endsWord c = true) : IsToken .word w rest := by
  obtain ⟨c, more, rfl⟩ := List.exists_cons_of_ne_nil hne
  obtain ⟨hc, hMore⟩ := List.forall_mem_cons.mp hw
  have hGoes : ∀ c ∈ more, (!endsWord c) = true := by
    intro c' hc'
    have hChar := hMore c' hc'
    simp only [isWordChar, Bool.and_eq_true] at hChar
    exact hChar.1.1
  have hEnds : rest.takeWhile (!endsWord ·) = [] := by
    cases rest with
    | nil => rfl
    | cons c' rest => simp [hRest c' rfl]
  refine ⟨c, more, rfl, ?_⟩
  rw [tokenAt_word hc, List.takeWhile_append_of_pos hGoes, hEnds, List.append_nil]

/-- A blank is a token of its own if no other one follows. All blanks in a row
would be one token. -/
theorem scan_blank {rest : List Char} (h : ∀ c ∈ rest.head?, isSpace c = false) :
    Token.scan (' ' :: rest) = ⟨rest.length + 1, .blank, [' ']⟩ :: Token.scan rest := by
  have hEnds : rest.takeWhile isSpace = [] := by
    cases rest with
    | nil => rfl
    | cons c rest => simp [h c rfl]
  refine scan_append ⟨' ', [], rfl, ?_⟩
  show (TokenKind.blank, (rest.takeWhile isSpace).length) = _
  rw [hEnds]

-- ---------------------------------------------------------------------------
-- Values
-- ---------------------------------------------------------------------------

/-- The kind of the token that a key or a value is. -/
def kindOf : Option TextForm → TokenKind
  | none => .word
  | some form => .text form

/-- Whether a text at the end of a line is one token, which is read as a value.
The value must not depend on the place, although an error would. -/
structure Writes (text : List Char) (v : Toml) : Prop where
  starts : ∀ c ∈ text.head?, isSpace c = false
  reads : ∃ form : Option TextForm, (∀ rest, IsToken (kindOf form) text ('\n' :: rest)) ∧
    ∀ place, value (.piece ⟨place, form, text⟩) = .ok (Piece.span ⟨place, form, text⟩, v)

/-- A text is written so that it is one token, and read as itself. The form is
chosen by what the text holds, and each form is read back by its own rules. -/
theorem writes_text (s : String) : Writes (writeText s).toList (.string s) := by
  have hFits : (formOf s.toList).Fits s.toList := fits_formOf s.toList
  rw [writeText, String.toList_ofList]
  refine ⟨?_, some (formOf s.toList), fun rest => ?_, fun place => ?_⟩
  · intro c hc
    cases hForm : formOf s.toList with
    | _ =>
      rw [hForm] at hc
      obtain rfl := Option.some.inj hc
      decide
  · exact tokenAt_write hFits rest
  · have hRead : Piece.text ⟨place, some (formOf s.toList), (formOf s.toList).write s.toList⟩
        (formOf s.toList) = .ok s := by
      unfold Piece.text
      simp only [body?_write hFits, read_content hFits, String.ofList_toList]
    rw [value]
    simp only [hRead]
    rfl

/-- Words are written as they are, and what they say is decided by the word as a
whole. -/
theorem writes_word {w : List Char} {v : Toml} (hne : w ≠ []) (hw : ∀ c ∈ w, isWordChar c = true)
    (h : ofWord? w = some v) : Writes w v := by
  refine ⟨?_, none, fun rest => isToken_word hne hw ?_, fun place => ?_⟩
  · intro c hc
    have hChar := hw c (List.mem_of_mem_head? hc)
    simp only [isWordChar, endsWord, Bool.and_eq_true, Bool.not_eq_true', Bool.or_eq_false_iff]
      at hChar
    exact hChar.1.1.1.1.1
  · intro c hc
    obtain rfl := Option.some.inj hc
    decide
  · rw [value]
    simp only [h]

theorem writes_boolean (b : Bool) :
    Writes (if b then "true" else "false").toList (.boolean b) := by
  cases b with
  | true => exact writes_word (by decide) (List.all_eq_true.mp (by decide)) rfl
  | false => exact writes_word (by decide) (List.all_eq_true.mp (by decide)) rfl

/-- Digits without a bar between them are a single group, and there is nothing
to remove from it. -/
theorem ungrouped?_digits {cs : List Char} (hne : cs ≠ []) (hcs : AllDigits cs) :
    ungrouped? 10 cs = some cs := by
  have hBar : '_' ∉ cs := fun hMem => absurd (hcs '_' hMem) (by decide)
  have hSplit : cs.splitOn '_' = [cs] := by
    have hOne : (List.intercalate ['_'] [cs]).splitOn '_' = [cs] :=
      List.splitOn_intercalate '_' (by simpa using hBar) (by simp)
    simpa using hOne
  unfold ungrouped?
  simp only [hSplit, List.all_cons, List.all_nil, Bool.and_true]
  rw [if_pos, List.flatten_cons, List.flatten_nil, List.append_nil]
  rw [Bool.and_eq_true, List.all_eq_true]
  refine ⟨by simpa using hne, fun c hc => ?_⟩
  have hBounds := toNat_of_isDigit (hcs c hc)
  have hValue : hexValue? c = some (c.toNat - 48) := if_pos (hcs c hc)
  simp only [hValue, decide_eq_true_eq]
  omega

/-- A number has no zero in front, unless it is zero itself, and so it is not
refused. -/
theorem whole?_decimal (n : Nat) : whole? (decimal n) = some (decimal n) := by
  have hZero : ¬((decimal n).head? = some '0' ∧ (decimal n).length ≠ 1) := by
    rintro ⟨hHead, hLength⟩
    by_cases hn : n = 0
    · subst hn
      exact hLength rfl
    · obtain ⟨c, cs, hCons, hc⟩ := decimal_head (Nat.pos_of_ne_zero hn)
      rw [hCons] at hHead
      exact hc (Option.some.inj hHead)
  unfold whole?
  rw [ungrouped?_digits (decimal_ne_nil n) (allDigits_decimal n)]
  simp only [Option.bind_eq_bind, Option.bind_some]
  rw [if_neg hZero]

theorem not_mem_decimal {n : Nat} {c : Char} (hc : c.isDigit = false) : c ∉ decimal n := by
  intro hMem
  rw [allDigits_decimal n c hMem] at hc
  exact absurd hc (by decide)

/-- A number without a sign or a mark of its base is read to the base of ten.
The marks are letters behind a zero, and no number of digits holds a letter. -/
theorem integer?_decimal (n : Nat) : integer? (decimal n) = some (n : Int) := by
  have hSign : splitSign (decimal n) = (none, decimal n) := by
    unfold splitSign
    split
    · next hCons => exact absurd (hCons ▸ List.mem_cons_self) (not_mem_decimal (c := '+') rfl)
    · next hCons => exact absurd (hCons ▸ List.mem_cons_self) (not_mem_decimal (c := '-') rfl)
    · rfl
  unfold integer?
  split
  · next hCons => exact absurd (by simp [hCons]) (not_mem_decimal (n := n) (c := 'x') rfl)
  · next hCons => exact absurd (by simp [hCons]) (not_mem_decimal (n := n) (c := 'o') rfl)
  · next hCons => exact absurd (by simp [hCons]) (not_mem_decimal (n := n) (c := 'b') rfl)
  · simp [hSign, whole?_decimal]

/-- A number is written by its digits. The bound is that of the integers of a
file, and what is written here is far below it. -/
theorem ofWord?_decimal {n : Nat} (h : n < 2 ^ 128) : ofWord? (decimal n) = some (.integer n) := by
  have hTrue : decimal n ≠ "true".toList :=
    fun hEq => not_mem_decimal (n := n) (c := 't') rfl (by simp [hEq])
  have hFalse : decimal n ≠ "false".toList :=
    fun hEq => not_mem_decimal (n := n) (c := 'f') rfl (by simp [hEq])
  have hFits : fitsInteger n = true := by
    simp only [fitsInteger, Bool.and_eq_true, decide_eq_true_eq]
    omega
  rw [ofWord?, if_neg hTrue, if_neg hFalse, integer?_decimal]
  simp only [hFits, if_true]

theorem writes_natural {n : Nat} (h : n < 2 ^ 128) : Writes (decimal n) (.integer n) :=
  writes_word (decimal_ne_nil n)
    (fun c hc => isWordChar_of_isDigit (allDigits_decimal n c hc)) (ofWord?_decimal h)

-- ---------------------------------------------------------------------------
-- Statements
-- ---------------------------------------------------------------------------

section Statements

variable {ts : List Token}

/-- A value at the end of a line is a piece, as it opens no list and no table in
braces. -/
theorem readContent_piece (steps place end_ : Nat) (form : Option TextForm) (text : List Char) :
    readContent (steps + 1) maxDepth (⟨place, kindOf form, text⟩ ::
      ⟨end_, .lineBreak, ['\n']⟩ :: ts) =
      .ok (.piece ⟨place, form, text⟩, ⟨end_, .lineBreak, ['\n']⟩ :: ts) := by
  cases form with
  | none => simp [readContent, kindOf, readWord]
  | some form => simp [readContent, kindOf]

/-- A key and a value on a line are an entry. -/
theorem readEntry_tokens (p₁ p₂ p₃ p₄ p₅ p₆ : Nat) (key text : List Char)
    (form : Option TextForm) : readEntry (⟨p₁, .word, key⟩ :: ⟨p₂, .blank, [' ']⟩ ::
      ⟨p₃, .equals, ['=']⟩ :: ⟨p₄, .blank, [' ']⟩ :: ⟨p₅, kindOf form, text⟩ ::
      ⟨p₆, .lineBreak, ['\n']⟩ :: ts) =
    .ok (.entry [⟨p₁, none, key⟩] (.piece ⟨p₅, form, text⟩), ts) := by
  have hBlanks : skipBlanks (⟨p₄, .blank, [' ']⟩ :: ⟨p₅, kindOf form, text⟩ ::
      ⟨p₆, .lineBreak, ['\n']⟩ :: ts) =
      ⟨p₅, kindOf form, text⟩ :: ⟨p₆, .lineBreak, ['\n']⟩ :: ts := by
    cases form <;> rfl
  have hValue : (Token.isFiller ⟨p₅, kindOf form, text⟩ || kindOf form == .comma) = false := by
    cases form <;> rfl
  have hEnd : endLine false (⟨p₆, .lineBreak, ['\n']⟩ :: ts) = .ok ts := rfl
  rw [readEntry]
  simp only [readKey, hBlanks, List.head?_cons, Option.all_some, hValue, readContent_piece,
    List.length_cons]
  rw [if_neg (by simp), if_neg Bool.false_ne_true]
  rfl

/-- An entry goes before the statements of the lines behind it. -/
theorem readStatements_word {steps place : Nat} {key : List Char} {statement : Statement}
    {rest : List Token} {statements : List Statement}
    (hEntry : readEntry (⟨place, .word, key⟩ :: ts) = .ok (statement, rest))
    (h : readStatements steps rest = .ok statements) :
    readStatements (steps + 1) (⟨place, .word, key⟩ :: ts) = .ok (statement :: statements) := by
  rw [readStatements]
  simp only [Token.isSound, Token.isFiller, hEntry]
  show (statement :: ·) <$> readStatements steps rest = _
  rw [h]
  rfl

/-- So does the header of a table behind an empty line. -/
theorem readStatements_header {steps : Nat} (p₁ p₂ p₃ p₄ p₅ : Nat) {key : List Char}
    {statements : List Statement} (h : readStatements steps ts = .ok statements) :
    readStatements (steps + 2) (⟨p₁, .lineBreak, ['\n']⟩ :: ⟨p₂, .openBracket, ['[']⟩ ::
      ⟨p₃, .word, key⟩ :: ⟨p₄, .closeBracket, [']']⟩ :: ⟨p₅, .lineBreak, ['\n']⟩ :: ts) =
      .ok (.header ⟨p₂, p₅⟩ false [⟨p₃, none, key⟩] :: statements) := by
  have hHeader : readHeader p₂ (⟨p₃, .word, key⟩ :: ⟨p₄, .closeBracket, [']']⟩ ::
      ⟨p₅, .lineBreak, ['\n']⟩ :: ts) = .ok (.header ⟨p₂, p₅⟩ false [⟨p₃, none, key⟩], ts) := rfl
  have hOpen : readStatements (steps + 1) (⟨p₂, .openBracket, ['[']⟩ ::
      ⟨p₃, .word, key⟩ :: ⟨p₄, .closeBracket, [']']⟩ :: ⟨p₅, .lineBreak, ['\n']⟩ :: ts) =
      .ok (.header ⟨p₂, p₅⟩ false [⟨p₃, none, key⟩] :: statements) := by
    rw [readStatements]
    simp only [Token.isSound, Token.isFiller, hHeader]
    show (Statement.header ⟨p₂, p₅⟩ false [⟨p₃, none, key⟩] :: ·) <$> readStatements steps ts = _
    rw [h]
    rfl
  rw [readStatements]
  exact hOpen

end Statements

-- ---------------------------------------------------------------------------
-- Lines
-- ---------------------------------------------------------------------------

/-- Whether a key needs no quotes. -/
structure IsKey (key : String) : Prop where
  nonempty : key.toList ≠ []
  chars : ∀ c ∈ key.toList, isKeyChar c = true

/-- A key is a token in front of anything that ends a word. -/
theorem IsKey.isToken {key : String} (h : IsKey key) {c : Char} (hc : endsWord c = true)
    (rest : List Char) : IsToken .word key.toList (c :: rest) := by
  refine isToken_word h.nonempty (fun c' hc' => isWordChar_of_isKeyChar (h.chars c' hc')) ?_
  intro c' hc'
  obtain rfl := Option.some.inj hc'
  exact hc

theorem IsKey.path {key : String} (h : IsKey key) (place : Nat) :
    path [⟨place, none, key.toList⟩] = .ok [key] := by
  have hKey : Piece.key ⟨place, none, key.toList⟩ = .ok key := by
    unfold Piece.key
    simp only
    rw [if_pos ⟨h.nonempty, List.all_eq_true.mpr h.chars⟩, String.ofList_toList]
  unfold Toml.path
  rw [List.mapM_cons, List.mapM_nil, hKey]
  rfl

/-- The tokens of a line with a key and a value. The places are left open, as
they depend on what follows. -/
theorem scan_entry {key text : String} {form : Option TextForm} (hKey : IsKey key)
    (hStarts : ∀ c ∈ text.toList.head?, isSpace c = false)
    (hText : ∀ rest, IsToken (kindOf form) text.toList ('\n' :: rest)) (rest : List Char) :
    ∃ p₁ p₂ p₃ p₄ p₅ p₆, Token.scan ((writeEntry key text).toList ++ rest) =
      ⟨p₁, .word, key.toList⟩ :: ⟨p₂, .blank, [' ']⟩ :: ⟨p₃, .equals, ['=']⟩ ::
        ⟨p₄, .blank, [' ']⟩ :: ⟨p₅, kindOf form, text.toList⟩ :: ⟨p₆, .lineBreak, ['\n']⟩ ::
        Token.scan rest := by
  have hChars : (writeEntry key text).toList ++ rest =
      key.toList ++ ' ' :: '=' :: ' ' :: (text.toList ++ '\n' :: rest) := by
    simp [writeEntry, toString, String.toList_append]
  have hValue : ∀ c ∈ (text.toList ++ '\n' :: rest).head?, isSpace c = false := by
    obtain ⟨first, more, hCons, -⟩ := hText []
    rw [hCons] at hStarts ⊢
    exact hStarts
  have hEquals : ∀ c ∈ ('=' :: ' ' :: (text.toList ++ '\n' :: rest)).head?, isSpace c = false := by
    intro c hc
    obtain rfl := Option.some.inj hc
    decide
  rw [hChars, scan_append (hKey.isToken (by decide) _), scan_blank hEquals,
    scan_mark (c := '=') fun _ => rfl, scan_blank hValue, scan_append (hText rest),
    scan_mark (c := '\n') fun _ => rfl]
  exact ⟨_, _, _, _, _, _, rfl⟩

theorem append?_new {key : String} {members : Members} (h : member? key members = none)
    (v : Span × Toml) : append? key v members = some (members ++ [(key, v)]) := by
  rw [append?, h]
  rfl

/-- A header with a new key opens a table behind all the others, which is the
one to be filled from there on. -/
theorem openTable_new {key : String} {root : Members} (h : member? key root = none)
    (place : Span) : openTable place [key] root =
      some (root ++ [(key, place, .table .header [])]) := by
  simp only [openTable, putAt, List.getLast?_singleton, List.dropLast_singleton, descend, h]
  exact append?_new h (place, .table .header [])

/-- Whether the lines that are left can be read, and lead from what there is to
members with a property. The number of steps is any that is enough, so that a
rule may take one and leave the others. -/
def Leads (root : Members) (filling : Filling) (cs : List Char) (result : Members → Prop) : Prop :=
  ∀ steps, cs.length < steps → ∃ statements members,
    readStatements steps (Token.scan cs) = .ok statements ∧
      carryOut root filling statements = .ok members ∧ result members

section Leads

variable {root root' members : Members} {filling filling' : Filling} {rest : List Char}
  {result : Members → Prop}

/-- At the end of a file the last table is finished. -/
theorem Leads.nil (h : finish root filling = .ok members) (hResult : result members) :
    Leads root filling [] result := by
  intro steps hSteps
  obtain ⟨k, rfl⟩ := Nat.exists_eq_succ_of_ne_zero (Nat.ne_of_gt hSteps)
  exact ⟨[], members, rfl, h, hResult⟩

/-- An entry is put into the table that is being filled. What is behind it is
read with the table as it is then, wherever the entry stands in the file. -/
theorem Leads.entry {key text : String} {v : Toml} (hKey : IsKey key)
    (hValue : Writes text.toList v)
    (hPut : ∀ place, ∃ root' filling', fill? root filling (append? key (place, v)) =
      some (root', filling') ∧ Leads root' filling' rest result) :
    Leads root filling ((writeEntry key text).toList ++ rest) result := by
  obtain ⟨hStarts, form, hToken, hRead⟩ := hValue
  obtain ⟨p₁, p₂, p₃, p₄, p₅, p₆, hScan⟩ := scan_entry hKey hStarts hToken rest
  obtain ⟨root', filling', hFill, hRest⟩ := hPut (Piece.span ⟨p₅, form, text.toList⟩)
  intro steps hSteps
  obtain ⟨k, rfl⟩ := Nat.exists_eq_succ_of_ne_zero (Nat.ne_of_gt (Nat.zero_lt_of_lt hSteps))
  -- the line takes one step, and there are characters enough to leave more than that
  have hShorter : rest.length < k := by
    have hPos : 0 < key.toList.length := List.length_pos_iff.mpr hKey.nonempty
    have hLength : (writeEntry key text).toList.length =
        key.toList.length + 3 + text.toList.length + 1 := by
      simp [writeEntry, toString, String.toList_append]
      omega
    rw [List.length_append, hLength] at hSteps
    omega
  obtain ⟨statements, members, hStatements, hCarry, hResult⟩ := hRest k hShorter
  refine ⟨.entry [⟨p₁, none, key.toList⟩] (.piece ⟨p₅, form, text.toList⟩) :: statements, members,
    ?_, ?_, hResult⟩
  · rw [hScan]
    exact readStatements_word (readEntry_tokens ..) hStatements
  · have hPut : fill? root filling (putEntry (spanOfKey [⟨p₁, none, key.toList⟩]) [key]
        (Piece.span ⟨p₅, form, text.toList⟩, v)) = some (root', filling') := hFill
    rw [carryOut, hKey.path, hRead]
    simp only [bind, Except.bind, hPut]
    exact hCarry

theorem toList_writeHeader (key : String) (rest : List Char) : (writeHeader key).toList ++ rest =
    '\n' :: '[' :: (key.toList ++ ']' :: '\n' :: rest) := by
  simp [writeHeader, toString, String.toList_append]

/-- A header begins a table that is not there yet. Everything behind it goes to
this table. -/
theorem Leads.header {key : String} (hKey : IsKey key) (hNone : member? key root = none)
    (h : ∀ place, Leads (root ++ [(key, place, .table .header [])]) (.table [key]) rest result) :
    Leads root .root ((writeHeader key).toList ++ rest) result := by
  have hScan : ∃ p₁ p₂ p₃ p₄ p₅, Token.scan ((writeHeader key).toList ++ rest) =
      ⟨p₁, .lineBreak, ['\n']⟩ :: ⟨p₂, .openBracket, ['[']⟩ :: ⟨p₃, .word, key.toList⟩ ::
        ⟨p₄, .closeBracket, [']']⟩ :: ⟨p₅, .lineBreak, ['\n']⟩ :: Token.scan rest := by
    rw [toList_writeHeader, scan_mark (c := '\n') fun _ => rfl, scan_mark (c := '[') fun _ => rfl,
      scan_append (hKey.isToken (by decide) _), scan_mark (c := ']') fun _ => rfl,
      scan_mark (c := '\n') fun _ => rfl]
    exact ⟨_, _, _, _, _, rfl⟩
  obtain ⟨p₁, p₂, p₃, p₄, p₅, hScan⟩ := hScan
  intro steps hSteps
  rw [toList_writeHeader] at hSteps
  simp only [List.length_cons, List.length_append] at hSteps
  obtain ⟨k, rfl⟩ : ∃ k, steps = k + 2 := ⟨steps - 2, by omega⟩
  obtain ⟨statements, members, hStatements, hCarry, hResult⟩ := h ⟨p₂, p₅⟩ k (by omega)
  refine ⟨.header ⟨p₂, p₅⟩ false [⟨p₃, none, key.toList⟩] :: statements, members, ?_, ?_, hResult⟩
  · rw [hScan]
    exact readStatements_header _ _ _ _ _ hStatements
  · rw [carryOut, hKey.path]
    simp only [finish, bind, Except.bind, openTable_new hNone]
    exact hCarry

end Leads

-- ---------------------------------------------------------------------------
-- Files
-- ---------------------------------------------------------------------------

/-- What the members of a table say, wherever they stand. Places are of no use
but in errors. -/
def contents (members : Members) : List (String × Toml) := members.map fun m => (m.1, m.2.2)

theorem map_fst_contents (members : Members) :
    (contents members).map (·.1) = members.map (·.1) := List.map_map

theorem member?_eq_none {key : String} {members : Members}
    (h : key ∉ (contents members).map (·.1)) : member? key members = none := by
  rw [map_fst_contents] at h
  rw [member?, Option.map_eq_none_iff, List.find?_eq_none]
  intro m hm hEq
  exact h (List.mem_map.mpr ⟨m, hm, eq_of_beq hEq⟩)

/-- A line with an entry: a key without quotes, and a value as it is written.
The two proofs say that it can be read. -/
structure Line where
  key : String
  text : String
  value : Toml
  isKey : IsKey key
  writes : Writes text.toList value

/-- The characters of a line, with its line break. -/
def Line.chars (l : Line) : List Char := (writeEntry l.key l.text).toList

/-- What a line says. -/
def Line.content (l : Line) : String × Toml := (l.key, l.value)

theorem map_fst_content (lines : List Line) :
    (lines.map (·.content)).map (·.1) = lines.map (·.key) := List.map_map

/-- Lines one after the other are put into the table that is being filled. The
members of this table determine everything that there is (`within`). -/
theorem Leads.lines (within : Members → Members × Filling) {rest : List Char}
    {result : Members → Prop}
    (hPut : ∀ members key v, member? key members = none →
      fill? (within members).1 (within members).2 (append? key v) =
        some (within (members ++ [(key, v)])))
    (lines : List Line) (members : Members)
    (hKeys : ((contents members ++ lines.map (·.content)).map (·.1)).Nodup)
    (h : ∀ members', contents members' = contents members ++ lines.map (·.content) →
      Leads (within members').1 (within members').2 rest result) :
    Leads (within members).1 (within members).2 (lines.flatMap (·.chars) ++ rest) result := by
  induction lines generalizing members with
  | nil => exact h members (List.append_nil _).symm
  | cons l lines ih =>
    have hContents : ∀ place, contents (members ++ [(l.key, place, l.value)]) =
        contents members ++ [l.content] := fun place => List.map_append
    have hNew : member? l.key members = none := by
      refine member?_eq_none fun hMem => ?_
      rw [List.map_append] at hKeys
      exact (List.nodup_append.mp hKeys).2.2 _ hMem _ List.mem_cons_self rfl
    rw [List.flatMap_cons, List.append_assoc]
    refine Leads.entry l.isKey l.writes fun place =>
      ⟨_, _, hPut members l.key (place, l.value) hNew, ?_⟩
    refine ih _ ?_ fun members' hMembers' => h members' ?_
    · rw [hContents, List.append_assoc]
      exact hKeys
    · rw [hMembers', hContents, List.append_assoc]
      rfl

/-- Entries in front of all headers go to the root. -/
theorem fill?_root {key : String} {members : Members} (h : member? key members = none)
    (v : Span × Toml) : fill? members .root (append? key v) =
      some (members ++ [(key, v)], .root) := by
  rw [fill?, append?_new h]
  rfl

/-- Entries behind a header go to its table. It is the last of the members, and
no other has its key, so nothing in front of it is changed. -/
theorem fill?_table {front members : Members} {header key : String}
    (hHeader : member? header front = none) (hKey : member? key members = none) (place : Span)
    (v : Span × Toml) :
    fill? (front ++ [(header, place, .table .header members)]) (.table [header]) (append? key v) =
      some (front ++ [(header, place, .table .header (members ++ [(key, v)]))],
        .table [header]) := by
  -- the table is the last member, and the only one of its key
  have hFind : front.find? (·.1 == header) = none := Option.map_eq_none_iff.mp hHeader
  have hThere : member? header (front ++ [(header, place, .table .header members)]) =
      some (place, .table .header members) := by
    rw [member?, List.find?_append, hFind]
    simp
  have hReplace : ∀ table : Span × Toml,
      replace header table (front ++ [(header, place, .table .header members)]) =
        front ++ [(header, table)] := by
    intro table
    have hFront : ∀ m ∈ front, (if m.1 == header then (header, table) else m) = m :=
      fun m hm => if_neg (List.find?_eq_none.mp hFind m hm)
    rw [replace, List.map_append, List.map_congr_left hFront, List.map_id']
    simp
  have hDescend : descend false default (append? key v) [header]
      (front ++ [(header, place, .table .header members)]) =
      some (front ++ [(header, place, .table .header (members ++ [(key, v)]))]) := by
    rw [descend, hThere]
    simp only [descend, append?_new hKey]
    show some (replace header _ _) = _
    rw [hReplace]
  rw [fill?, hDescend]
  rfl

/-- A text that begins with an entry or with a header has no mark that tells its
byte order, so that none is taken away from it. -/
theorem dropMark_lines (lines : List Line) {rest : List Char}
    (hRest : dropMark rest = rest) :
    dropMark (lines.flatMap (·.chars) ++ rest) = lines.flatMap (·.chars) ++ rest := by
  cases lines with
  | nil => exact hRest
  | cons l lines =>
    obtain ⟨c, cs, hCons⟩ := List.exists_cons_of_ne_nil l.isKey.nonempty
    have hc : c ≠ '\uFEFF' := by
      rintro rfl
      exact absurd (l.isKey.chars _ (hCons ▸ List.mem_cons_self)) (by decide)
    have hLine : l.chars = c :: (cs ++ (" = " ++ l.text ++ "\n").toList) := by
      simp [Line.chars, writeEntry, toString, String.toList_append, hCons]
    rw [List.flatMap_cons, hLine, List.cons_append, List.cons_append, dropMark]
    rintro cs' hCons'
    exact absurd (List.cons.inj hCons').1 hc

/-- A file of lines and a table is read as it was written. The lines go to the
root and are followed by the header, and those behind it go to the table. No key
may occur twice in either of them. -/
theorem read_lines {text header : String} {lines inner : List Line} (hHeader : IsKey header)
    (hKeys : (lines.map (·.key) ++ [header]).Nodup) (hInner : (inner.map (·.key)).Nodup)
    (hText : text.toList = lines.flatMap (·.chars) ++ ((writeHeader header).toList ++
      inner.flatMap (·.chars))) :
    ∃ front place table, read text = .ok (front ++ [(header, place, .table .header table)]) ∧
      contents front = lines.map (·.content) ∧ contents table = inner.map (·.content) := by
  -- the lines in front go to the root, the header opens the table, and the others go there
  have hLeads : Leads [] .root (lines.flatMap (·.chars) ++ ((writeHeader header).toList ++
      (inner.flatMap (·.chars) ++ []))) fun members =>
        ∃ front place table, members = front ++ [(header, place, .table .header table)] ∧
          contents front = lines.map (·.content) ∧ contents table = inner.map (·.content) := by
    refine Leads.lines (fun members => (members, .root)) (fun members key v h => fill?_root h v)
      lines [] ?_ fun front hFront => ?_
    · show ((lines.map (·.content)).map (·.1)).Nodup
      rw [map_fst_content]
      exact (List.nodup_append.mp hKeys).1
    · have hNone : member? header front = none := by
        refine member?_eq_none fun hMem => ?_
        rw [hFront] at hMem
        change header ∈ (lines.map (·.content)).map (·.1) at hMem
        rw [map_fst_content] at hMem
        exact (List.nodup_append.mp hKeys).2.2 _ hMem _ List.mem_cons_self rfl
      refine Leads.header hHeader hNone fun place => ?_
      refine Leads.lines
        (fun members => (front ++ [(header, place, .table .header members)], .table [header]))
        (fun members key v h => fill?_table hNone h place v) inner [] ?_ fun table hTable => ?_
      · show ((inner.map (·.content)).map (·.1)).Nodup
        rw [map_fst_content]
        exact hInner
      · exact Leads.nil rfl ⟨front, place, table, rfl, hFront, hTable⟩
  rw [List.append_nil, ← hText] at hLeads
  obtain ⟨statements, members, hStatements, hCarry, front, place, table, rfl, hFront, hTable⟩ :=
    hLeads _ (Nat.lt_succ_self _)
  have hMark : dropMark text.toList = text.toList := by
    rw [hText]
    refine dropMark_lines lines ?_
    rw [toList_writeHeader]
    rfl
  refine ⟨front, place, table, ?_, hFront, hTable⟩
  rw [read, hMark, outline, hStatements]
  exact hCarry

end HomeLedger.Toml
