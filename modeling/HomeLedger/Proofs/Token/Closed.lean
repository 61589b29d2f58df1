import HomeLedger.Proofs.Token.First

/-!
# HomeLedger — texts that leave nothing open

The tokens of a line are not those of its pieces: behind a quote that is open,
or a backslash at the end of a piece, the next piece is read otherwise than on
its own. A text that ends in neither way is *closed*, and it is closed texts
that can be read on their own, whatever comes behind the blanks that follow.

Two facts on the scan carry this. The tokens that it has completed do not
matter to what it does next (`Scan.foldl_behind`), so a scan that stands
between two tokens reads a text as a scan from the start does. And whatever
quote is open, it was opened by a quote character (`Scan.isQuote_of_open`), so
that neither a blank nor a backslash can close it.

Main results:

* `isClosed_iff` — behind a closed text and blanks the tokens go on with those
  of the next text, and only behind a closed one.
* `exists_push_of_escaped` / `closed_push_quote` — the two ways in which a text
  can be open, and what can be done about each.
* `closed_texts_apart` — what becomes of any text that is read in pieces.
-/

namespace HomeLedger

namespace Scan

-- ---------------------------------------------------------------------------
-- Tokens in front
-- ---------------------------------------------------------------------------

/-- The scan with more tokens completed in front of its own. This is how the
scan of a text differs when other texts were read before it. -/
def behind (s : Scan) (done : List String) : Scan := { s with tokens := done ++ s.tokens }

theorem endToken_behind (s : Scan) (done : List String) :
    (s.behind done).endToken = s.endToken.behind done := by
  unfold endToken
  rw [behind, apply_ite (behind · done)]
  simp only [behind, List.append_assoc]

/-- A step of a scan is the same behind other tokens. It looks at what is open
and at the token that it is in, and never back. -/
theorem step_behind (s : Scan) (done : List String) (c : Char) :
    (s.behind done).step c = (s.step c).behind done := by
  have hKeep : (s.behind done).keep c = (s.keep c).behind done := rfl
  have hQuote : (s.behind done).quote = s.quote := rfl
  have hEscaped : (s.behind done).escaped = s.escaped := rfl
  unfold step
  rw [hKeep, endToken_behind, hQuote, hEscaped]
  split
  · rfl
  · split
    · rfl
    · split
      · split <;> rfl
      · split
        · rfl
        · split <;> rfl

/-- What a scan does next does not depend on the tokens that it has completed.
By induction on the characters. -/
theorem foldl_behind (s : Scan) (done : List String) (cs : List Char) :
    cs.foldl step (s.behind done) = (cs.foldl step s).behind done := by
  induction cs generalizing s with
  | nil => rfl
  | cons c cs ih => rw [List.foldl_cons, step_behind, ih, List.foldl_cons]

-- ---------------------------------------------------------------------------
-- Blanks between tokens
-- ---------------------------------------------------------------------------

@[simp] theorem current_endToken (s : Scan) : s.endToken.current = "" := by
  unfold endToken
  split
  · next hEmpty => simpa using hEmpty
  · rfl

@[simp] theorem endToken_endToken (s : Scan) : s.endToken.endToken = s.endToken := by
  rw [endToken, if_pos (by simp)]

/-- Blanks end a token, and the first of them does. The others find nothing that
could be ended. -/
theorem foldl_blanks {s : Scan} (hQuote : s.quote = none) (hEscaped : s.escaped = false)
    {cs : List Char} (hne : cs ≠ []) (hBlank : Text.AllBlank cs) :
    cs.foldl step s = s.endToken := by
  obtain ⟨c, cs, rfl⟩ := List.exists_cons_of_ne_nil hne
  obtain ⟨hc, hcs⟩ := List.forall_mem_cons.mp hBlank
  rw [List.foldl_cons, step_blank hQuote hEscaped hc]
  clear hne hBlank
  -- Behind the first blank no token has begun, so that the others end none.
  induction cs with
  | nil => rfl
  | cons b cs ih =>
    obtain ⟨hb, hcs⟩ := List.forall_mem_cons.mp hcs
    rw [List.foldl_cons, step_blank (by simpa using hQuote) (by simpa using hEscaped) hb,
      endToken_endToken]
    exact ih hcs

-- ---------------------------------------------------------------------------
-- What is open
-- ---------------------------------------------------------------------------

/-- Only a backslash that nothing keeps can keep the next character. All else
that a step does leaves nothing kept. -/
theorem escaped_step {s : Scan} {c : Char} (h : (s.step c).escaped = true) :
    c = '\\' ∧ s.escaped = false ∧ s.step c = { s with escaped := true } := by
  cases hEscaped : s.escaped with
  | true =>
    have hKeep : s.step c = s.keep c := by rw [step, if_pos hEscaped]
    rw [hKeep] at h
    exact absurd h Bool.false_ne_true
  | false =>
    by_cases hSlash : c = '\\'
    · exact ⟨hSlash, rfl, by rw [step, if_neg (by simp [hEscaped]), if_pos hSlash]⟩
    -- every other branch leaves alone whether something is kept
    · have hSame : (s.step c).escaped = s.escaped := by
        unfold step
        rw [if_neg (by simp [hEscaped]), if_neg hSlash]
        split
        · split
          · rfl
          · exact hEscaped.symm
        · split
          · rfl
          · split
            · exact escaped_endToken s
            · exact hEscaped.symm
      rw [hSame, hEscaped] at h
      exact absurd h Bool.false_ne_true

/-- The character that opened a quote closes it, and it stands for nothing
itself. -/
theorem step_close {s : Scan} {q : Char} (hEscaped : s.escaped = false) (hQuote : s.quote = some q)
    (hq : isQuote q = true) : s.step q = { s with quote := none } := by
  have hSlash : q ≠ '\\' := by
    rintro rfl
    exact absurd hq (by decide)
  unfold step
  rw [if_neg (by simp [hEscaped]), if_neg hSlash, hQuote]
  simp

/-- The tokens of a text that ends here do not depend on what is open, as the
last token is completed all the same. -/
theorem tokens_endToken_open (tokens : List String) (current : String) (quote quote' : Option Char)
    (escaped escaped' : Bool) : (Scan.mk tokens current quote escaped).endToken.tokens =
      (Scan.mk tokens current quote' escaped').endToken.tokens := by
  unfold endToken
  split <;> rfl

end Scan

-- ---------------------------------------------------------------------------
-- Closed texts
-- ---------------------------------------------------------------------------

/-- Whether the scan of a text ends outside of quotes, and not behind a
backslash that would keep the next character. Only then is what follows read as
it would be on its own. -/
structure IsClosed (text : String) : Prop where
  quote : (scan text.toList).quote = none
  escaped : (scan text.toList).escaped = false

instance (text : String) : Decidable (IsClosed text) :=
  decidable_of_iff ((scan text.toList).quote = none ∧ (scan text.toList).escaped = false)
    ⟨fun h => ⟨h.1, h.2⟩, fun h => ⟨h.quote, h.escaped⟩⟩

/-- What is open at the end of a text was opened by a quote character. -/
theorem isQuote_of_scan (text : String) : ∀ q ∈ (scan text.toList).quote, Scan.isQuote q = true :=
  Scan.isQuote_of_open (s := {}) (fun q hq => absurd hq (by simp)) text.toList

/-- Behind a closed text and a blank, a scan is where one starts, but for the
tokens that it has completed. These are the tokens of the text. -/
theorem IsClosed.endToken_scan {a : String} (h : IsClosed a) :
    (scan a.toList).endToken = Scan.behind {} (tokenize a) := by
  have hEta : (scan a.toList).endToken = ⟨tokenize a, (scan a.toList).endToken.current,
      (scan a.toList).endToken.quote, (scan a.toList).endToken.escaped⟩ := rfl
  rw [hEta, Scan.current_endToken, Scan.quote_endToken, Scan.escaped_endToken, h.quote, h.escaped,
    Scan.behind, List.append_nil]

/-- Behind a closed text and blanks the tokens go on with those of the next
text. The scan of it starts from where any other would. -/
theorem IsClosed.tokenize_append {a w : String} (ha : IsClosed a) (hw : w ≠ "")
    (hBlank : Text.AllBlank w.toList) (b : String) :
    tokenize (a ++ w ++ b) = tokenize a ++ tokenize b := by
  have hne : w.toList ≠ [] := by simpa using hw
  have hScan : scan (a ++ w ++ b).toList = (scan b.toList).behind (tokenize a) := by
    rw [String.toList_append, String.toList_append, scan_append, scan_append,
      Scan.foldl_blanks ha.quote ha.escaped hne hBlank, ha.endToken_scan, Scan.foldl_behind]
    rfl
  rw [tokenize, hScan, Scan.endToken_behind]
  rfl

/-- Behind a text that is open a blank is taken into its last token. So the
condition cannot be left out. -/
theorem tokenize_blank_ne {a : String} (h : ¬IsClosed a) : tokenize (a ++ " ") ≠ tokenize a := by
  have hOpen : ¬((scan a.toList).quote = none ∧ (scan a.toList).escaped = false) :=
    fun hClosed => h ⟨hClosed.1, hClosed.2⟩
  have hKept : scan (a ++ " ").toList = (scan a.toList).keep ' ' := by
    rw [String.toList_append, scan_append]
    exact Scan.step_blank_quoted (isQuote_of_scan a) hOpen
  -- The token that is open ends with the blank, whether it had begun or not.
  have hPush : tokenize (a ++ " ") =
      (scan a.toList).tokens ++ [(scan a.toList).current.push ' '] := by
    rw [tokenize, hKept, Scan.keep, Scan.endToken_of_ne]
    intro hEmpty
    simpa using congrArg String.toList hEmpty
  rw [hPush, tokenize, Scan.endToken]
  split
  · exact fun hEq => absurd (congrArg List.length hEq) (by simp)
  · intro hEq
    have hLast := List.singleton_inj.mp (List.append_cancel_left hEq)
    exact absurd (congrArg String.length hLast) (by simp)

/-- A text is closed just if the tokens of any other text go on behind it. For
one direction the empty text is enough, behind one blank. -/
theorem isClosed_iff (a : String) : IsClosed a ↔ ∀ w b : String, w ≠ "" →
    Text.AllBlank w.toList → tokenize (a ++ w ++ b) = tokenize a ++ tokenize b := by
  constructor
  · exact fun h w b hw hBlank => h.tokenize_append hw hBlank b
  · intro h
    by_contra hOpen
    have hBlank := h " " "" (by decide) (by decide)
    have hNothing : tokenize "" = [] := rfl
    rw [String.append_empty, hNothing, List.append_nil] at hBlank
    exact tokenize_blank_ne hOpen hBlank

-- ---------------------------------------------------------------------------
-- Closing a text
-- ---------------------------------------------------------------------------

/-- A backslash at the end of a text that keeps nothing can be left out, and
the text is as open as before otherwise. -/
theorem exists_push_of_escaped {text : String} (h : (scan text.toList).escaped = true) :
    ∃ front : String, text = front.push '\\' ∧ tokenize front = tokenize text ∧
      (scan front.toList).escaped = false ∧
      (scan front.toList).quote = (scan text.toList).quote := by
  rcases List.eq_nil_or_concat text.toList with hEmpty | ⟨front, c, hLast⟩
  · rw [hEmpty] at h
    exact absurd h Bool.false_ne_true
  · have hScan : scan text.toList = (scan front).step c := by
      rw [hLast, List.concat_eq_append, scan_append]
      rfl
    rw [hScan] at h
    obtain ⟨rfl, hEscaped, hStep⟩ := Scan.escaped_step h
    refine ⟨String.ofList front, ?_, ?_, ?_, ?_⟩
    · refine String.toList_injective ?_
      rw [hLast, String.toList_push, String.toList_ofList, List.concat_eq_append]
    · rw [tokenize, tokenize, hScan, hStep, String.toList_ofList]
      exact Scan.tokens_endToken_open _ _ _ _ _ _
    · rwa [String.toList_ofList]
    · rw [hScan, hStep, String.toList_ofList]

/-- A quote that is open at the end of a text can be closed, and the tokens are
the same as without the closing quote. -/
theorem closed_push_quote {text : String} {q : Char} (hEscaped : (scan text.toList).escaped = false)
    (hQuote : (scan text.toList).quote = some q) :
    IsClosed (text.push q) ∧ tokenize (text.push q) = tokenize text := by
  have hScan : scan (text.push q).toList = { scan text.toList with quote := none } := by
    rw [String.toList_push, scan_append]
    exact Scan.step_close hEscaped hQuote (isQuote_of_scan text q hQuote)
  refine ⟨⟨?_, ?_⟩, ?_⟩
  · rw [hScan]
  · rw [hScan]
    exact hEscaped
  · rw [tokenize, tokenize, hScan]
    exact Scan.tokens_endToken_open _ _ _ _ _ _

/-- The text with nothing left open: without a backslash at its end that keeps
nothing, and with a quote behind it if one is open. -/
def closing (text : String) : String :=
  let s := scan text.toList
  let kept := if s.escaped then String.ofList text.toList.dropLast else text
  match s.quote with
  | some q => kept.push q
  | none => kept

/-- Every text can be closed, and has the tokens then that it had before. The
backslash comes first, for a quote behind it would be kept by it. -/
theorem isClosed_closing (text : String) :
    IsClosed (closing text) ∧ tokenize (closing text) = tokenize text := by
  obtain ⟨kept, hKept, hTokens, hEscaped, hQuote⟩ : ∃ kept : String,
      (if (scan text.toList).escaped then String.ofList text.toList.dropLast else text) = kept ∧
      tokenize kept = tokenize text ∧ (scan kept.toList).escaped = false ∧
      (scan kept.toList).quote = (scan text.toList).quote := by
    split
    · next h =>
      obtain ⟨front, hFront, hRest⟩ := exists_push_of_escaped h
      have hDrop : text.toList.dropLast = front.toList := by
        rw [hFront, String.toList_push, List.dropLast_concat]
      exact ⟨front, by rw [hDrop, String.ofList_toList], hRest⟩
    · next h => exact ⟨text, rfl, rfl, by simpa using h, rfl⟩
  rw [closing]
  simp only [hKept]
  cases hOpen : (scan text.toList).quote with
  | none => exact ⟨⟨hQuote.trans hOpen, hEscaped⟩, hTokens⟩
  | some q =>
    obtain ⟨hClosed, hSame⟩ := closed_push_quote hEscaped (hQuote.trans hOpen)
    exact ⟨hClosed, hSame.trans hTokens⟩

example : closing "add 'a b\\" = "add 'a b'" := by decide

-- ---------------------------------------------------------------------------
-- Lines in pieces
-- ---------------------------------------------------------------------------

/-- The tokens of a text and of any other that follows it behind blanks are
those of both texts, just if the first one is closed. Any text can be closed
with its tokens as they are: a backslash at its end that keeps nothing is left
out, and then a quote that is open gets its counterpart. And no token of a text
is empty. -/
theorem closed_texts_apart :
    (∀ a, IsClosed a ↔ ∀ w b : String, w ≠ "" → Text.AllBlank w.toList →
      tokenize (a ++ w ++ b) = tokenize a ++ tokenize b) ∧
    (∀ text, (scan text.toList).escaped = true → ∃ front : String, text = front.push '\\' ∧
      tokenize front = tokenize text ∧ (scan front.toList).escaped = false ∧
      (scan front.toList).quote = (scan text.toList).quote) ∧
    (∀ text q, (scan text.toList).escaped = false → (scan text.toList).quote = some q →
      IsClosed (text.push q) ∧ tokenize (text.push q) = tokenize text) ∧
    (∀ text, IsClosed (closing text) ∧ tokenize (closing text) = tokenize text) ∧
    ∀ text, ∀ token ∈ tokenize text, token ≠ "" :=
  ⟨isClosed_iff, fun _ => exists_push_of_escaped, fun _ _ => closed_push_quote, isClosed_closing,
    fun _ _ => ne_empty_of_mem_tokenize⟩

/-- A line that breaks off behind a backslash in quotes, and what is read
behind it when it is closed. -/
theorem broken_line_closed :
    ((scan "add 'a b\\".toList).escaped = true ∧ ∃ front : String,
      "add 'a b\\" = front.push '\\' ∧ tokenize front = ["add", "a b"]) ∧
    ((scan "add 'a b".toList).escaped = false ∧ (scan "add 'a b".toList).quote = some '\'' ∧
      IsClosed ("add 'a b".push '\'')) ∧
    tokenize ("add 'a b'" ++ "\t\u3000" ++ "c\\ d \"") = ["add", "a b", "c d"] := by
  obtain ⟨hIff, hEscaped, hQuote, -, -⟩ := closed_texts_apart
  refine ⟨⟨rfl, ?_⟩, ⟨rfl, rfl, (hQuote "add 'a b" '\'' rfl rfl).1⟩, ?_⟩
  · obtain ⟨front, hFront, hTokens, -⟩ := hEscaped "add 'a b\\" rfl
    exact ⟨front, hFront, hTokens.trans rfl⟩
  · rw [(hIff "add 'a b'").mp (by decide) "\t\u3000" _ (by decide) (by decide)]
    rfl

end HomeLedger
