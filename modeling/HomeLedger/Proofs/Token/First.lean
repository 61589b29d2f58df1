import HomeLedger.Proofs.Token.Wording

/-!
# HomeLedger — texts that do not stand for themselves

A text without special characters stands for itself (`wording_plain`). Here
is the other direction: nothing else does. The scan drops the first special
character that it meets, and a token never gets more characters than were
scanned, so the first token of such a text is shorter than the text.

That is not enough for a text with another one behind it, for the first token
may go on into the second text: a quote that is left open takes in the blank
between them. But then the token has one blank more than the first text.

Main results:

* `tokenize_eq_singleton_iff` — the texts that are read as themselves.
* `tokenize_mark_iff` / `tokenize_marked_iff` — the names that are read as
  themselves behind a mark, also in front of another text.
-/

namespace HomeLedger

namespace Scan

-- ---------------------------------------------------------------------------
-- The first token
-- ---------------------------------------------------------------------------

/-- What there is of the first token. It is completed, or it is the one that is
being read. -/
def first (s : Scan) : String := s.tokens.headD s.current

/-- To end a token that is not empty completes it, so there is one. -/
theorem tokens_endToken_ne_nil {s : Scan} (h : s.current ≠ "") : s.endToken.tokens ≠ [] := by
  rw [endToken, if_neg (by simpa using h)]
  exact List.append_ne_nil_of_right_ne_nil _ (List.cons_ne_nil _ _)

theorem first_of_tokens_eq_nil {s : Scan} (h : s.tokens = []) : s.first = s.current := by
  rw [first, h, List.headD_nil]

@[simp] theorem first_endToken (s : Scan) : s.endToken.first = s.first := by
  unfold endToken
  split
  · rfl
  · cases h : s.tokens <;> simp [first, h]

/-- What a character can do: it is taken, it opens or closes something, or it
ends a token. -/
theorem step_cases (s : Scan) (c : Char) :
    s.step c = s.keep c ∨
      (∃ quote escaped, s.step c = ⟨s.tokens, s.current, quote, escaped⟩ ∧
        (c = '\\' ∨ s.quote = some c ∨ isQuote c = true) ∧
        ∀ q ∈ quote, s.quote = some q ∨ isQuote q = true) ∨
      s.step c = s.endToken ∧ isSpecial c = true := by
  unfold step
  -- the branches of a step, from what is kept to a blank
  split
  · exact .inl rfl
  · split
    · next hSlash => exact .inr (.inl ⟨s.quote, true, rfl, .inl hSlash, fun q hq => .inl hq⟩)
    · split
      · next q hQuote =>
        split
        · next hClose =>
          refine .inr (.inl ⟨none, s.escaped, rfl, .inr (.inl (hClose ▸ hQuote)), ?_⟩)
          exact fun q hq => absurd hq (by simp)
        · exact .inl rfl
      · split
        · next hOpen =>
          refine .inr (.inl ⟨some c, s.escaped, rfl, .inr (.inr hOpen), ?_⟩)
          rintro _ ⟨⟩
          exact .inr hOpen
        · split
          · next hBlank => exact .inr (.inr ⟨rfl, by rw [isSpecial, hBlank]; rfl⟩)
          · exact .inl rfl

/-- What is open behind a step was opened by a quote character, if what was open
before was. -/
theorem isQuote_of_open_step {s : Scan} (h : ∀ q ∈ s.quote, isQuote q = true) (c : Char) :
    ∀ q ∈ (s.step c).quote, isQuote q = true := by
  rcases step_cases s c with hKeep | ⟨quote, escaped, hMark, -, hQuote⟩ | ⟨hEnd, -⟩
  · rw [hKeep]
    exact h
  · rw [hMark]
    exact fun q hq => (hQuote q hq).elim (h q) id
  · rw [hEnd, quote_endToken]
    exact h

/-- The quote that is open was opened by a quote character. By induction from
where nothing is open. -/
theorem isQuote_of_open {s : Scan} (h : ∀ q ∈ s.quote, isQuote q = true) (cs : List Char) :
    ∀ q ∈ (cs.foldl step s).quote, isQuote q = true := by
  induction cs generalizing s with
  | nil => exact h
  | cons c cs ih => exact ih (isQuote_of_open_step h c)

/-- A character that is kept goes to the first token only if none is completed
yet. -/
theorem first_keep (s : Scan) (c : Char) :
    (s.keep c).first = s.first ∨ s.tokens = [] ∧ (s.keep c).first = s.first.push c := by
  cases h : s.tokens with
  | nil => exact .inr ⟨rfl, by simp [keep, first, h]⟩
  | cons token tokens => exact .inl (by simp [keep, first, h])

/-- A character leaves the first token as it is, or makes it longer by one. It
never takes anything away from it. -/
theorem first_step (s : Scan) (c : Char) :
    (s.step c).first = s.first ∨ (s.step c).first = s.first.push c := by
  rcases step_cases s c with hKeep | ⟨quote, escaped, hMark, -⟩ | ⟨hEnd, -⟩
  · rw [hKeep]
    exact (first_keep s c).imp_right And.right
  · rw [hMark]
    exact .inl rfl
  · rw [hEnd]
    exact .inl (first_endToken s)

/-- Where nothing is quoted, a special character adds nothing: it is a
backslash, a quote or a blank, and each of them does something else. -/
theorem first_step_special {s : Scan} {c : Char} (hQuote : s.quote = none)
    (hEscaped : s.escaped = false) (hSpecial : isSpecial c = true) :
    (s.step c).first = s.first := by
  unfold step
  rw [if_neg (by simp [hEscaped]), hQuote]
  split
  · rfl
  · next hSlash =>
    simp only
    split
    · rfl
    · next hOpen =>
      have hBlank : Text.isBlank c = true := by
        simpa [isSpecial, hOpen, hSlash] using hSpecial
      rw [if_pos hBlank, first_endToken]

/-- What there is of the first token is what it begins with in the end. -/
theorem first_prefix_foldl (s : Scan) (cs : List Char) :
    s.first.toList <+: (cs.foldl step s).first.toList := by
  induction cs generalizing s with
  | nil => exact List.prefix_refl _
  | cons c cs ih =>
    refine List.IsPrefix.trans ?_ (ih _)
    rcases first_step s c with hSame | hPush
    · simp only [hSame, List.prefix_refl]
    · rw [hPush, String.toList_push]
      exact List.prefix_append _ _

/-- The first token gets at most one character for each that is scanned. -/
theorem length_first_foldl_le (s : Scan) (cs : List Char) :
    (cs.foldl step s).first.length ≤ s.first.length + cs.length := by
  induction cs generalizing s with
  | nil => exact Nat.le_refl _
  | cons c cs ih =>
    have hRest := ih (s.step c)
    have hFirst : (s.step c).first.length ≤ s.first.length + 1 := by
      rcases first_step s c with hSame | hPush
      · rw [hSame]
        exact Nat.le_succ _
      · rw [hPush, String.length_push]
    rw [List.foldl_cons, List.length_cons]
    omega

/-- A special character is missing in the first token. The first one in the text
is met where nothing is quoted yet, and the others are counted as if they were
taken. -/
theorem length_first_foldl_lt {cs : List Char} (h : ∃ c ∈ cs, isSpecial c = true)
    (current : String) : (cs.foldl step ⟨[], current, none, false⟩).first.length <
      current.length + cs.length := by
  induction cs generalizing current with
  | nil => simp at h
  | cons c cs ih =>
    rw [List.foldl_cons, List.length_cons]
    cases hSpecial : isSpecial c with
    -- the character is dropped, and the rest adds no more than its length
    | true =>
      have hRest := length_first_foldl_le ((Scan.mk [] current none false).step c) cs
      rw [first_step_special rfl rfl hSpecial] at hRest
      have hCurrent : (Scan.mk [] current none false).first = current := rfl
      rw [hCurrent] at hRest
      omega
    | false =>
      obtain ⟨c', hc', hSpecial'⟩ := h
      have hMem : c' ∈ cs := by
        rcases List.mem_cons.mp hc' with rfl | hMem
        · rw [hSpecial] at hSpecial'
          exact absurd hSpecial' (by decide)
        · exact hMem
      have hPlain : (Scan.mk [] current none false).step c =
          ⟨[], current ++ String.ofList [c], none, false⟩ :=
        foldl_plain (List.forall_mem_singleton.mpr hSpecial) [] current
      have hRest := ih ⟨c', hMem, hSpecial'⟩ (current ++ String.ofList [c])
      rw [hPlain]
      rw [String.length_append, String.length_ofList, List.length_singleton] at hRest
      omega

theorem tokens_prefix_step (s : Scan) (c : Char) : s.tokens <+: (s.step c).tokens := by
  rcases step_cases s c with hKeep | ⟨quote, escaped, hMark, -⟩ | ⟨hEnd, -⟩
  · simp only [hKeep, keep, List.prefix_refl]
  · simp only [hMark, List.prefix_refl]
  · rw [hEnd, endToken]
    split
    · exact List.prefix_refl _
    · exact List.prefix_append _ _

theorem tokens_prefix_foldl (s : Scan) (cs : List Char) :
    s.tokens <+: (cs.foldl step s).tokens := by
  induction cs generalizing s with
  | nil => exact List.prefix_refl _
  | cons c cs ih => exact (tokens_prefix_step s c).trans (ih _)

/-- A token that is completed does not change, whatever is scanned behind it. -/
theorem first_foldl_of_tokens_ne_nil {s : Scan} (h : s.tokens ≠ []) (cs : List Char) :
    (cs.foldl step s).first = s.first := by
  obtain ⟨rest, hRest⟩ := tokens_prefix_foldl s cs
  rw [first, ← hRest, first]
  cases hTokens : s.tokens with
  | nil => exact absurd hTokens h
  | cons token tokens => rfl

-- ---------------------------------------------------------------------------
-- Blanks in the first token
-- ---------------------------------------------------------------------------

/-- As long as the first token is not completed, it has every blank that was
scanned. One that was not kept would have completed it. -/
theorem count_blank_foldl {cs : List Char} {s : Scan} (hCurrent : s.current ≠ "")
    (hQuote : ∀ q ∈ s.quote, isQuote q = true) (hTokens : (cs.foldl step s).tokens = []) :
    (cs.foldl step s).current.toList.count ' ' = s.current.toList.count ' ' + cs.count ' ' := by
  induction cs generalizing s with
  | nil => rfl
  | cons c cs ih =>
    have hNext := isQuote_of_open_step hQuote c
    rw [List.foldl_cons] at hTokens ⊢
    -- a character is kept and counted, or it is a mark and no blank, or it has ended the token
    rcases step_cases s c with hKeep | ⟨quote, escaped, hMark, hDropped, -⟩ | ⟨hEnd, -⟩
    · rw [hKeep] at hTokens hNext ⊢
      have hPush : (s.keep c).current = s.current.push c := rfl
      have hne : (s.keep c).current ≠ "" := by
        intro hEmpty
        have hList := congrArg String.toList (hPush.symm.trans hEmpty)
        simp at hList
      rw [ih hne hNext hTokens, hPush, String.toList_push, List.count_append,
        ← List.singleton_append (l := cs), List.count_append]
      omega
    · rw [hMark] at hTokens hNext ⊢
      have hne : c ≠ ' ' := by
        rintro rfl
        rcases hDropped with hSlash | hClose | hOpen
        · exact absurd hSlash (by decide)
        · exact absurd (hQuote _ hClose) (by decide)
        · exact absurd hOpen (by decide)
      rw [ih (s := ⟨s.tokens, s.current, quote, escaped⟩) hCurrent hNext hTokens,
        List.count_cons_of_ne hne]
    · rw [hEnd] at hTokens
      have hNone : s.endToken.tokens = [] :=
        List.prefix_nil.mp (hTokens ▸ tokens_prefix_foldl s.endToken cs)
      exact absurd hNone (tokens_endToken_ne_nil hCurrent)

/-- Inside of quotes, and behind a backslash, a blank is taken. It can close no
quote, as none was opened by a blank. -/
theorem step_blank_quoted {s : Scan} (hQuote : ∀ q ∈ s.quote, isQuote q = true)
    (hOpen : ¬(s.quote = none ∧ s.escaped = false)) : s.step ' ' = s.keep ' ' := by
  unfold step
  split
  · rfl
  · next hEscaped =>
    rw [if_neg (by decide)]
    split
    · next q hq =>
      rw [if_neg]
      rintro rfl
      exact absurd (hQuote _ hq) (by decide)
    · next hNone => exact absurd ⟨hNone, by simpa using hEscaped⟩ hOpen

/-- Behind a blank, the first token is what it was before, or it has got the
blank and so has one more than was scanned before. -/
theorem first_behind_blank {current : String} (hne : current ≠ "") {cs : List Char} {s : Scan}
    (hs : cs.foldl step ⟨[], current, none, false⟩ = s) (rest : List Char) :
    (rest.foldl step (s.step ' ')).first = s.first ∨
      current.toList.count ' ' + cs.count ' ' <
        (rest.foldl step (s.step ' ')).first.toList.count ' ' := by
  by_cases hTokens : s.tokens = []
  · have hQuote : ∀ q ∈ s.quote, isQuote q = true :=
      hs ▸ isQuote_of_open (s := ⟨[], current, none, false⟩) (by simp) cs
    have hCount : s.current.toList.count ' ' = current.toList.count ' ' + cs.count ' ' := by
      subst hs
      exact count_blank_foldl (s := ⟨[], current, none, false⟩) hne (by simp) hTokens
    -- outside of quotes the blank ends the token, and inside of them it is taken
    by_cases hOpen : s.quote = none ∧ s.escaped = false
    · left
      have hBegun : s.current ≠ "" := by
        have hPrefix := first_prefix_foldl ⟨[], current, none, false⟩ cs
        rw [hs, first_of_tokens_eq_nil hTokens] at hPrefix
        rintro hEmpty
        rw [hEmpty] at hPrefix
        exact hne (String.toList_injective (List.prefix_nil.mp hPrefix))
      rw [step_blank hOpen.1 hOpen.2 (by decide),
        first_foldl_of_tokens_ne_nil (tokens_endToken_ne_nil hBegun), first_endToken]
    · right
      rw [step_blank_quoted hQuote hOpen]
      have hKept : (s.keep ' ').first = s.current.push ' ' := first_of_tokens_eq_nil hTokens
      have hle := (first_prefix_foldl (s.keep ' ') rest).sublist.count_le ' '
      rw [hKept, String.toList_push, List.count_append, hCount, List.count_singleton_self] at hle
      omega
  · left
    obtain ⟨more, hMore⟩ := tokens_prefix_step s ' '
    have hDone : (s.step ' ').tokens ≠ [] := by
      rw [← hMore]
      exact List.append_ne_nil_of_left_ne_nil hTokens _
    rw [first_foldl_of_tokens_ne_nil hDone]
    exact first_foldl_of_tokens_ne_nil hTokens [' ']

end Scan

-- ---------------------------------------------------------------------------
-- Texts that stand for themselves
-- ---------------------------------------------------------------------------

/-- The first token of a text is what the scan has of it, for the end of the
text completes it and changes nothing. -/
theorem first_of_tokenize {text token : String} {tokens : List String}
    (h : tokenize text = token :: tokens) : (scan text.toList).first = token := by
  have hEnd : (scan text.toList).endToken.first = token := by
    have hTokens : (scan text.toList).endToken.tokens = token :: tokens := h
    rw [Scan.first, hTokens, List.headD_cons]
  rwa [Scan.first_endToken] at hEnd

/-- A text is read as itself just if it is not empty and has nothing special in
it. One direction is `wording_plain`, and in the other one a token is compared
with the text by its length. -/
theorem tokenize_eq_singleton_iff {text : String} :
    tokenize text = [text] ↔ text ≠ "" ∧ ∀ c ∈ text.toList, isSpecial c = false := by
  constructor
  · intro h
    refine ⟨ne_empty_of_mem_tokenize (h ▸ List.mem_singleton_self _), fun c hc => ?_⟩
    by_contra hSpecial
    have hShort := Scan.length_first_foldl_lt ⟨c, hc, by simpa using hSpecial⟩ ""
    have hFirst : (text.toList.foldl Scan.step ⟨[], "", none, false⟩).first = text :=
      first_of_tokenize h
    rw [hFirst, String.length_toList] at hShort
    simp at hShort
  · rintro ⟨hne, hPlain⟩
    exact tokenize_of_wording (wording_plain hne hPlain)

section Marked

variable {mark name text token : String}

/-- A mark with a name is a text without special characters just if the name
is one. -/
theorem plain_marked_iff (hMark : ∀ c ∈ mark.toList, isSpecial c = false) :
    (∀ c ∈ (mark ++ name).toList, isSpecial c = false) ↔
      ∀ c ∈ name.toList, isSpecial c = false := by
  rw [String.toList_append, List.forall_mem_append]
  exact and_iff_right hMark

theorem marked_ne_empty (hne : mark ≠ "") : mark ++ name ≠ "" := fun hEmpty =>
  hne (String.append_eq_empty_iff.mp hEmpty).1

/-- A mark with a name is read as itself just if the name has nothing special in
it. This is so for the dashes in front of flags. -/
theorem tokenize_mark_iff (hne : mark ≠ "") (hMark : ∀ c ∈ mark.toList, isSpecial c = false) :
    tokenize (mark ++ name) = [mark ++ name] ↔ ∀ c ∈ name.toList, isSpecial c = false := by
  rw [tokenize_eq_singleton_iff, and_iff_right (marked_ne_empty hne), plain_marked_iff hMark]

/-- A mark with a name, in front of a text that stands for a token, is read as
itself just if the name has nothing special in it. -/
theorem tokenize_marked_iff (hne : mark ≠ "") (hMark : ∀ c ∈ mark.toList, isSpecial c = false)
    (hText : Wording text [token]) :
    tokenize (mark ++ name ++ " " ++ text) = [mark ++ name, token] ↔
      ∀ c ∈ name.toList, isSpecial c = false := by
  constructor
  · intro h c hc
    by_contra hSpecial
    -- The scan, up to the blank between the two texts.
    generalize hs : name.toList.foldl Scan.step ⟨[], mark, none, false⟩ = s
    have hShort := Scan.length_first_foldl_lt ⟨c, hc, by simpa using hSpecial⟩ mark
    have hFirst : (text.toList.foldl Scan.step (s.step ' ')).first = mark ++ name := by
      have hScan : scan (mark ++ name ++ " " ++ text).toList =
          text.toList.foldl Scan.step (s.step ' ') := by
        have hStart : mark.toList.foldl Scan.step {} = ⟨[], mark, none, false⟩ := by
          have hPlain := Scan.foldl_plain hMark [] ""
          rwa [String.empty_append, String.ofList_toList] at hPlain
        simp only [String.toList_append, scan_append]
        rw [scan, hStart, hs]
        rfl
      rw [← hScan]
      exact first_of_tokenize h
    rw [hs] at hShort
    rcases Scan.first_behind_blank hne hs text.toList with hSame | hMore
    · rw [hFirst] at hSame
      rw [← hSame, String.length_append, String.length_toList] at hShort
      exact Nat.lt_irrefl _ hShort
    · rw [hFirst, String.toList_append, List.count_append] at hMore
      exact Nat.lt_irrefl _ hMore
  · intro hName
    have hPlain := (plain_marked_iff hMark).mpr hName
    exact tokenize_of_wording ((wording_plain (marked_ne_empty hne) hPlain).append hText)

end Marked

end HomeLedger
