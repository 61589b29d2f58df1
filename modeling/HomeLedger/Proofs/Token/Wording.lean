import HomeLedger.Proofs.Text.Blank
import HomeLedger.Token
import Mathlib.Data.List.Forall2

/-!
# HomeLedger — texts that stand for tokens

A line is put together from texts with blanks between them, and each of them
stands for some tokens wherever it is put (`Wording`). That a scan reads
these tokens is a statement on a scan that stands between two tokens, with
any tokens behind it, and such statements can be joined: after a text comes a
blank or the end, and either ends its last token.

Main results:

* `wording_plain` / `wording_quote` — a text without special characters
  stands for itself, and any text stands in quotes.
* `wording_intercalate` — texts with blanks between them stand for the tokens
  of all of them.
* `tokenize_of_wording` — a line has the tokens that it stands for.
* `ne_empty_of_mem_tokenize` — no token is empty.
* `tokenize_intercalate_quote` — texts that are quoted and joined are read
  again.
-/

namespace HomeLedger

namespace Scan

-- ---------------------------------------------------------------------------
-- The end of a token
-- ---------------------------------------------------------------------------

@[simp] theorem quote_endToken (s : Scan) : s.endToken.quote = s.quote := by
  unfold endToken
  split <;> rfl

@[simp] theorem escaped_endToken (s : Scan) : s.endToken.escaped = s.escaped := by
  unfold endToken
  split <;> rfl

theorem endToken_of_ne {done : List String} {current : String} {quote : Option Char}
    {escaped : Bool} (h : current ≠ "") : (Scan.mk done current quote escaped).endToken =
      ⟨done ++ [current], "", quote, escaped⟩ := by
  unfold endToken
  rw [if_neg (by simpa using h)]

/-- A blank ends a token, unless it is kept by a quote or by a backslash. -/
theorem step_blank {s : Scan} {c : Char} (hQuote : s.quote = none) (hEscaped : s.escaped = false)
    (hBlank : Text.isBlank c = true) : s.step c = s.endToken := by
  have hSlash : c ≠ '\\' := Text.ne_of_isBlank hBlank (by decide)
  have hOpen : isQuote c = false := by
    rw [isQuote, Bool.or_eq_false_iff, beq_eq_false_iff_ne, beq_eq_false_iff_ne]
    exact ⟨Text.ne_of_isBlank hBlank (by decide), Text.ne_of_isBlank hBlank (by decide)⟩
  unfold step
  rw [if_neg (by simp [hEscaped]), if_neg hSlash, hQuote]
  simp only
  rw [if_neg (by simp [hOpen]), if_pos hBlank]

-- ---------------------------------------------------------------------------
-- Characters
-- ---------------------------------------------------------------------------

theorem push_append (s : String) (c : Char) (cs : List Char) :
    s.push c ++ String.ofList cs = s ++ String.ofList (c :: cs) := by
  refine String.toList_injective ?_
  simp [String.toList_append]

/-- Characters that are not special are kept, and nothing is open behind them.
By induction on the characters, for any token that they are added to. -/
theorem foldl_plain {cs : List Char} (h : ∀ c ∈ cs, isSpecial c = false) (done : List String)
    (current : String) : cs.foldl step ⟨done, current, none, false⟩ =
      ⟨done, current ++ String.ofList cs, none, false⟩ := by
  induction cs generalizing current with
  | nil => simp
  | cons c cs ih =>
    have hc : isSpecial c = false := h c List.mem_cons_self
    simp only [isSpecial, Bool.or_eq_false_iff, beq_eq_false_iff_ne] at hc
    obtain ⟨⟨hBlank, hQuote⟩, hSlash⟩ := hc
    have hStep : (Scan.mk done current none false).step c =
        ⟨done, current.push c, none, false⟩ := by
      unfold step
      rw [if_neg Bool.false_ne_true, if_neg hSlash]
      simp only [hQuote, hBlank, Bool.false_eq_true, if_false, keep]
    rw [List.foldl_cons, hStep, ih (fun c' hc' => h c' (List.mem_cons_of_mem _ hc')), push_append]

/-- Between double quotes every character is kept, some of them behind a
backslash. These are the two that would be read otherwise there. -/
theorem foldl_escaped (cs : List Char) (done : List String) (current : String) :
    (cs.flatMap escapeChar).foldl step ⟨done, current, some '"', false⟩ =
      ⟨done, current ++ String.ofList cs, some '"', false⟩ := by
  induction cs generalizing current with
  | nil => simp
  | cons c cs ih =>
    have hStep : (escapeChar c).foldl step ⟨done, current, some '"', false⟩ =
        ⟨done, current.push c, some '"', false⟩ := by
      unfold escapeChar
      split
      · rfl
      · next h =>
        obtain ⟨hQuote, hSlash⟩ := not_or.mp h
        simp [step, hQuote, hSlash, keep]
    rw [List.flatMap_cons, List.foldl_append, hStep, ih, push_append]

-- ---------------------------------------------------------------------------
-- Tokens are not empty
-- ---------------------------------------------------------------------------

/-- No token that a scan has completed is empty. -/
def Filled (s : Scan) : Prop := ∀ token ∈ s.tokens, token ≠ ""

theorem Filled.endToken {s : Scan} (h : s.Filled) : s.endToken.Filled := by
  unfold Scan.endToken
  split
  · exact h
  · next hne =>
    intro token hToken
    rcases List.mem_append.mp hToken with hMem | hMem
    · exact h token hMem
    · obtain rfl := List.mem_singleton.mp hMem
      simpa using hne

/-- No step completes a token that is empty, since only the end of a token
completes one. -/
theorem Filled.step {s : Scan} (h : s.Filled) (c : Char) : (s.step c).Filled := by
  unfold Scan.step
  split
  · exact h
  · split
    · exact h
    · split
      · split <;> exact h
      · split
        · exact h
        · split
          · exact h.endToken
          · exact h

theorem Filled.foldl {s : Scan} (h : s.Filled) (cs : List Char) :
    (cs.foldl Scan.step s).Filled := by
  induction cs generalizing s with
  | nil => exact h
  | cons c cs ih => exact ih (h.step c)

end Scan

/-- No token of a line is empty. A pair of quotes with nothing in between leaves
no token. -/
theorem ne_empty_of_mem_tokenize {line token : String} (h : token ∈ tokenize line) :
    token ≠ "" := by
  have hStart : Scan.Filled {} := by
    intro token hToken
    simp at hToken
  exact (hStart.foldl line.toList).endToken token h

-- ---------------------------------------------------------------------------
-- Wordings
-- ---------------------------------------------------------------------------

/-- Whether a text stands for tokens: a scan that stands between two tokens
reads them, and the text begins and ends with something that is no blank. -/
structure Wording (text : String) (tokens : List String) : Prop where
  scanned : ∀ done, (text.toList.foldl Scan.step ⟨done, "", none, false⟩).endToken =
    ⟨done ++ tokens, "", none, false⟩
  trimmed : Text.IsTrimmed text.toList
  nonempty : text.toList ≠ []

/-- That nothing in a text is special can be checked, character by character. -/
theorem plain_of_all {text : String} (h : text.toList.all (!isSpecial ·) = true) :
    ∀ c ∈ text.toList, isSpecial c = false := by
  intro c hc
  simpa using List.all_eq_true.mp h c hc

/-- A text without special characters stands for itself. Nothing in it opens
anything or ends a token. -/
theorem wording_plain {text : String} (hne : text ≠ "")
    (h : ∀ c ∈ text.toList, isSpecial c = false) : Wording text [text] := by
  refine ⟨?_, .of_forall ?_, by simpa using hne⟩
  · intro done
    rw [Scan.foldl_plain h, String.empty_append, String.ofList_toList, Scan.endToken_of_ne hne]
  · intro c hc
    have := h c hc
    simp only [isSpecial, Bool.or_eq_false_iff] at this
    exact this.1.1

/-- Every text but the empty one stands for itself between double quotes. What
is special in it is escaped, and the quotes around it are not part of the
token. -/
theorem wording_escaped {text : String} (hne : text ≠ "") :
    Wording (String.ofList ('"' :: text.toList.flatMap escapeChar ++ ['"'])) [text] := by
  have hList : (String.ofList ('"' :: text.toList.flatMap escapeChar ++ ['"'])).toList =
      ['"'] ++ (text.toList.flatMap escapeChar ++ ['"']) := String.toList_ofList
  have hMark : Text.IsTrimmed ['"'] := .of_forall (List.forall_mem_singleton.mpr (by decide))
  refine ⟨?_, ?_, by rw [hList]; exact List.cons_ne_nil _ _⟩
  · intro done
    have hOpen : (Scan.mk done "" none false).step '"' = ⟨done, "", some '"', false⟩ := rfl
    have hClose : (Scan.mk done text (some '"') false).step '"' = ⟨done, text, none, false⟩ := rfl
    rw [hList, List.singleton_append, List.foldl_cons, hOpen, List.foldl_append,
      Scan.foldl_escaped, String.empty_append, String.ofList_toList, List.foldl_cons, hClose,
      List.foldl_nil, Scan.endToken_of_ne hne]
  · rw [hList]
    exact hMark.append hMark (List.cons_ne_nil _ _) (List.cons_ne_nil _ _) _

/-- Every text but the empty one stands for itself when it is quoted, be it that
it gets quotes or that it needs none. -/
theorem wording_quote {text : String} (hne : text ≠ "") : Wording (quote text) [text] := by
  unfold quote
  split
  · exact wording_escaped hne
  · next h =>
    simp only [Bool.or_eq_true, not_or, Bool.not_eq_true, List.any_eq_false] at h
    exact wording_plain hne fun c hc => by simpa using h.2 c hc

/-- Two texts with a blank between them stand for the tokens of both. The blank
ends the last token of the first text, and the second one is scanned behind its
tokens. -/
theorem Wording.append {a b : String} {as bs : List String} (ha : Wording a as)
    (hb : Wording b bs) : Wording (a ++ " " ++ b) (as ++ bs) := by
  have hList : (a ++ " " ++ b).toList = a.toList ++ ([' '] ++ b.toList) := by
    rw [String.toList_append, String.toList_append, List.append_assoc]
    rfl
  refine ⟨?_, ?_, ?_⟩
  · intro done
    have hEnd := ha.scanned done
    have hBlank : (a.toList.foldl Scan.step ⟨done, "", none, false⟩).step ' ' =
        ⟨done ++ as, "", none, false⟩ := by
      rw [Scan.step_blank _ _ (by decide), hEnd]
      · rw [← Scan.quote_endToken, hEnd]
      · rw [← Scan.escaped_endToken, hEnd]
    rw [hList, List.foldl_append, List.singleton_append, List.foldl_cons, hBlank, hb.scanned,
      List.append_assoc]
  · rw [hList]
    exact ha.trimmed.append hb.trimmed ha.nonempty hb.nonempty _
  · rw [hList]
    exact List.append_ne_nil_of_left_ne_nil ha.nonempty _

/-- Texts with blanks between them stand for the tokens of all of them, one text
after the other. -/
theorem wording_intercalate {text : String} {tokens : List String} {texts : List String}
    {tokenss : List (List String)} (h : Wording text tokens)
    (hRest : List.Forall₂ Wording texts tokenss) :
    Wording (" ".intercalate (text :: texts)) (tokens ++ tokenss.flatten) := by
  induction hRest generalizing text tokens with
  | nil => simpa using h
  | cons hNext _ ih =>
    rw [String.intercalate_cons_cons, List.flatten_cons]
    exact h.append (ih hNext)

/-- A line has the tokens that it stands for, as nothing was read before it. -/
theorem tokenize_of_wording {text : String} {tokens : List String} (h : Wording text tokens) :
    tokenize text = tokens := by
  have hScan := congrArg Scan.tokens (h.scanned [])
  exact hScan

/-- A line that stands for tokens has no blanks around it. -/
theorem trimmed_of_wording {text : String} {tokens : List String} (h : Wording text tokens) :
    Text.trimmed text = text := by
  rw [Text.trimmed, h.trimmed.trim_eq, String.ofList_toList]

-- ---------------------------------------------------------------------------
-- Quoted texts
-- ---------------------------------------------------------------------------

/-- A quoted text stands for itself, or for nothing if it is empty: the scan
drops a token of no characters, even one between quotes. -/
theorem wording_quote_filter (text : String) : Wording (quote text) ([text].filter (· ≠ "")) := by
  by_cases hEmpty : text = ""
  · subst hEmpty
    have hQuoted : (quote "").toList = ['"', '"'] := rfl
    have hBlank : ∀ c ∈ (quote "").toList, Text.isBlank c = false := by
      intro c hc
      obtain rfl : c = '"' := by simpa [hQuoted] using hc
      rfl
    refine ⟨fun done => ?_, .of_forall hBlank, by simp [hQuoted]⟩
    show _ = Scan.mk (done ++ []) "" none false
    rw [List.append_nil]
    rfl
  · rw [List.filter_singleton]
    simpa [hEmpty] using wording_quote hEmpty

/-- Texts that are quoted and joined by blanks are read again one by one,
whatever is in them; only those that are empty leave no trace. -/
theorem tokenize_intercalate_quote (texts : List String) :
    tokenize (" ".intercalate (texts.map quote)) = texts.filter (· ≠ "") ∧
      ∀ text, tokenize (quote text) = if text = "" then [] else [text] := by
  constructor
  · cases texts with
    | nil => rfl
    | cons text texts =>
      have hRest : List.Forall₂ Wording (texts.map quote)
          (texts.map fun text => [text].filter (· ≠ "")) := by
        rw [List.forall₂_map_left_iff, List.forall₂_map_right_iff, List.forall₂_same]
        exact fun text _ => wording_quote_filter text
      have hFlatten : (texts.map fun text => [text].filter (· ≠ "")).flatten =
          texts.filter (· ≠ "") := by
        rw [← List.flatMap_def, ← List.filter_flatMap, List.flatMap_singleton']
      have hWording := wording_intercalate (wording_quote_filter text) hRest
      rw [List.map_cons, tokenize_of_wording hWording, hFlatten, ← List.filter_append,
        List.singleton_append]
  · intro text
    rw [tokenize_of_wording (wording_quote_filter text), List.filter_singleton]
    by_cases hEmpty : text = "" <;> simp [hEmpty]

end HomeLedger
