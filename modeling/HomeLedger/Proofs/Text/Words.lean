import HomeLedger.Proofs.Text.Blank
import HomeLedger.Text.LowerCase

/-!
# HomeLedger — words in any case, with any blanks between them

Where words are compared in lower case, a text is brought to lower case as a
whole and split at its blanks then. For plain words this is the same as if
each were brought to lower case by itself (`Spells`): blanks have no case, and
the two letters whose lower case depends on what stands around them, or is not
a single letter, become nothing that is in a plain word.

Main results:

* `words_append_cons` — a blank parts the words on its two sides.
* `Spells.words_lower_trim` — the words of a text are those that it spells.
* `Spells.count_le` — a sign is in the text only if it is in a word.
-/

namespace HomeLedger.Text

-- ---------------------------------------------------------------------------
-- Words
-- ---------------------------------------------------------------------------

theorem words_nil : words [] = [] := by
  rw [words, List.splitOnP_nil]
  rfl

/-- A text without blanks is one word. -/
theorem words_of_forall {w : List Char} (hne : w ≠ []) (h : ∀ c ∈ w, isBlank c = false) :
    words w = [w] := by
  rw [words, List.splitOnP_eq_singleton h, List.filter_cons_of_pos (by simpa using hne)]
  rfl

/-- A blank parts the words on its two sides. -/
theorem words_append_cons {b : Char} (hb : isBlank b = true) (cs ds : List Char) :
    words (cs ++ b :: ds) = words cs ++ words ds := by
  rw [words, List.splitOnP_append_cons _ _ hb, List.filter_append, words, words]

theorem words_of_allBlank {bs : List Char} (h : AllBlank bs) : words bs = [] := by
  induction bs with
  | nil => exact words_nil
  | cons b bs ih =>
    have hParted := words_append_cons (h b List.mem_cons_self) [] bs
    rw [List.nil_append, words_nil, List.nil_append] at hParted
    rw [hParted, ih fun c hc => h c (List.mem_cons_of_mem _ hc)]

/-- Blanks around a text add no words. -/
theorem words_surrounded {before behind : List Char} (hBefore : AllBlank before)
    (hBehind : AllBlank behind) (cs : List Char) : words (before ++ (cs ++ behind)) = words cs := by
  have hEnd : words (cs ++ behind) = words cs := by
    cases behind with
    | nil => rw [List.append_nil]
    | cons b behind =>
      rw [words_append_cons (hBehind b List.mem_cons_self),
        words_of_allBlank fun c hc => hBehind c (List.mem_cons_of_mem _ hc), List.append_nil]
  induction before with
  | nil => exact hEnd
  | cons b before ih =>
    have hParted := words_append_cons (hBefore b List.mem_cons_self) [] (before ++ (cs ++ behind))
    rw [List.nil_append, words_nil, List.nil_append] at hParted
    rw [List.cons_append, hParted, ih fun c hc => hBefore c (List.mem_cons_of_mem _ hc)]

-- ---------------------------------------------------------------------------
-- Lower case
-- ---------------------------------------------------------------------------

/-- The codes of the blanks. -/
def blankCodes : List Nat :=
  [0x09, 0x0A, 0x0B, 0x0C, 0x0D, 0x20, 0x85, 0xA0, 0x1680, 0x2000, 0x2001, 0x2002, 0x2003, 0x2004,
    0x2005, 0x2006, 0x2007, 0x2008, 0x2009, 0x200A, 0x2028, 0x2029, 0x202F, 0x205F, 0x3000]

/-- A blank is one of few characters, which can be looked at one by one. -/
theorem mem_blankCodes {b : Char} (h : isBlank b = true) : b.toNat ∈ blankCodes := by
  simp only [isBlank, Bool.or_eq_true, Bool.and_eq_true, decide_eq_true_eq, beq_iff_eq] at h
  simp only [blankCodes, List.mem_cons, List.not_mem_nil, or_false]
  omega

/-- Blanks have no case. -/
theorem lowerChar_blank {b : Char} (h : isBlank b = true) : lowerChar b = b := by
  have hAll : ∀ n ∈ blankCodes, lowerChar (Char.ofNat n) = Char.ofNat n := by decide
  have hSelf := hAll b.toNat (mem_blankCodes h)
  rwa [Char.ofNat_toNat] at hSelf

/-- Whether a character is alone in having its lower case. The two that are not
are the sigma, which is written in another way at the end of a word, and the
capital I with a dot, which becomes two characters. -/
def IsSimple (c : Char) : Prop := c ≠ 'Σ' ∧ c ≠ 'İ'

/-- The lower case of simple characters does not depend on others. -/
theorem lowerAfter_eq_map {cs : List Char} (h : ∀ c ∈ cs, IsSimple c) (before : List Char) :
    lowerAfter before cs = cs.map lowerChar := by
  induction cs generalizing before with
  | nil => rfl
  | cons c cs ih =>
    obtain ⟨hSigma, hDotted⟩ := h c List.mem_cons_self
    rw [lowerAfter, if_neg hSigma, if_neg hDotted,
      ih fun c' hc' => h c' (List.mem_cons_of_mem _ hc')]
    rfl

/-- Only simple characters have ASCII for their lower case. The two that are not
simple are those whose lower case depends on what is around or is of two
characters, and neither of these is ASCII as a whole. -/
theorem isSimple_of_lowerAfter {before cs : List Char}
    (h : ∀ c ∈ lowerAfter before cs, c.toNat < 0x80) : ∀ c ∈ cs, IsSimple c := by
  induction cs generalizing before with
  | nil => exact fun _ hc => absurd hc List.not_mem_nil
  | cons c cs ih =>
    rw [lowerAfter] at h
    obtain ⟨hImage, hRest⟩ := List.forall_mem_append.mp h
    refine List.forall_mem_cons.mpr ⟨⟨?_, ?_⟩, ih hRest⟩
    · rintro rfl
      have hSigma := hImage _ (List.mem_singleton_self _)
      split at hSigma <;> exact absurd hSigma (by decide)
    · rintro rfl
      have hDot : '\u0307' ∈ ['i', '\u0307'] := by decide
      exact absurd (hImage _ hDot) (by decide)

-- ---------------------------------------------------------------------------
-- Words in any case
-- ---------------------------------------------------------------------------

/-- Whether a text is made of the words in this order, each in any case, with a
blank or more between two of them and any blanks around. -/
inductive Spells : List Char → List (List Char) → Prop
  | nothing : Spells [] []
  | word {cs w : List Char} (hLower : lowerAfter [] cs = w) : Spells cs [w]
  | blank {cs ds : List Char} {vs ws : List (List Char)} {b : Char} (hb : isBlank b = true)
      (hcs : Spells cs vs) (hds : Spells ds ws) : Spells (cs ++ b :: ds) (vs ++ ws)

/-- Whether a word is in ASCII and is one word. -/
structure IsPlainWord (w : List Char) : Prop where
  ne_nil : w ≠ []
  ascii : ∀ c ∈ w, c.toNat < 0x80
  isBlank : ∀ c ∈ w, isBlank c = false

namespace Spells

variable {cs : List Char} {ws : List (List Char)}

/-- No character of a text that spells plain words depends on others in its
lower case, since that would not be ASCII. -/
theorem isSimple (h : Spells cs ws) (hws : ∀ w ∈ ws, IsPlainWord w) : ∀ c ∈ cs, IsSimple c := by
  induction h with
  | nothing => exact fun _ hc => absurd hc List.not_mem_nil
  | word hLower =>
    have hAscii := (hws _ (List.mem_singleton_self _)).ascii
    rw [← hLower] at hAscii
    exact isSimple_of_lowerAfter hAscii
  | blank hb _ _ ihcs ihds =>
    obtain ⟨hvs, hws⟩ := List.forall_mem_append.mp hws
    have hSimple : IsSimple _ := ⟨ne_of_isBlank hb (by decide), ne_of_isBlank hb (by decide)⟩
    exact List.forall_mem_append.mpr ⟨ihcs hvs, List.forall_mem_cons.mpr ⟨hSimple, ihds hws⟩⟩

/-- The words of the text in lower case are those that it spells. By induction
on the spelling: a blank is one in lower case, and parts the words. -/
theorem words_map (h : Spells cs ws) (hws : ∀ w ∈ ws, IsPlainWord w) :
    words (cs.map lowerChar) = ws := by
  induction h with
  | nothing => exact words_nil
  | @word cs w hLower =>
    have hw := hws w (List.mem_singleton_self _)
    have hSimple := (Spells.word hLower).isSimple hws
    rw [← lowerAfter_eq_map hSimple [], hLower, words_of_forall hw.ne_nil hw.isBlank]
  | blank hb _ _ ihcs ihds =>
    obtain ⟨hvs, hws⟩ := List.forall_mem_append.mp hws
    rw [List.map_append, List.map_cons, lowerChar_blank hb, words_append_cons hb, ihcs hvs,
      ihds hws]

/-- So they are if the text is trimmed before, as a reader does. Blanks around a
text add no words. -/
theorem words_lower_trim (h : Spells cs ws) (hws : ∀ w ∈ ws, IsPlainWord w) :
    words (lowerAfter [] (trim cs)) = ws := by
  have hGap : ∀ {bs : List Char}, AllBlank bs → bs.map lowerChar = bs := by
    intro bs hbs
    rw [List.map_congr_left fun b hb => lowerChar_blank (hbs b hb), List.map_id']
  obtain ⟨before, behind, hBefore, hBehind, hcs⟩ := exists_trim cs
  have hSimple : ∀ c ∈ trim cs, IsSimple c := by
    intro c hc
    refine h.isSimple hws c ?_
    rw [hcs]
    simp [hc]
  have hWords := h.words_map hws
  rw [hcs, List.map_append, List.map_append, hGap hBefore, hGap hBehind,
    words_surrounded hBefore hBehind] at hWords
  rw [lowerAfter_eq_map hSimple, hWords]

/-- A sign that has no case is not in the text more often than in the words.
Blanks are the one thing that a text has besides its words. -/
theorem count_le (h : Spells cs ws) (hws : ∀ w ∈ ws, IsPlainWord w) {c : Char}
    (hLower : lowerChar c = c) (hc : Text.isBlank c = false) : cs.count c ≤ ws.flatten.count c := by
  induction h with
  | nothing => exact Nat.le_refl _
  | @word cs w hWord =>
    have hSimple := (Spells.word hWord).isSimple hws
    have hle : cs.count c ≤ (cs.map lowerChar).count (lowerChar c) := List.count_le_count_map
    rw [List.flatten_singleton, ← hWord, lowerAfter_eq_map hSimple]
    rwa [hLower] at hle
  | @blank cs ds vs ws b hb _ _ ihcs ihds =>
    obtain ⟨hvs, hws⟩ := List.forall_mem_append.mp hws
    rw [List.count_append, List.count_cons_of_ne (ne_of_isBlank hb hc), List.flatten_append,
      List.count_append]
    exact Nat.add_le_add (ihcs hvs) (ihds hws)

end Spells

end HomeLedger.Text
