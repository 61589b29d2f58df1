import HomeLedger.Proofs.Text.Words
import HomeLedger.Url.Basic

/-!
# HomeLedger — URLs that are a scheme and a host

Any scheme will do for a message, those of the web included, although a URL
of the web is read in another way than that of a scheme of one's own: its
host is a domain, and that of a file may be left out. The hosts of messages
are words that are the same host in all of them (`IsHostWord`).

Main results:

* `lower_of_isScheme` — a scheme in lower case is a scheme, and stays so.
* `read_scheme_host` — what is read from `scheme://host`.
-/

namespace HomeLedger.Url

open Text

-- ---------------------------------------------------------------------------
-- Characters of a scheme
-- ---------------------------------------------------------------------------

/-- Whether a character may stand in a scheme behind its first letter. -/
def isSchemeChar (c : Char) : Bool := c.isAlphanum || c == '+' || c == '-' || c == '.'

/-- Whether a text is a scheme: a letter, and then letters, digits and three
signs. -/
def isScheme (s : String) : Bool :=
  match s.toList with
  | c :: cs => c.isAlpha && cs.all isSchemeChar
  | [] => false

theorem isSchemeChar_of_isAlpha {c : Char} (h : c.isAlpha = true) : isSchemeChar c = true := by
  simp [isSchemeChar, Char.isAlphanum, h]

theorem isAlpha_eq (c : Char) : c.isAlpha =
    (decide (65 ≤ c.val ∧ c.val ≤ 90) || decide (97 ≤ c.val) && decide (c.val ≤ 122)) :=
  rfl

theorem ascii_of_isSchemeChar {c : Char} (h : isSchemeChar c = true) : c.toNat < 0x80 := by
  simp only [isSchemeChar, Char.isAlphanum, isAlpha_eq, Char.isDigit, Bool.or_eq_true,
    Bool.and_eq_true, decide_eq_true_eq, beq_iff_eq, UInt32.le_iff_toNat_le,
    ge_iff_le] at h
  show c.val.toNat < 0x80
  rcases h with ((((⟨-, h⟩ | ⟨-, h⟩) | ⟨-, h⟩) | rfl) | rfl) | rfl
  · exact Nat.lt_of_le_of_lt h (by decide)
  · exact Nat.lt_of_le_of_lt h (by decide)
  · exact Nat.lt_of_le_of_lt h (by decide)
  · decide
  · decide
  · decide

/-- What is asked of all ASCII characters is asked of each, so that it can be
checked for all of them at once. -/
theorem ascii_cases {P : Char → Prop} (h : ∀ n < 0x80, P (Char.ofNat n)) {c : Char}
    (hc : c.toNat < 0x80) : P c := by
  have hSelf := h c.toNat hc
  rwa [Char.ofNat_toNat] at hSelf

/-- The lower case of a character of a scheme is one, and in lower case. A
letter stays a letter. -/
theorem toLower_isSchemeChar {c : Char} (h : isSchemeChar c = true) :
    isSchemeChar c.toLower = true ∧ c.toLower.toLower = c.toLower ∧
      (c.isAlpha = true → c.toLower.isAlpha = true) :=
  ascii_cases (P := fun c => isSchemeChar c = true → isSchemeChar c.toLower = true ∧
    c.toLower.toLower = c.toLower ∧ (c.isAlpha = true → c.toLower.isAlpha = true))
    (by decide) (ascii_of_isSchemeChar h) h

-- ---------------------------------------------------------------------------
-- Schemes in lower case
-- ---------------------------------------------------------------------------

/-- The lower case of an ASCII text is that of its characters. The one letter
whose lower case depends on others is not in ASCII. -/
theorem lowerAfter_ascii {cs : List Char} (h : ∀ c ∈ cs, c.toNat < 0x80) (before : List Char) :
    lowerAfter before cs = cs.map Char.toLower := by
  have hSimple : ∀ c ∈ cs, IsSimple c := by
    intro c hc
    constructor
    · rintro rfl
      exact absurd (h _ hc) (by decide)
    · rintro rfl
      exact absurd (h _ hc) (by decide)
  rw [lowerAfter_eq_map hSimple]
  exact List.map_congr_left fun c hc => if_pos (h c hc)

/-- A text is a scheme just if it begins with a letter and all its characters
may stand in one. -/
theorem isScheme_iff {s : String} :
    isScheme s = true ↔ ∃ c cs, s.toList = c :: cs ∧ c.isAlpha = true ∧
      ∀ c' ∈ s.toList, isSchemeChar c' = true := by
  unfold isScheme
  cases s.toList with
  | nil => simp
  | cons c cs =>
    simp only [Bool.and_eq_true, List.all_eq_true, List.cons.injEq, List.mem_cons]
    constructor
    · rintro ⟨hc, hcs⟩
      refine ⟨c, cs, ⟨rfl, rfl⟩, hc, ?_⟩
      rintro c' (rfl | hc')
      · exact isSchemeChar_of_isAlpha hc
      · exact hcs c' hc'
    · rintro ⟨_, _, ⟨rfl, rfl⟩, hc, hAll⟩
      exact ⟨hc, fun c' hc' => hAll c' (Or.inr hc')⟩

/-- A scheme in lower case is a scheme, and its characters stay what they are. A
channel keeps its scheme in that form, because URLs are read in it. -/
theorem lower_of_isScheme {s : String} (h : isScheme s = true) :
    isScheme (lower s) = true ∧ (lower s).toList.map Char.toLower = (lower s).toList := by
  obtain ⟨c, cs, hs, hc, hAll⟩ := isScheme_iff.mp h
  have hLower : (lower s).toList = s.toList.map Char.toLower := by
    rw [lower, String.toList_ofList, lowerAfter_ascii fun c hc => ascii_of_isSchemeChar (hAll c hc)]
  refine ⟨isScheme_iff.mpr ⟨c.toLower, cs.map Char.toLower, by rw [hLower, hs]; rfl, ?_, ?_⟩, ?_⟩
  · exact (toLower_isSchemeChar (isSchemeChar_of_isAlpha hc)).2.2 hc
  · intro c' hc'
    rw [hLower] at hc'
    obtain ⟨c, hMem, rfl⟩ := List.mem_map.mp hc'
    exact (toLower_isSchemeChar (hAll c hMem)).1
  · rw [hLower, List.map_map]
    exact List.map_congr_left fun c hMem => (toLower_isSchemeChar (hAll c hMem)).2.1

-- ---------------------------------------------------------------------------
-- Hosts
-- ---------------------------------------------------------------------------

/-- A word that is the same host in every scheme. It consists of letters, so
that nothing in it ends the host, and it is not the name that the host of a
file does not need. -/
structure IsHostWord (word : String) : Prop where
  plain : Host.ofPlain word.toList = .ok (.name word)
  special : Host.ofSpecial word.toList = .ok (.name word)
  alpha : ∀ c ∈ word.toList, c.isAlpha = true
  nonempty : word.toList ≠ []
  ne_localhost : word ≠ "localhost"

/-- A letter ends nothing in a URL. -/
theorem ne_of_isAlpha {c : Char} (h : c.isAlpha = true) :
    c ≠ '/' ∧ c ≠ '\\' ∧ c ≠ ':' ∧ c ≠ '@' ∧ c ≠ '[' ∧ c ≠ ']' ∧ c ≠ '|' := by
  refine ⟨?_, ?_, ?_, ?_, ?_, ?_, ?_⟩ <;> rintro rfl <;> exact absurd h (by decide)

theorem not_isSlash_of_isAlpha {c : Char} (special : Bool) (h : c.isAlpha = true) :
    (!isSlash special c) = true := by
  obtain ⟨hSlash, hBack, -⟩ := ne_of_isAlpha h
  simp [isSlash, hSlash, hBack]

/-- All of a word is the host in front of a port. There is none here, but the
reader looks for one. -/
theorem hostLength_of_alpha {cs : List Char} (h : ∀ c ∈ cs, c.isAlpha = true) :
    hostLength false cs = cs.length := by
  induction cs with
  | nil => rfl
  | cons c cs ih =>
    obtain ⟨-, -, hColon, -, hOpen, hClose, -⟩ := ne_of_isAlpha (h c List.mem_cons_self)
    rw [hostLength, ih fun c' hc' => h c' (List.mem_cons_of_mem _ hc')]
    · rfl
    · exact hColon
    · exact hOpen
    · exact hClose

/-- A word has no user in front, as there is no sign that would end it. -/
theorem splitUser_of_alpha {cs : List Char} (h : ∀ c ∈ cs, c.isAlpha = true) :
    splitUser cs = (none, cs) := by
  have hDrop : cs.reverse.dropWhile (· != '@') = [] := by
    rw [List.dropWhile_eq_nil_iff]
    intro c hc
    obtain ⟨-, -, -, hAt, -⟩ := ne_of_isAlpha (h c (List.mem_reverse.mp hc))
    simpa using hAt
  rw [splitUser, hDrop]

/-- A word is no drive, which would have a sign behind its letter. -/
theorem isDrive_of_alpha {cs : List Char} (h : ∀ c ∈ cs, c.isAlpha = true) :
    isDrive cs = false := by
  unfold isDrive
  split
  · next c d =>
    obtain ⟨-, -, hColon, -, -, -, hBar⟩ := ne_of_isAlpha (h d (by simp))
    simp [hColon, hBar]
  · rfl

-- ---------------------------------------------------------------------------
-- Reading what is in front of the path
-- ---------------------------------------------------------------------------

/-- An authority that is nothing but a host. How the host is read depends on the
scheme, and a word is the same either way. -/
theorem readAuthority_host {scheme word : String} (h : IsHostWord word) :
    ∃ path, readAuthority scheme true word.toList =
      .ok { scheme, hasAuthority := true, host := some (.name word), path } := by
  have hTake : word.toList.takeWhile (!isSlash (isSpecial scheme) ·) = word.toList :=
    List.takeWhile_eq_self_iff.mpr fun c hc => not_isSlash_of_isAlpha _ (h.alpha c hc)
  have hDrop : word.toList.dropWhile (!isSlash (isSpecial scheme) ·) = [] :=
    List.dropWhile_eq_nil_iff.mpr fun c hc => not_isSlash_of_isAlpha _ (h.alpha c hc)
  refine ⟨String.ofList (if isSpecial scheme = true then rootPath true [] else []), ?_⟩
  unfold readAuthority
  simp only [hTake, hDrop, splitUser_of_alpha h.alpha, hostLength_of_alpha h.alpha,
    List.take_length, List.drop_length]
  by_cases hSpecial : isSpecial scheme = true
  · simp [hSpecial, h.special, h.nonempty, userText, percentEncode, bind, Except.bind, pure,
      Except.pure]
  · simp [hSpecial, h.plain, h.nonempty, userText, percentEncode, bind, Except.bind, pure,
      Except.pure]

/-- A file on a host. The path that it has to have is put behind the host. The
word is taken for a host because it is no letter of a drive, and for this host
because it is not the local one. -/
theorem readFile_host {word : String} (h : IsHostWord word) :
    readFile ('/' :: '/' :: word.toList) =
      .ok { scheme := "file", hasAuthority := true, host := some (.name word), path := "/" } := by
  have hTake : word.toList.takeWhile (!isSlash true ·) = word.toList :=
    List.takeWhile_eq_self_iff.mpr fun c hc => not_isSlash_of_isAlpha _ (h.alpha c hc)
  have hName : Host.name word ≠ .name "localhost" := by
    simpa using h.ne_localhost
  unfold readFile
  simp only [hTake, List.drop_length, isDrive_of_alpha h.alpha, h.nonempty, h.special]
  simp only [isSlash, beq_self_eq_true, Bool.true_or, Bool.not_true, Bool.false_eq_true, if_false,
    or_self]
  show (if Host.name word = .name "localhost" then _ else _) = _
  rw [if_neg hName]
  rfl

/-- What stands behind `scheme:` is read as a host in every scheme. The path
that is read with it is the one thing that differs. -/
theorem readFront_host (scheme : String) {word : String} (h : IsHostWord word) :
    ∃ path, readFront scheme true ('/' :: '/' :: word.toList) =
      .ok { scheme, hasAuthority := true, host := some (.name word), path } := by
  unfold readFront
  split
  · next hFile =>
    rw [hFile]
    exact ⟨_, readFile_host h⟩
  · split
    · have hDrop : ('/' :: '/' :: word.toList).dropWhile (isSlash true) = word.toList := by
        rw [List.dropWhile_cons_of_pos (by rfl), List.dropWhile_cons_of_pos (by rfl)]
        refine List.dropWhile_eq_self_iff.mpr ?_
        intro hLength hSlash
        have hLetter := not_isSlash_of_isAlpha true (h.alpha _ (List.getElem_mem hLength))
        simp [hSlash] at hLetter
      rw [hDrop]
      exact readAuthority_host h
    · exact readAuthority_host h

-- ---------------------------------------------------------------------------
-- Reading
-- ---------------------------------------------------------------------------

/-- Where there is nothing that does not count, nothing is left out. Blanks
around a URL and line breaks in it are what does not count. -/
theorem significant_eq_self {cs : List Char} (h : ∀ c ∈ cs, 0x20 < c.toNat) :
    significant cs = cs := by
  have hOuter : ∀ cs' : List Char, (∀ c ∈ cs', 0x20 < c.toNat) →
      cs'.dropWhile (fun c => c.toNat ≤ 0x20) = cs' := by
    intro cs' h'
    refine List.dropWhile_eq_self_iff.mpr ?_
    intro hLength hOuter
    have := h' _ (List.getElem_mem hLength)
    simp only [decide_eq_true_eq] at hOuter
    omega
  unfold significant
  simp only
  rw [hOuter cs h, hOuter cs.reverse fun c hc => h c (List.mem_reverse.mp hc), List.reverse_reverse,
    List.filter_eq_self]
  intro c hc
  have hLarge := h c hc
  have hTab : c ≠ '\t' := by rintro rfl; exact absurd hLarge (by decide)
  have hLine : c ≠ '\n' := by rintro rfl; exact absurd hLarge (by decide)
  have hReturn : c ≠ '\r' := by rintro rfl; exact absurd hLarge (by decide)
  simp [hTab, hLine, hReturn]

/-- A text without the separator is not cut. -/
theorem cut_eq_self (sep : Char) {cs : List Char} (h : sep ∉ cs) : cut sep cs = (cs, none) := by
  rw [cut, splitOnce_eq_none_iff.mpr h]

/-- A scheme in lower case is read up to its colon, and given as it is. One with
capitals would be given in lower case, and would not come back. -/
theorem readScheme?_append {scheme : String} (h : isScheme scheme = true)
    (hLower : scheme.toList.map Char.toLower = scheme.toList) (rest : List Char) :
    readScheme? (scheme.toList ++ ':' :: rest) = some (scheme, rest) := by
  obtain ⟨c, cs, hs, hc, hAll⟩ := isScheme_iff.mp h
  have hTake : (scheme.toList ++ ':' :: rest).takeWhile isSchemeChar = scheme.toList := by
    rw [List.takeWhile_append_of_pos hAll, List.takeWhile_cons_of_neg (by decide), List.append_nil]
  have hDrop : (scheme.toList ++ ':' :: rest).dropWhile isSchemeChar = ':' :: rest := by
    rw [List.dropWhile_append_of_pos hAll, List.dropWhile_cons_of_neg (by decide)]
  unfold readScheme?
  simp only [← isSchemeChar.eq_1]
  have hHead : scheme.toList.head? = some c := by rw [hs, List.head?_cons]
  rw [hTake, hDrop, hLower, hHead]
  simp [hc]

/-- Nothing that is in a scheme ends it, or does not count, or begins what is
behind a path. -/
theorem ne_of_isSchemeChar {c : Char} (h : isSchemeChar c = true) :
    0x20 < c.toNat ∧ c ≠ '#' ∧ c ≠ '?' :=
  ascii_cases (P := fun c => isSchemeChar c = true → 0x20 < c.toNat ∧ c ≠ '#' ∧ c ≠ '?')
    (by decide) (ascii_of_isSchemeChar h) h

/-- What is read from a scheme and a host. This is the URL that a message starts
from, before it gets fields. -/
theorem read_scheme_host {scheme word : String} (h : isScheme scheme = true)
    (hLower : scheme.toList.map Char.toLower = scheme.toList) (hWord : IsHostWord word) :
    ∃ path, read s!"{scheme}://{word}" =
      .ok { scheme, hasAuthority := true, host := some (.name word), path } := by
  have hList : (s!"{scheme}://{word}").toList =
      scheme.toList ++ ':' :: '/' :: '/' :: word.toList := by
    show (toString scheme ++ "://" ++ toString word).toList = _
    rw [String.toList_append, String.toList_append, List.append_assoc]
    rfl
  obtain ⟨-, -, -, -, hAll⟩ := isScheme_iff.mp h
  -- nothing in it is left out, and there is neither a query nor a fragment
  have hChars : ∀ c ∈ scheme.toList ++ ':' :: '/' :: '/' :: word.toList,
      0x20 < c.toNat ∧ c ≠ '#' ∧ c ≠ '?' := by
    intro c hc
    simp only [List.mem_append, List.mem_cons] at hc
    rcases hc with hc | rfl | rfl | rfl | hc
    · exact ne_of_isSchemeChar (hAll c hc)
    · decide
    · decide
    · decide
    · exact ne_of_isSchemeChar (isSchemeChar_of_isAlpha (hWord.alpha c hc))
  obtain ⟨path, hFront⟩ := readFront_host scheme hWord
  refine ⟨path, ?_⟩
  unfold read
  rw [hList, significant_eq_self fun c hc => (hChars c hc).1,
    cut_eq_self '#' fun hc => (hChars _ hc).2.1 rfl]
  simp only
  rw [cut_eq_self '?' fun hc => (hChars _ hc).2.2 rfl]
  simp only
  rw [readScheme?_append h hLower]
  simp [hFront, bind, Except.bind, pure, Except.pure]

end HomeLedger.Url
