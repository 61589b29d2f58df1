import HomeLedger.Proofs.Text.Digits
import HomeLedger.Proofs.Text.Occurrence
import HomeLedger.Toml.Report

/-!
# HomeLedger — what a report quotes

A report consists of a frame that is the same for all files, but for numbers,
and of two texts that are not: the line that is wrong, and what is said about
it. The frame has line breaks, commas and bars between its parts. So words
that have none of these marks lie within one part, and if they begin with a
character that the frame does not have, this part is the line or what is said
about it.

Main results:

* `lineAt_mem_splitOn` — the line that is quoted is a line of the file.
* `infix_text_iff` — where the words are that a report holds.
-/

namespace HomeLedger.Toml

open HomeLedger.Text

-- ---------------------------------------------------------------------------
-- Lines
-- ---------------------------------------------------------------------------

/-- A stretch of a text is one of its lines if it has no line break and stands
between two of them. The beginning and the end of the text may stand for
either. -/
theorem mem_splitOn_of_between {before line behind : List Char} (hLine : '\n' ∉ line)
    (hBefore : ∀ c ∈ before.getLast?, c = '\n') (hBehind : ∀ c ∈ behind.head?, c = '\n') :
    line ∈ (before ++ (line ++ behind)).splitOn '\n' := by
  have hNone : ∀ c ∈ line, (c == '\n') = false := by
    intro c hc
    rw [beq_eq_false_iff_ne]
    rintro rfl
    exact hLine hc
  -- behind all lines that come before it, the line is the first one
  have hFirst : line ∈ (line ++ behind).splitOn '\n' := by
    cases behind with
    | nil =>
      rw [List.append_nil, List.splitOn, List.splitOnP_eq_singleton hNone]
      exact List.mem_cons_self
    | cons c behind =>
      obtain rfl := hBehind c rfl
      rw [List.splitOn, List.splitOnP_append_cons _ _ rfl, List.splitOnP_eq_singleton hNone]
      exact List.mem_cons_self
  rcases List.eq_nil_or_concat before with rfl | ⟨before, c, rfl⟩
  · exact hFirst
  · obtain rfl := hBefore c (by simp)
    rw [List.concat_eq_append, List.append_assoc, List.singleton_append, List.splitOn,
      List.splitOnP_append_cons _ _ rfl]
    exact List.mem_append_right _ hFirst

/-- The line of a place is one of the lines of the file. So a report tells the
user nothing that the file does not hold, but for what is said about it. -/
theorem lineAt_mem_splitOn (text : String) (place : Nat) :
    (lineAt text place).toList ∈ text.toList.splitOn '\n' := by
  let reversed := (front text place).reverse
  let behind := text.toList.drop (front text place).length
  have hBreak : ∀ cs : List Char, ∀ c ∈ (cs.dropWhile (· != '\n')).head?, c = '\n' := by
    intro cs c hc
    have hNot := List.head?_dropWhile_not (· != '\n') cs
    rw [hc] at hNot
    simpa using hNot
  -- what stands in front of the place is the lines before and the beginning of this one
  have hFront : (reversed.dropWhile (· != '\n')).reverse ++ lineStart text place =
      front text place := by
    rw [lineStart, ← List.reverse_append, List.takeWhile_append_dropWhile, List.reverse_reverse]
  have hPrefix : front text place ++ behind = text.toList :=
    List.prefix_iff_eq_append.mp (List.take_prefix _ _)
  have hText : text.toList = (reversed.dropWhile (· != '\n')).reverse ++
      ((lineStart text place ++ behind.takeWhile (· != '\n')) ++ behind.dropWhile (· != '\n')) := by
    rw [List.append_assoc, List.takeWhile_append_dropWhile, ← List.append_assoc, hFront, hPrefix]
  have hLine : '\n' ∉ lineStart text place ++ behind.takeWhile (· != '\n') := by
    rw [lineStart, List.mem_append, List.mem_reverse]
    rintro (hMem | hMem) <;> exact absurd (List.mem_takeWhile_imp hMem) (by decide)
  have hEnds : ∀ c ∈ (reversed.dropWhile (· != '\n')).reverse.getLast?, c = '\n' := by
    rw [List.getLast?_reverse]
    exact hBreak reversed
  have hMem := mem_splitOn_of_between hLine hEnds (hBreak behind)
  rw [← hText] at hMem
  rw [lineAt, String.toList_ofList]
  exact hMem

-- ---------------------------------------------------------------------------
-- Words
-- ---------------------------------------------------------------------------

/-- Whether a character may stand in the frame of a report. -/
def isFrameChar (c : Char) : Bool :=
  c.isDigit || "TOML parse error at line column^".toList.contains c

theorem isFrameChar_of_mem_decimal {n : Nat} {c : Char} (h : c ∈ decimal n) :
    isFrameChar c = true := by
  rw [isFrameChar, allDigits_decimal n c h, Bool.true_or]

theorem isFrameChar_of_mem_margin {r : Report} {c : Char} (h : c ∈ r.margin.toList) :
    isFrameChar c = true := by
  rw [Report.margin, String.toList_ofList] at h
  rw [List.eq_of_mem_replicate h]
  decide

/-- The marks below a line are carets, with blanks in front of them. -/
theorem isFrameChar_of_mem_markRow {blanks marks : Nat} {c : Char}
    (h : c ∈ List.replicate blanks ' ' ++ List.replicate marks '^') : isFrameChar c = true := by
  rcases List.mem_append.mp h with hBlank | hMark
  · rw [List.eq_of_mem_replicate hBlank]
    decide
  · rw [List.eq_of_mem_replicate hMark]
    decide

/-- Words that begin with a character which is not one of the frame do not begin
within it. -/
theorem not_infix_of_frame {c : Char} {pattern part : List Char} (hc : isFrameChar c = false)
    (hPart : ∀ d ∈ part, isFrameChar d = true) : ¬c :: pattern <:+: part := by
  intro hWithin
  rw [hPart c (hWithin.subset List.mem_cons_self)] at hc
  exact absurd hc (by decide)

/-- The parts of a report: those of the frame are made of its characters, and
marks stand between all of them. -/
theorem toList_text (r : Report) : r.text.toList =
    ("TOML parse error at line ".toList ++ decimal (r.line + 1)) ++ ',' ::
      ((" column ".toList ++ decimal (r.column + 1)) ++ '\n' :: (r.margin.toList ++ '|' ::
        ([] ++ '\n' :: ((decimal (r.line + 1) ++ [' ']) ++ '|' :: ((' ' :: r.quoted.toList) ++
          '\n' :: (r.margin.toList ++ '|' :: ((List.replicate (r.column + 1) ' ' ++
            List.replicate r.marks '^') ++ '\n' :: (r.words.toList ++ '\n' :: [])))))))) := by
  have hComma : ", column ".toList = ',' :: " column ".toList := by decide
  have hBar : "|".toList = ['|'] := by decide
  have hLine : "|\n".toList = ['|', '\n'] := by decide
  have hNumber : " | ".toList = [' ', '|', ' '] := by decide
  have hBreak : "\n".toList = ['\n'] := by decide
  unfold Report.text
  simp only [String.toList_append, String.toList_ofList, hComma, hBar, hLine, hNumber, hBreak,
    List.append_assoc, List.cons_append, List.nil_append]

/-- Words that begin with a character which is not one of the frame, and that
have none of its marks, are in a report just if they are in the line that it
quotes or in what it says about it. -/
theorem infix_text_iff {c : Char} {pattern : List Char} (hc : isFrameChar c = false)
    (hComma : ',' ∉ c :: pattern) (hBreak : '\n' ∉ c :: pattern) (hBar : '|' ∉ c :: pattern)
    (r : Report) :
    c :: pattern <:+: r.text.toList ↔
      c :: pattern <:+: r.quoted.toList ∨ c :: pattern <:+: r.words.toList := by
  have hBlank : isFrameChar ' ' = true := by decide
  have hTitle : ¬c :: pattern <:+: "TOML parse error at line ".toList ++ decimal (r.line + 1) :=
    not_infix_of_frame hc (List.forall_mem_append.mpr
      ⟨List.all_eq_true.mp (by decide), fun _ => isFrameChar_of_mem_decimal⟩)
  have hColumn : ¬c :: pattern <:+: " column ".toList ++ decimal (r.column + 1) :=
    not_infix_of_frame hc (List.forall_mem_append.mpr
      ⟨List.all_eq_true.mp (by decide), fun _ => isFrameChar_of_mem_decimal⟩)
  have hMargin : ¬c :: pattern <:+: r.margin.toList :=
    not_infix_of_frame hc fun _ => isFrameChar_of_mem_margin
  have hNumber : ¬c :: pattern <:+: decimal (r.line + 1) ++ [' '] :=
    not_infix_of_frame hc (List.forall_mem_append.mpr
      ⟨fun _ => isFrameChar_of_mem_decimal, List.forall_mem_singleton.mpr hBlank⟩)
  have hMarkRow : ¬c :: pattern <:+:
      List.replicate (r.column + 1) ' ' ++ List.replicate r.marks '^' :=
    not_infix_of_frame hc fun _ => isFrameChar_of_mem_markRow
  have hNothing : ¬c :: pattern <:+: [] := not_infix_of_frame hc (List.forall_mem_nil _)
  have hQuoted : c :: pattern <:+: ' ' :: r.quoted.toList ↔ c :: pattern <:+: r.quoted.toList := by
    rw [List.infix_cons_iff, List.cons_prefix_cons, or_iff_right]
    rintro ⟨rfl, -⟩
    exact absurd hBlank (by rw [hc]; decide)
  -- The text is cut at its marks from the left, and the parts of the frame drop out.
  rw [toList_text, infix_append_cons_iff hComma, infix_append_cons_iff hBreak,
    infix_append_cons_iff hBar, infix_append_cons_iff hBreak, infix_append_cons_iff hBar,
    infix_append_cons_iff hBreak, infix_append_cons_iff hBar, infix_append_cons_iff hBreak,
    infix_append_cons_iff hBreak, hQuoted]
  simp only [hTitle, hColumn, hMargin, hNothing, hNumber, hMarkRow, false_or, or_false]

end HomeLedger.Toml
