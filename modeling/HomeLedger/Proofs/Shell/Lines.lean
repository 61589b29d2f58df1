import HomeLedger.Proofs.Text.Blank
import HomeLedger.Shell

/-!
# HomeLedger — lines that are commands everywhere

A line may be given to the program as an argument or typed at its prompt. Not
every line means the same there: the prompt has words of its own, and the
program has options. All other lines of a single line that are not blank
(`Submittable`) are answered by the household either way, and the blanks
around them do not matter.

Main results:

* `linesOf_unlines` — lines that are typed in are the lines that are read.
* `step_of_submittable` — the prompt answers them.
* `ofArguments_run` — and so does the program when they are its argument.
-/

namespace HomeLedger

open Text

-- ---------------------------------------------------------------------------
-- Blanks around a line
-- ---------------------------------------------------------------------------

theorem Command.read_trimmed (f : Formatting) (today : Date) (line : String) :
    Command.read f today (trimmed line) = Command.read f today line := by
  rw [Command.read, Command.read, trimmed_trimmed]

/-- The blanks around a line do not matter to its answer, nor to its entry in
the journal. -/
theorem answerLine_trimmed (s : Setting) (line : String) (l : Ledger) :
    answerLine s (trimmed line) l = answerLine s line l := by
  rw [answerLine, answerLine, journalEntry, journalEntry, Routes.submit, Routes.submit,
    Command.read_trimmed]

/-- A line that can be entered in the journal is answered by the household. The
entry is made first, and it is the formatting of amounts that can fail. -/
theorem answerLine_eq {s : Setting} {line : String} {l : Ledger}
    (h : (journalEntry s.formatting s.today line).isOk) :
    answerLine s line l = Routes.standard.submit s line l := by
  unfold answerLine
  cases hEntry : journalEntry s.formatting s.today line with
  | error fault =>
    rw [hEntry] at h
    exact absurd h (by simp [Except.isOk, Except.toBool])
  | ok entry => rfl

-- ---------------------------------------------------------------------------
-- Commands
-- ---------------------------------------------------------------------------

/-- The words that the prompt takes for itself. -/
def Prompt.words : List String := ["quit", "exit", "help", "?", "suggest", "encode", "decode"]

/-- The options of the program. -/
def Invocation.options : List String := ["-h", "--help", "-r", "--root"]

/-- Whether a line is a command to the household, whether it is typed at the
prompt or given as an argument. The first condition is that of a prompt, which
reads line by line; the last is that of arguments. -/
structure Submittable (line : String) : Prop where
  single : '\n' ∉ line.toList
  notBlank : isAllBlank line = false
  notWord : (Prompt.splitWord (trimmed line)).1 ∉ Prompt.words
  notOption : line ∉ Invocation.options

instance (line : String) : Decidable (Submittable line) :=
  decidable_of_iff ('\n' ∉ line.toList ∧ isAllBlank line = false ∧
      (Prompt.splitWord (trimmed line)).1 ∉ Prompt.words ∧ line ∉ Invocation.options)
    ⟨fun ⟨h₁, h₂, h₃, h₄⟩ => ⟨h₁, h₂, h₃, h₄⟩, fun ⟨h₁, h₂, h₃, h₄⟩ => ⟨h₁, h₂, h₃, h₄⟩⟩

/-- The first word of a text that does not begin with a blank is not empty, so
the prompt does not take the text for an empty line. -/
theorem Prompt.splitWord_ne_empty {line : String} (hne : line.toList ≠ [])
    (h : ∀ c ∈ line.toList.head?, isBlank c = false) : (splitWord line).1 ≠ "" := by
  cases hcs : line.toList with
  | nil => exact absurd hcs hne
  | cons c cs =>
    have hSpace : c ≠ ' ' := by
      rintro rfl
      have hBlank := h ' ' (by rw [hcs]; rfl)
      exact absurd hBlank (by decide)
    intro hEmpty
    unfold splitWord at hEmpty
    rw [hcs, splitOnce, if_neg hSpace] at hEmpty
    cases hRest : splitOnce ' ' cs with
    | none =>
      simp only [hRest, Option.map_none] at hEmpty
      rw [hEmpty] at hcs
      exact absurd hcs (by simp)
    | some parts =>
      simp only [hRest, Option.map_some] at hEmpty
      exact absurd (congrArg String.toList hEmpty) (by simp)

namespace Submittable

variable {line : String}

theorem splitWord_ne_empty (h : Submittable line) :
    (Prompt.splitWord (trimmed line)).1 ≠ "" := by
  refine Prompt.splitWord_ne_empty ?_ ?_
  · rw [trimmed, String.toList_ofList]
    intro hNil
    have hBlank : isAllBlank line = true := List.all_eq_true.mpr (forall_of_trim_eq_nil hNil)
    rw [h.notBlank] at hBlank
    exact absurd hBlank (by decide)
  · rw [trimmed, String.toList_ofList]
    exact (isTrimmed_trim line.toList).head

/-- The prompt has the household answer, and saves the ledger. It does so after
each line, also after one that has failed. -/
theorem step_eq (h : Submittable line) (c : Config) (s : Supply) (p : Prompt) :
    p.step c s line = do
      let (response, l) ← answerLine (s.setting c.formatting p.line) line p.ledger
      return some (response.printed, ⟨p.line + 1, l, some l.toFile⟩) := by
  have hWords := h.notWord
  simp only [Prompt.words, List.mem_cons, List.not_mem_nil, or_false, not_or] at hWords
  obtain ⟨hQuit, hExit, hHelp, hMark, hSuggest, hEncode, hDecode⟩ := hWords
  unfold Prompt.step
  simp only [answerLine_trimmed]
  rw [if_neg h.splitWord_ne_empty, if_neg (not_or.mpr ⟨hQuit, hExit⟩),
    if_neg (not_or.mpr ⟨hHelp, hMark⟩), if_neg hSuggest, if_neg hEncode, if_neg hDecode]

/-- The argument is the line to run, since it is none of the options. -/
theorem ofArguments_run (h : Submittable line) :
    Invocation.ofArguments ["run", line] = .start none (.run line) := by
  have hOptions := h.notOption
  simp only [Invocation.options, List.mem_cons, List.not_mem_nil, or_false, not_or] at hOptions
  obtain ⟨hh, hHelp, hr, hRoot⟩ := hOptions
  simp [Invocation.ofArguments, Invocation.read, Invocation.ofWords, hh, hHelp, hr, hRoot]

end Submittable

-- ---------------------------------------------------------------------------
-- Input
-- ---------------------------------------------------------------------------

/-- What is typed in, split at its line breaks: the lines, and the empty rest
behind the last line break. -/
theorem splitOn_unlines {lines : List String} (h : ∀ line ∈ lines, '\n' ∉ line.toList) :
    (unlines lines).toList.splitOn '\n' = lines.map String.toList ++ [[]] := by
  induction lines with
  | nil => rfl
  | cons line rest ih =>
    rw [List.forall_mem_cons] at h
    have hText : (unlines (line :: rest)).toList =
        line.toList ++ '\n' :: (unlines rest).toList := by
      simp [unlines]
    rw [hText, List.splitOn_append_cons_self_of_not_mem h.1, ih h.2]
    rfl

/-- The lines that are typed in are the lines that are read. The empty rest
behind them is no line. -/
theorem Shell.linesOf_unlines {lines : List String} (h : ∀ line ∈ lines, '\n' ∉ line.toList) :
    linesOf (unlines lines) = lines := by
  unfold linesOf
  simp only [splitOn_unlines h]
  simp

end HomeLedger
