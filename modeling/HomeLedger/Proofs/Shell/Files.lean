import HomeLedger.Proofs.Config
import HomeLedger.Proofs.Ledger.Request
import HomeLedger.Proofs.Shell.Sessions

/-!
# HomeLedger — what becomes of the files

Every call of the program that is to do something opens the configuration, and
the prompt and a line open the ledger. What cannot be opened ends the program.
So a ledger that cannot be read is still there afterwards, whatever the
program is asked for, and a new one is not put in its place.

A ledger that can be read is saved behind a line, be the answer a failure or
not. A failure leaves the ledger as it was, so what is saved then is what was
read, apart from the signs of zeros, which the file does not keep.

The configuration is kept less well. It is written where there is none, and
that is told by words which a file that cannot be read may hold as well.

Main results:

* `ledger_file_kept` — what becomes of a ledger file by calls that fail.
* `config_file_opened` — what becomes of a configuration file.
-/

namespace HomeLedger.Shell

variable {s : Supply} {c : Config} {files : Files} {lines : List String} {file : String}
  {l : Ledger}

theorem files_tell (result : Except String String) : (tell files result).files = files := by
  cases result <;> rfl

-- ---------------------------------------------------------------------------
-- Ledgers that cannot be read
-- ---------------------------------------------------------------------------

/-- No task writes a ledger that cannot be read. -/
theorem ledger_perform_of_error {e : Ledger.FileError} (hFile : files.ledger = some file)
    (h : Ledger.ofFile file = .error e) (task : Task) :
    (perform c s files lines task).files.ledger = some file := by
  have hOpen : c.openLedger s files.ledger = .error e := by rw [hFile, Config.openLedger, h]
  cases task with
  | prompt =>
    simp only [perform, runPrompt, hOpen]
    exact hFile
  | run line =>
    simp only [perform, runLine, hOpen]
    exact hFile
  | encode line => rw [perform, files_tell, hFile]
  | decode text => rw [perform, files_tell, hFile]

/-- No call of the program writes a ledger that cannot be read. A call that
starts no task, or none that can be started, writes no ledger at all. -/
theorem ledger_run_of_error {e : Ledger.FileError} (hFile : files.ledger = some file)
    (h : Ledger.ofFile file = .error e) (program path : String) (invocation : Invocation) :
    (run program s files lines invocation path).files.ledger = some file := by
  cases invocation with
  | usage => exact hFile
  | noPath => exact hFile
  | unknown word => exact hFile
  | start root task =>
    rw [run, start]
    split
    · exact hFile
    · next config _ =>
      have hOpened : (Files.mk config files.ledger).ledger = some file := hFile
      exact ledger_perform_of_error hOpened h task

-- ---------------------------------------------------------------------------
-- Lines that fail
-- ---------------------------------------------------------------------------

/-- A line that fails is answered on a ledger that can be read, and either it
leaves the file or it saves that ledger. It is left where the line breaks off
before there is an answer. -/
theorem ledger_runLine_of_failure {line : String} (hFile : files.ledger = some file)
    (h : Ledger.ofFile file = .ok l) (hExit : (runLine c s files line).exit ≠ 0) :
    (runLine c s files line).files.ledger = some file ∨
      (runLine c s files line).files.ledger = some l.toFile := by
  have hOpen : c.openLedger s files.ledger = .ok l := by rw [hFile, Config.openLedger, h]
  cases hAnswer : answerLine (s.setting c.formatting 0) line l with
  | error fault =>
    left
    simp only [runLine, hOpen, hAnswer]
    exact hFile
  | ok answer =>
    obtain ⟨r, l'⟩ := answer
    right
    simp only [runLine, hOpen, hAnswer] at hExit ⊢
    have hFailure : r.success = false := by
      by_contra hSuccess
      rw [Bool.not_eq_false] at hSuccess
      exact hExit (if_pos hSuccess)
    obtain ⟨entry, -, hSubmit⟩ := bind_eq_ok.mp hAnswer
    rw [Routes.eq_of_submit_failure hSubmit hFailure]

/-- The same of a call of the program for one line, which opens the
configuration first. -/
theorem ledger_run_of_failure {root : Option String} {line : String}
    (hFile : files.ledger = some file) (h : Ledger.ofFile file = .ok l) (program path : String)
    (hExit : (run program s files lines (.start root (.run line)) path).exit ≠ 0) :
    (run program s files lines (.start root (.run line)) path).files.ledger = some file ∨
      (run program s files lines (.start root (.run line)) path).files.ledger = some l.toFile := by
  rw [run, start] at hExit ⊢
  split at hExit
  · exact Or.inl hFile
  · next config _ =>
    have hOpened : (Files.mk config files.ledger).ledger = some file := hFile
    exact ledger_runLine_of_failure hOpened h hExit

/-- A ledger file that cannot be read keeps its text in every call of the
program. One that can be read holds the same ledger after a line that fails,
but for the signs of zeros. -/
theorem ledger_file_kept (program path file input : String) (s : Supply) (config : Option String)
    (arguments : List String) :
    let o := run program s ⟨config, some file⟩ (linesOf input) (.ofArguments arguments) path
    (∀ e, Ledger.ofFile file = .error e → o.files.ledger = some file) ∧
    ∀ l root line, Ledger.ofFile file = .ok l →
      Invocation.ofArguments arguments = .start root (.run line) → o.exit ≠ 0 →
      ∃ file' l', o.files.ledger = some file' ∧ Ledger.ofFile file' = .ok l' ∧
        (file' = file ∨ file' = l.toFile) ∧ (l' = l ∨ l' = l.withoutZeroSigns) ∧
        (l.Unsigned → l' = l) := by
  intro o
  refine ⟨fun e h => ledger_run_of_error rfl h program path _, fun l root line h hRun hExit => ?_⟩
  have hKept : o.files.ledger = some file ∨ o.files.ledger = some l.toFile := by
    simp only [o, hRun] at hExit ⊢
    exact ledger_run_of_failure rfl h program path hExit
  rcases hKept with hSame | hSaved
  · exact ⟨file, l, hSame, h, Or.inl rfl, Or.inl rfl, fun _ => rfl⟩
  · have hLoad : Ledger.ofFile l.toFile = .ok l.withoutZeroSigns := by
      rw [Ledger.ofFile_toFile, Ledger.reread_eq_withoutZeroSigns h]
    exact ⟨l.toFile, l.withoutZeroSigns, hSaved, hLoad, Or.inr rfl, Or.inr rfl,
      Ledger.withoutZeroSigns_of_unsigned⟩

/-- A call for one line on a ledger file, where there is no configuration
yet. -/
def callFor (line file : String) : Outcome :=
  run "famzoo" ⟨someDay, .noon someDay, promptIds⟩ ⟨none, some file⟩ (linesOf "")
    (.ofArguments ["run", line])

/-- A call whose line is refused saves the ledger that it has read. It ends with
the exit code of a failure, and the file is written all the same: the ledger has
not changed, but the text is the one that is written now. -/
theorem callFor_refused {line : String} (hLine : Submittable line)
    (hLoad : Ledger.ofFile file = .ok l) (hJournal : (journalEntry {} someDay line).isOk)
    (hRefused : ((Routes.standard.submit ⟨{}, someDay, ⟨promptIds sampleIds, .noon someDay⟩⟩ line
      l).map (·.1.success)).toOption = some false) :
    (callFor line file).exit = 1 ∧ (callFor line file).files.ledger = some l.toFile := by
  have hConfig : Config.loadOrCreate (Files.mk none (some file)).config =
      .ok ({}, true, some ({} : Config).toFile) := Config.loadOrCreate_none
  cases hSubmit : Routes.standard.submit ⟨{}, someDay, ⟨promptIds sampleIds, .noon someDay⟩⟩ line l
    with
  | error fault =>
    rw [hSubmit] at hRefused
    cases hRefused
  | ok answer =>
    obtain ⟨r, l'⟩ := answer
    rw [hSubmit] at hRefused
    have hFailure : r.success = false := Option.some.inj hRefused
    have hKept : l' = l := Routes.eq_of_submit_failure hSubmit hFailure
    have hRun := run_line (s := ⟨someDay, .noon someDay, promptIds⟩) "famzoo" hLine hConfig hLoad
      hJournal hSubmit
    rw [callFor, show linesOf "" = [] from rfl, hRun, hFailure, hKept]
    exact ⟨rfl, rfl⟩

/-- A text that is no ledger is kept by a line that would be answered, and a
household is kept by a bill that is too high. -/
theorem refused_calls_keep_ledgers :
    (callFor "account credit 5" "\x7b not json").files.ledger = some "\x7b not json" ∧
      (callFor "account debit 125.51" Routes.numbered.toFile).exit = 1 ∧
      ∃ file', (callFor "account debit 125.51" Routes.numbered.toFile).files.ledger = some file' ∧
        Ledger.ofFile file' = .ok Routes.numbered := by
  have hLoad : Ledger.ofFile Routes.numbered.toFile = .ok Routes.numbered := by
    rw [Ledger.ofFile_toFile]
    exact congrArg Except.ok (Ledger.reread_sample _ (by decide +kernel))
  have hLine : Submittable "account debit 125.51" := by decide +kernel
  have hExit := (callFor_refused hLine hLoad (by decide +kernel) (by decide +kernel)).1
  have hNot : (callFor "account debit 125.51" Routes.numbered.toFile).exit ≠ 0 := by
    rw [hExit]
    decide
  obtain ⟨hBroken, -⟩ := ledger_file_kept "famzoo" Config.fileName "\x7b not json" ""
    ⟨someDay, .noon someDay, promptIds⟩ none ["run", "account credit 5"]
  obtain ⟨-, hFailed⟩ := ledger_file_kept "famzoo" Config.fileName Routes.numbered.toFile ""
    ⟨someDay, .noon someDay, promptIds⟩ none ["run", "account debit 125.51"]
  obtain ⟨file', l', hFile, hLoad', -, -, hSame⟩ := hFailed Routes.numbered none
    "account debit 125.51" hLoad hLine.ofArguments_run hNot
  obtain rfl := hSame (by decide +kernel)
  unfold callFor at hExit ⊢
  exact ⟨hBroken .malformed (by decide +kernel), hExit, file', hFile, hLoad'⟩

/-- Money is to be taken out of the jar, which is refused. The jar is saved
nevertheless, and when it is loaded again its amount has lost the sign. -/
theorem jar_changed_by_refusal :
    Ledger.ofFile (String.join jarParts) = .ok jar ∧
      (callFor "account debit 5" (String.join jarParts)).exit = 1 ∧
      ∃ file' l', (callFor "account debit 5" (String.join jarParts)).files.ledger = some file' ∧
        Ledger.ofFile file' = .ok l' ∧ l' ≠ jar := by
  have hLine : Submittable "account debit 5" := by decide +kernel
  obtain ⟨hExit, hSaved⟩ := callFor_refused hLine ofFile_jarParts (by decide +kernel)
    (by decide +kernel)
  refine ⟨ofFile_jarParts, hExit, jar.toFile, jar.reread, hSaved, Ledger.ofFile_toFile jar, ?_⟩
  intro h
  exact toFile_jar_reread (congrArg Ledger.toFile h)

-- ---------------------------------------------------------------------------
-- The configuration
-- ---------------------------------------------------------------------------

/-- No task writes the configuration, which is opened before it. -/
theorem config_perform (task : Task) :
    (perform c s files lines task).files.config = files.config := by
  cases task with
  | prompt =>
    rw [perform, runPrompt]
    split
    · rfl
    · simp only
      split <;> rfl
  | run line =>
    rw [perform, runLine]
    split
    · rfl
    · split <;> rfl
  | encode line => rw [perform, files_tell]
  | decode text => rw [perform, files_tell]

/-- The configuration file at a path once it was opened. An error leaves it as
it is. -/
def configAfter (path : String) (file : Option String) : Option String :=
  match Config.loadOrCreate file path with
  | .ok (_, _, file') => file'
  | .error _ => file

/-- What becomes of the configuration by a call is decided when it is opened,
whatever the task is. -/
theorem config_start (path : String) (task : Task) :
    (start s files lines task path).files.config = configAfter path files.config := by
  rw [start, configAfter]
  split
  · next hOpen =>
    simp only [hOpen]
    rfl
  · next hOpen =>
    simp only [hOpen]
    exact config_perform task

/-- Where there is no configuration, the defaults are written, and found by
the next call. A file that can be read is opened and kept. One that cannot be
read is an error with a report on one of its lines, and kept as well, unless
the path, this line or what is said about it has the words of an error about a
missing file. Then the file is said to be new and the defaults are written
over it. -/
theorem config_file_opened (path : String) :
    (Config.loadOrCreate none path = .ok ({}, true, some ({} : Config).toFile) ∧
      Config.loadOrCreate (some ({} : Config).toFile) path =
        .ok ({}, false, some ({} : Config).toFile)) ∧
    (∀ file c, Config.ofFile file = .ok c →
      Config.loadOrCreate (some file) path = .ok (c, false, some file)) ∧
    (∀ file e, Config.ofFile file = .error e →
      ∃ report : Toml.Report, e = .malformed report ∧
        report.quoted.toList ∈ file.toList.splitOn '\n' ∧
        (¬Config.MentionsMissing path report →
          Config.loadOrCreate (some file) path = .error e) ∧
        (Config.MentionsMissing path report →
          Config.loadOrCreate (some file) path = .ok ({}, true, some ({} : Config).toFile))) ∧
    ∀ s files lines task,
      (start s files lines task path).files.config = configAfter path files.config := by
  refine ⟨⟨Config.loadOrCreate_none, Config.loadOrCreate_of_ok Config.ofFile_defaults⟩,
    fun file c h => Config.loadOrCreate_of_ok h, fun file e h => ?_,
    fun s files lines task => config_start path task⟩
  obtain ⟨flaw, rfl⟩ := Config.exists_malformed h
  refine ⟨Toml.report file flaw, rfl, Toml.lineAt_mem_splitOn file flaw.span.start,
    fun hSilent => ?_, fun hMentions => ?_⟩
  · rw [Config.loadOrCreate_of_error h, if_neg]
    rwa [Config.saysMissing_malformed]
  · rw [Config.loadOrCreate_of_error h, if_pos]
    rwa [Config.saysMissing_malformed]

/-- What is wrong with a list that is not closed, where the line of it is this
one. The report points to the place behind the bracket. -/
def openList (line : String) : Toml.Report where
  line := 0
  column := 13
  quoted := line
  marks := 1
  words := "unclosed array, expected `]`"

/-- A list that is not closed is an error, unless the comment behind it has the
words. -/
theorem open_lists_told_apart :
    Config.loadOrCreate (some "log_level = \"debug\"") Config.fileName =
        .ok ({ logLevel := "debug" }, false, some "log_level = \"debug\"") ∧
      Config.loadOrCreate (some "log_level = [") Config.fileName =
        .error (.malformed (openList "log_level = [")) ∧
      Config.loadOrCreate (some "log_level = [ # Config file not found") Config.fileName =
        .ok ({}, true, some ({} : Config).toFile) := by
  obtain ⟨-, hRead, hBroken, -⟩ := config_file_opened Config.fileName
  refine ⟨hRead _ _ (by decide +kernel), ?_, ?_⟩
  · let file := "log_level = ["
    have hLoad : Config.ofFile file = .error (.malformed (openList file)) := by decide +kernel
    obtain ⟨report, hError, -, hKept, -⟩ := hBroken file _ hLoad
    obtain rfl := Config.LoadError.malformed.inj hError
    exact hKept (by decide +kernel)
  · let file := "log_level = [ # Config file not found"
    have hLoad : Config.ofFile file = .error (.malformed (openList file)) := by decide +kernel
    obtain ⟨report, hError, -, -, hLost⟩ := hBroken file _ hLoad
    obtain rfl := Config.LoadError.malformed.inj hError
    exact hLost (by decide +kernel)

/-- A file with nothing but the words themselves cannot be read. It is said to
be new, and the defaults are written over it by the next call. -/
theorem mentioned_words_overwritten :
    let file := "Config file not found\n"
    (∃ e, Config.ofFile file = .error e) ∧
      Config.loadOrCreate (some file) = .ok ({}, true, some ({} : Config).toFile) ∧
      ({} : Config).toFile ≠ file ∧
      ∀ s ledger lines task,
        (start s ⟨some file, ledger⟩ lines task).files.config = some ({} : Config).toFile := by
  intro file
  let report : Toml.Report := ⟨0, 7, "Config file not found", 1, "key with no value, expected `=`"⟩
  have hLoad : Config.ofFile file = .error (.malformed report) := by decide +kernel
  have hMentions : Config.MentionsMissing Config.fileName report :=
    Or.inr (Or.inl (List.infix_refl _))
  have hOpen : Config.loadOrCreate (some file) = .ok ({}, true, some ({} : Config).toFile) := by
    rw [Config.loadOrCreate_of_error hLoad, if_pos]
    rwa [Config.saysMissing_malformed]
  refine ⟨⟨_, hLoad⟩, hOpen, by decide +kernel, fun s ledger lines task => ?_⟩
  rw [config_start, configAfter, hOpen]

end HomeLedger.Shell
