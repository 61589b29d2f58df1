import HomeLedger.Proofs.Config
import HomeLedger.Proofs.Outcome
import HomeLedger.Proofs.Shell.Draws
import HomeLedger.Proofs.Shell.Lines

/-!
# HomeLedger — two ways to hold a session

The lines of a session can be typed at one prompt, or each can be given to a
process of its own. The prompt keeps the ledger and saves it after each line.
A process loads the ledger that the one before it has saved, answers its line,
and saves the ledger again, be the answer a failure or not.

Both follow the household (`Routes.run`) on the ledger that is opened first.
The prompt follows it step by step. That the processes do rests on what they
load being what was saved, which it is but for zeros with a sign; and their ids
are other ones than those of the prompt.

Main results:

* `run_prompt` — what the prompt prints and saves.
* `runEach_eq` — what processes print and save.
* `sessions_agree` — both do the same, up to the ids that they draw.
-/

namespace HomeLedger

open Text

-- ---------------------------------------------------------------------------
-- The prompt
-- ---------------------------------------------------------------------------

namespace Prompt

/-- What a dialogue looks like in which responses are given. -/
def dialogue : List Response → String
  | [] => mark
  | r :: rs => mark ++ r.printed ++ dialogue rs

/-- The prompt answers its lines as the household does. By induction on the
lines: each is one step of a run, and the number of the line and the saved file
go along. -/
theorem run_eq {c : Config} {s : Supply} {p : Prompt} {lines : List String} {rs : List Response}
    {l' : Ledger} (hLines : ∀ line ∈ lines, Submittable line)
    (hJournal : ∀ line ∈ lines, (journalEntry c.formatting s.today line).isOk)
    (hRun : Routes.standard.run (asked (s.setting c.formatting) p.line lines) p.ledger =
      .ok (rs, l')) :
    p.run c s lines = (dialogue rs, if lines = [] then p.file else some l'.toFile, none) := by
  induction lines generalizing p rs with
  | nil =>
    obtain ⟨rfl, rfl⟩ := Prod.mk.inj (Except.ok.inj hRun)
    rfl
  | cons line rest ih =>
    obtain ⟨hLine, hOthers⟩ := List.forall_mem_cons.mp hLines
    obtain ⟨hEntry, hEntries⟩ := List.forall_mem_cons.mp hJournal
    rw [asked_cons] at hRun
    obtain ⟨r, m, rs', hSubmit, hRest, rfl⟩ := Routes.run_cons hRun
    have hStep : p.step c s line = .ok (some (r.printed, ⟨p.line + 1, m, some m.toFile⟩)) := by
      rw [hLine.step_eq, answerLine_eq (s := s.setting c.formatting p.line) hEntry, hSubmit]
      rfl
    have hAfter := ih (p := ⟨p.line + 1, m, some m.toFile⟩) hOthers hEntries hRest
    rw [run, hStep]
    simp only [hAfter, dialogue]
    -- after the last line the file is the one that this line has left
    cases rest with
    | nil =>
      obtain ⟨rfl, rfl⟩ := Prod.mk.inj (Except.ok.inj hRest)
      rfl
    | cons => rfl

end Prompt

namespace Shell

variable (program : String) {files : Files} {c : Config} {created : Bool} {config : Option String}
  {l l' : Ledger} {lines : List String} {rs : List Response}

/-- What the prompt prints and leaves for lines that are typed in. -/
theorem run_prompt {s : Supply}
    (hConfig : Config.loadOrCreate files.config = .ok (c, created, config))
    (hOpen : c.openLedger s files.ledger = .ok l) (hLines : ∀ line ∈ lines, Submittable line)
    (hJournal : ∀ line ∈ lines, (journalEntry c.formatting s.today line).isOk)
    (hRun : Routes.standard.run (asked (s.setting c.formatting) 0 lines) l = .ok (rs, l')) :
    run program s files (linesOf (unlines lines)) (.ofArguments []) =
      { exit := 0
        out := Prompt.greeting ++ Prompt.dialogue rs
        files := ⟨config, if lines = [] then files.ledger else some l'.toFile⟩ } := by
  have hDialogue := Prompt.run_eq (p := ⟨0, l, files.ledger⟩) hLines hJournal hRun
  rw [linesOf_unlines fun line hLine => (hLines line hLine).single]
  show start s files lines .prompt = _
  rw [start, hConfig]
  show runPrompt c s { files with config } lines = _
  unfold runPrompt
  simp only [hOpen, hDialogue]

-- ---------------------------------------------------------------------------
-- Processes
-- ---------------------------------------------------------------------------

/-- Runs each line in a process of its own, on the files that the one before has
left. The processes are numbered from a number on, so that each can draw its own
ids. -/
def runEach (program : String) (supply : Nat → Supply) (first : Nat) :
    List String → Files → List Outcome × Files
  | [], files => ([], files)
  | line :: rest, files =>
    let o := run program (supply first) files [] (.ofArguments ["run", line])
    let (os, files) := runEach program supply (first + 1) rest o.files
    (o :: os, files)

/-- What a process prints and leaves for its line. It tells a failure by how it
ends, and saves the ledger in either case. -/
theorem run_line {s : Supply} {line : String} {r : Response} (hLine : Submittable line)
    (hConfig : Config.loadOrCreate files.config = .ok (c, created, config))
    (hOpen : c.openLedger s files.ledger = .ok l)
    (hJournal : (journalEntry c.formatting s.today line).isOk)
    (hSubmit : Routes.standard.submit (s.setting c.formatting 0) line l = .ok (r, l')) :
    run program s files [] (.ofArguments ["run", line]) =
      { exit := if r.success then 0 else 1
        out := r.printed
        files := ⟨config, some l'.toFile⟩ } := by
  rw [hLine.ofArguments_run]
  show start s files [] (.run line) = _
  rw [start, hConfig]
  show runLine c s { files with config } line = _
  unfold runLine
  have hAnswer : answerLine (s.setting c.formatting 0) line l = .ok (r, l') :=
    (answerLine_eq (s := s.setting c.formatting 0) hJournal).trans hSubmit
  simp only [hOpen, hAnswer]

end Shell

/-- How a program ends, apart from its files: its exit code, and what it has
printed to either stream. -/
def Outcome.told (o : Outcome) : Nat × String × String := (o.exit, o.out, o.err)

/-- What a process tells that answers with a response. -/
def Response.told (r : Response) : Nat × String × String :=
  (if r.success then 0 else 1, r.printed, "")

namespace Draws

/-- At the prompt all ids are drawn from one supply. -/
def prompt (ids : Nat → String) : Draws := ⟨ids, fun line => ids (sampleIds + line)⟩

/-- Each process draws from a supply of its own, and the first one draws those
of a new ledger. -/
def processes (ids : Nat → Nat → String) : Draws := ⟨ids 0, fun line => ids line sampleIds⟩

end Draws

namespace Shell

variable (program : String) {files : Files} {c : Config} {created : Bool} {config : Option String}
  {l l' : Ledger} {lines : List String} {rs : List Response} {today : Date} {now : Instant}

/-- Processes answer their lines as the household does, if every ledger that is
loaded again is loaded as it was saved. By induction on the lines: the ledger
that a process leaves is the one that the next process loads. -/
theorem runEach_eq {ids : Nat → Nat → String} {first : Nat}
    (hConfig : Config.loadOrCreate files.config = .ok (c, created, config))
    (hOpen : lines ≠ [] → c.openLedger ⟨today, now, ids first⟩ files.ledger = .ok l)
    (hLines : ∀ line ∈ lines, Submittable line)
    (hJournal : ∀ line ∈ lines, (journalEntry c.formatting today line).isOk)
    (hNow : now.carried = now) (hKept : lines.length ≤ 1 ∨ l.reread = l)
    (hRun : Routes.standard.run
      (asked ((Draws.processes ids).setting c.formatting today now) first lines) l =
        .ok (rs, l')) :
    (runEach program (fun i => ⟨today, now, ids i⟩) first lines files).1.map Outcome.told =
        rs.map Response.told ∧
      (runEach program (fun i => ⟨today, now, ids i⟩) first lines files).2 =
        if lines = [] then files else ⟨config, some l'.toFile⟩ := by
  induction lines generalizing first files created l rs with
  | nil =>
    obtain ⟨rfl, rfl⟩ := Prod.mk.inj (Except.ok.inj hRun)
    exact ⟨rfl, rfl⟩
  | cons line rest ih =>
    obtain ⟨hLine, hOthers⟩ := List.forall_mem_cons.mp hLines
    obtain ⟨hEntry, hEntries⟩ := List.forall_mem_cons.mp hJournal
    rw [asked_cons] at hRun
    obtain ⟨r, m, rs', hSubmit, hRest, rfl⟩ := Routes.run_cons hRun
    have hFirst := run_line program hLine hConfig (hOpen (by simp)) hEntry hSubmit
    -- if there is another line, the ledger is one that a file keeps, and so is the next one
    have hReread : rest ≠ [] → m.reread = m := by
      intro hne
      rcases hKept with hShort | hReread
      · have hLength := List.length_pos_iff.mpr hne
        rw [List.length_cons] at hShort
        omega
      · exact Ledger.reread_of_step (Routes.step_of_submit hSubmit) hReread hNow
    have hNext : rest ≠ [] →
        c.openLedger ⟨today, now, ids (first + 1)⟩ (some m.toFile) = .ok m := fun hne =>
      (Ledger.ofFile_toFile m).trans (congrArg Except.ok (hReread hne))
    have hKeptNext : rest.length ≤ 1 ∨ m.reread = m := by
      by_cases hne : rest = []
      · exact Or.inl (by simp [hne])
      · exact Or.inr (hReread hne)
    have hAgain : Config.loadOrCreate (Files.mk config (some m.toFile)).config =
        .ok (c, false, config) := Config.loadOrCreate_again hConfig
    obtain ⟨hTold, hFiles⟩ := ih hAgain hNext hOthers hEntries hKeptNext hRest
    rw [runEach]
    simp only [hFirst]
    refine ⟨?_, ?_⟩
    · rw [List.map_cons, List.map_cons, hTold]
      rfl
    · rw [hFiles, if_neg (List.cons_ne_nil line rest)]
      split
      · next hNil =>
        subst hNil
        obtain ⟨rfl, rfl⟩ := Prod.mk.inj (Except.ok.inj hRest)
        rfl
      · rfl

-- ---------------------------------------------------------------------------
-- Both
-- ---------------------------------------------------------------------------

/-- A ledger that is opened is one that a file keeps, unless its file has a zero
with a sign. A new one has none. -/
theorem reread_of_openLedger {s : Supply} (hNow : s.now.carried = s.now)
    (hOpen : c.openLedger s files.ledger = .ok l) (h : files.ledger = none ∨ l.Unsigned) :
    l.reread = l := by
  cases hFile : files.ledger with
  | none =>
    rw [hFile] at hOpen
    obtain rfl := Except.ok.inj hOpen
    exact Config.reread_newLedger hNow
  | some file =>
    rw [hFile] at hOpen
    exact Ledger.reread_of_ofFile hOpen (h.resolve_left (by simp [hFile]))

/-- A prompt prints the answers of the household to its lines, whose ids are
drawn from the same supply, and leaves its ledger.

Processes print the same for each line and leave the same ledger, up to a
renaming of the ids that are drawn, if these are new. This is so unless there
are two lines or more and the ledger file has a zero with a sign. -/
theorem sessions_agree {ids : Nat → String} (ids' : Nat → Nat → String)
    (hConfig : Config.loadOrCreate files.config = .ok (c, created, config))
    (hOpen : c.openLedger ⟨today, now, ids⟩ files.ledger = .ok l)
    (hLines : ∀ line ∈ lines, Submittable line)
    (hJournal : ∀ line ∈ lines, (journalEntry c.formatting today line).isOk)
    (hRun : Routes.standard.run
      (asked ((Draws.prompt ids).setting c.formatting today now) 0 lines) l = .ok (rs, l')) :
    run program ⟨today, now, ids⟩ files (linesOf (unlines lines)) (.ofArguments []) =
      { exit := 0
        out := Prompt.greeting ++ Prompt.dialogue rs
        files := ⟨config, if lines = [] then files.ledger else some l'.toFile⟩ } ∧
    (now.carried = now → files.ledger = none ∨ lines.length ≤ 1 ∨ l.Unsigned →
      Draws.New ((Draws.prompt ids).ids files.ledger lines.length)
        (knownTexts c today files.ledger l lines) →
      Draws.New ((Draws.processes ids').ids files.ledger lines.length)
        (knownTexts c today files.ledger l lines) →
      ∃ ρ : Renaming,
        (∀ id, id ∉ (Draws.prompt ids).ids files.ledger lines.length →
          id ∉ (Draws.processes ids').ids files.ledger lines.length → ρ id = id) ∧
        (runEach program (fun i => ⟨today, now, ids' i⟩) 0 lines files).1.map Outcome.told =
          rs.map (fun r => (r.renamed ρ).told) ∧
        (runEach program (fun i => ⟨today, now, ids' i⟩) 0 lines files).2 =
          if lines = [] then files else ⟨config, some (l'.renamed ρ).toFile⟩) := by
  refine ⟨run_prompt program hConfig hOpen hLines hJournal hRun, fun hNow hKept hNew hNew' => ?_⟩
  obtain ⟨ρ, hOthers, hOpen', hRun'⟩ := exists_renamed_run hOpen hNew hNew' hRun
  refine ⟨ρ, hOthers, ?_⟩
  -- a new ledger is kept by its file, as is one without such zeros; one line loads nothing again
  have hReread : lines.length ≤ 1 ∨ (l.renamed ρ).reread = l.renamed ρ := by
    rcases hKept with hNone | hShort | hUnsigned
    · exact Or.inr (Ledger.reread_renamed (reread_of_openLedger hNow hOpen (Or.inl hNone)))
    · exact Or.inl hShort
    · exact Or.inr (Ledger.reread_renamed (reread_of_openLedger hNow hOpen (Or.inr hUnsigned)))
  have hEach := runEach_eq program hConfig (fun _ => hOpen') hLines hJournal hNow
    hReread hRun'
  rwa [List.map_map] at hEach

/-- Ids that a prompt may draw, which are all different. -/
def promptIds (n : Nat) : String := "p" ++ toString n

/-- Ids that processes may draw, different for each process and from those of
the prompt. -/
def processIds (i n : Nat) : String := "q" ++ toString i ++ "-" ++ toString n

/-- A day. -/
def someDay : Date := ⟨2026, 1, 9, by decide⟩

/-- A gift, a bill that is too high, and a look at what is left. -/
def fewLines : List String :=
  ["account credit 25 --note gift", "account debit 1000", "account balance"]

/-- There are no files before, and the second line fails. -/
theorem fewLines_agree :
    let prompt := run "famzoo" ⟨someDay, .noon someDay, promptIds⟩ {}
      (linesOf (unlines fewLines)) (.ofArguments [])
    let processes := runEach "famzoo" (fun i => ⟨someDay, .noon someDay, processIds i⟩) 0
      fewLines {}
    ∃ (rs : List Response) (l : Ledger) (ρ : Renaming),
      rs.map (·.success) = [true, false, true] ∧
      prompt.out = Prompt.greeting ++ Prompt.dialogue rs ∧
      prompt.files.ledger = some l.toFile ∧
      processes.1.map Outcome.told = rs.map (fun r => (r.renamed ρ).told) ∧
      processes.2.ledger = some (l.renamed ρ).toFile := by
  intro prompt processes
  have hConfig : Config.loadOrCreate ({} : Files).config =
      .ok ({}, true, some ({} : Config).toFile) := Config.loadOrCreate_none
  let lines := asked ((Draws.prompt promptIds).setting {} someDay (.noon someDay)) 0 fewLines
  let l := ({} : Config).newLedger ⟨someDay, .noon someDay, promptIds⟩
  have hSuccesses : ((Routes.standard.run lines l).map fun answers =>
      answers.1.map (·.success)).toOption = some [true, false, true] := by
    decide +kernel
  cases hRun : Routes.standard.run lines l with
  | error fault =>
    rw [hRun] at hSuccesses
    cases hSuccesses
  | ok answers =>
    rw [hRun] at hSuccesses
    obtain ⟨hPrompt, hProcesses⟩ := sessions_agree "famzoo" processIds hConfig rfl
      (by decide +kernel) (by decide +kernel) hRun
    obtain ⟨ρ, -, hTold, hFiles⟩ := hProcesses (by decide +kernel) (Or.inl rfl)
      ⟨by decide +kernel, by decide +kernel⟩ ⟨by decide +kernel, by decide +kernel⟩
    exact ⟨answers.1, answers.2, ρ, Option.some.inj hSuccesses, congrArg (·.out) hPrompt,
      congrArg (·.files.ledger) hPrompt, hTold, congrArg (·.ledger) hFiles⟩

-- ---------------------------------------------------------------------------
-- A zero with a sign
-- ---------------------------------------------------------------------------

/-- The parts of a ledger file, in which an amount is read as a zero with a
sign. -/
def jarParts : List String :=
  ["\x7b\"version\": 1, \"family\": \x7b\"members\": [], ",
    "\"accounts\": [\x7b\"id\": \"a\", \"name\": \"Jar\", ",
    "\"kind\": \"savings\", \"owner_id\": \"m\", \"currency\": \"USD\"\x7d], ",
    "\"transactions\": [\x7b\"id\": \"t\", \"kind\": \"credit\", ",
    "\"amount\": \"-0.1e-28\", \"account_id\": \"a\", \"description\": \"\", ",
    "\"created_at\": \"2026-01-09T12:00:00Z\"\x7d], \"lists\": []\x7d\x7d"]

/-- The ledger in that file. -/
def jar : Ledger :=
  { Ledger.single Ledger.signedZero (.noon someDay) with
    accounts :=
      [{ id := "a", name := "Jar", kind := .savings, ownerId := "m", currency := "USD" }] }

/-- A ledger file is read character by character, which is how the reading of a
long text is followed here in small steps. -/
theorem ofFile_eq {text : String} {cs : List Char} (h : text.toList = cs) :
    Ledger.ofFile text =
      match ((Node.read? (2 * cs.length + 2) cs).bind fun (node, rest) =>
        if (Node.skip rest).isEmpty then some node else none).bind Ledger.versionedOfNode? with
      | none => .error .malformed
      | some (version, l) =>
        if Ledger.fileVersion < version then .error (.tooNew version) else .ok l := by
  subst h
  rfl

theorem ofFile_jarParts : Ledger.ofFile (String.join jarParts) = .ok jar := by
  have hText : (String.join jarParts).toList = jarParts.flatMap String.toList := by simp
  exact (ofFile_eq hText).trans (eq_ok_of_toOption (by decide +kernel))

/-- A look at the jar does not depend on the id that is drawn for it, because
nothing is booked. -/
theorem submit_balance (id : String) (l : Ledger) :
    Routes.standard.submit ⟨{}, someDay, ⟨id, .noon someDay⟩⟩ "account balance" l =
      Routes.standard.submit ⟨{}, someDay, ⟨"", .noon someDay⟩⟩ "account balance" l := by
  have hRead : Command.read {} someDay "account balance" =
      .ok ⟨.account, .balance, [], "account balance"⟩ := rfl
  rw [Routes.submit, Routes.submit, hRead]
  rfl

/-- It tells of the sign before the jar is saved, and no longer once it was
loaded again. -/
theorem submit_jar : ∃ r r' : Response,
    (∀ id, Routes.standard.submit ⟨{}, someDay, ⟨id, .noon someDay⟩⟩ "account balance" jar =
      .ok (r, jar)) ∧
    (∀ id, Routes.standard.submit ⟨{}, someDay, ⟨id, .noon someDay⟩⟩ "account balance" jar.reread =
      .ok (r', jar.reread)) ∧
    r.told ≠ r'.told := by
  refine ⟨_, _, fun id => (submit_balance id jar).trans rfl,
    fun id => (submit_balance id jar.reread).trans rfl, ?_⟩
  decide +kernel

/-- The sign is in the file before the jar is loaded again, and not
afterwards. -/
theorem toFile_jar_reread : jar.reread.toFile ≠ jar.toFile := by
  intro h
  exact absurd (String.ofList_injective h) (by decide +kernel)

/-- The files after a look at the jar. -/
def jarFiles (l : Ledger) : Files := ⟨some ({} : Config).toFile, some l.toFile⟩

/-- Two looks at the jar in a row. At the prompt both tell of the sign, as
those of the household do, and the file has it afterwards. Of two processes,
only the first one tells of it, and it is gone from the file. No id is drawn
for the ledger, which stays what it is. -/
theorem jar_told_apart :
    let lines := ["account balance", "account balance"]
    let files : Files := ⟨none, some (String.join jarParts)⟩
    let prompt := run "famzoo" ⟨someDay, .noon someDay, promptIds⟩ files
      (linesOf (unlines lines)) (.ofArguments [])
    let processes := runEach "famzoo" (fun i => ⟨someDay, .noon someDay, processIds i⟩) 0
      lines files
    (∀ line ∈ lines, Submittable line) ∧
    (∀ line ∈ lines, (journalEntry {} someDay line).isOk) ∧
    ({} : Config).openLedger ⟨someDay, .noon someDay, promptIds⟩ files.ledger = .ok jar ∧
    ∃ rs, Routes.standard.run (asked ((Draws.prompt promptIds).setting {} someDay (.noon someDay)) 0
        lines) jar = .ok (rs, jar) ∧
      prompt.out = Prompt.greeting ++ Prompt.dialogue rs ∧
      prompt.files.ledger = some jar.toFile ∧
      processes.1.map Outcome.told ≠ rs.map Response.told ∧
      processes.2.ledger ≠ some jar.toFile := by
  intro lines files prompt processes
  obtain ⟨r, r', hr, hr', hne⟩ := submit_jar
  have hLine : Submittable "account balance" := by decide +kernel
  have hEntry : (journalEntry {} someDay "account balance").isOk = true := by decide +kernel
  have hLines : ∀ line ∈ lines, Submittable line := by simp [lines, hLine]
  have hJournal : ∀ line ∈ lines, (journalEntry {} someDay line).isOk = true := by
    simp [lines, hEntry]
  have hConfig : Config.loadOrCreate files.config = .ok ({}, true, some ({} : Config).toFile) :=
    Config.loadOrCreate_none
  have hOpen : ∀ ids, ({} : Config).openLedger ⟨someDay, .noon someDay, ids⟩ files.ledger =
      .ok jar := fun _ => ofFile_jarParts
  have hRun : Routes.standard.run (asked ((Draws.prompt promptIds).setting {} someDay
      (.noon someDay)) 0 lines) jar = .ok ([r, r], jar) :=
    Routes.run_cons_eq (hr _) (Routes.run_cons_eq (hr _) rfl)
  have hPrompt := run_prompt "famzoo" hConfig (hOpen promptIds) hLines hJournal hRun
  -- two processes, the second on the files that the first one has left
  have hProcesses : processes =
      ([⟨if r.success then 0 else 1, r.printed, "", jarFiles jar⟩,
        ⟨if r'.success then 0 else 1, r'.printed, "", jarFiles jar.reread⟩],
      jarFiles jar.reread) := by
    have hFirst := run_line "famzoo" hLine hConfig (hOpen (processIds 0)) hEntry (hr _)
    -- the second process finds what the first one has saved
    have hAgain : Config.loadOrCreate (jarFiles jar).config =
        .ok ({}, false, some ({} : Config).toFile) := Config.loadOrCreate_again hConfig
    have hSecond := run_line (s := ⟨someDay, .noon someDay, processIds 1⟩) "famzoo" hLine hAgain
      (Ledger.ofFile_toFile jar) hEntry (hr' _)
    show runEach _ _ 0 lines files = _
    rw [runEach, hFirst, runEach, show Files.mk _ _ = jarFiles jar from rfl, hSecond, runEach]
    rfl
  refine ⟨hLines, hJournal, hOpen promptIds, [r, r], hRun, ?_, ?_, ?_, ?_⟩
  · simp only [prompt, lines, hPrompt]
  · simp only [prompt, lines, hPrompt, if_neg (List.cons_ne_nil _ _)]
  · rw [hProcesses]
    intro h
    exact hne (List.cons.inj (List.cons.inj h).2).1.symm
  · rw [hProcesses]
    exact fun h => toFile_jar_reread (Option.some.inj h)

end Shell

end HomeLedger
