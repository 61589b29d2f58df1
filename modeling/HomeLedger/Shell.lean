import HomeLedger.Shell.Prompt

/-!
# HomeLedger — the program

What the program prints, how it exits and what it leaves in its files, for given arguments, lines of
input and files. An error exits with 1, an unknown word with 2 and a fault with 101, and each of
them is told on the error stream.

The configuration is opened before anything is done, and written if there is none. The ledger is
opened only by those tasks that need it. A line that is run is saved before its response is printed,
whether it succeeded or not.
-/

namespace HomeLedger

/-- How the program ends. -/
structure Outcome where
  exit : Nat
  out : String := ""
  /-- What goes to the error stream. -/
  err : String := ""
  /-- The files afterwards. -/
  files : Files
  deriving DecidableEq, Repr

namespace Shell

/-- The end after an error. -/
def failed (files : Files) (message : String) : Outcome :=
  { exit := 1, err := s!"Error: {message}\n", files }

/-- The end if the program does not know what to do. -/
def unknownWord (files : Files) (word : String) : Outcome :=
  { exit := 2, err := s!"Unknown argument '{word}'. See --help.\n", files }

/-- The end after a fault, behind what was printed before. -/
def broken (files : Files) (out : String) (fault : Fault) : Outcome :=
  { exit := 101, out, err := s!"Fault: {fault.message}\n", files }

-- ---------------------------------------------------------------------------
-- Tasks
-- ---------------------------------------------------------------------------

/-- Prints a result, or fails. -/
def tell (files : Files) : Except String String → Outcome
  | .ok text => { exit := 0, out := text ++ "\n", files }
  | .error message => failed files message

/-- Answers one line. -/
def runLine (c : Config) (s : Supply) (files : Files) (line : String) : Outcome :=
  match c.openLedger s files.ledger with
  | .error e => failed files e.message
  | .ok l =>
    match answerLine (s.setting c.formatting 0) line l with
    | .error fault => broken files "" fault
    | .ok (response, l) =>
      { exit := if response.success then 0 else 1
        out := response.printed
        files := { files with ledger := some l.toFile } }

/-- Answers lines. -/
def runPrompt (c : Config) (s : Supply) (files : Files) (lines : List String) : Outcome :=
  match c.openLedger s files.ledger with
  | .error e => failed files e.message
  | .ok l =>
    let (out, file, fault) := Prompt.run c s { ledger := l, file := files.ledger } lines
    let files := { files with ledger := file }
    match fault with
    | none => { exit := 0, out := Prompt.greeting ++ out, files }
    | some fault => broken files (Prompt.greeting ++ out) fault

/-- Does a task under a configuration. -/
def perform (c : Config) (s : Supply) (files : Files) (lines : List String) : Task → Outcome
  | .prompt => runPrompt c s files lines
  | .run line => runLine c s files line
  | .encode line => tell files (encodeLine c s.today line)
  | .decode text => tell files (decodeText c s.today text)

/-- Does a task on files, where the configuration file is at a path. -/
def start (s : Supply) (files : Files) (lines : List String) (task : Task)
    (path : String := Config.fileName) : Outcome :=
  match Config.loadOrCreate files.config path with
  | .error e => failed files (e.message path)
  | .ok (c, _, config) => perform c s { files with config } lines task

-- ---------------------------------------------------------------------------
-- The program
-- ---------------------------------------------------------------------------

/-- The lines of an input; the last one may lack its line break. -/
def linesOf (input : String) : List String :=
  let lines := input.toList.splitOn '\n'
  (if lines.getLast? = some [] then lines.dropLast else lines).map String.ofList

/-- Does what arguments mean on files, where the configuration file is at a path. -/
def run (program : String) (s : Supply) (files : Files) (lines : List String)
    (invocation : Invocation) (path : String := Config.fileName) : Outcome :=
  match invocation with
  | .usage => { exit := 0, out := usageText program, files }
  | .noPath => failed files "--root needs a path"
  | .unknown word => unknownWord files word
  | .start _ task => start s files lines task path

end Shell

end HomeLedger
