import HomeLedger.Shell
import HomeLedger.Storage
import Std.Time.Zoned

/-!
# HomeLedger — the command line

The outermost layer: it finds the files, the clock and random bytes, hands them to `Shell.run`, and
writes and prints what comes back. Only the prompt is held line by line, so that each answer appears
before the next line is read.
-/

namespace HomeLedger.CommandLine

-- ---------------------------------------------------------------------------
-- Files
-- ---------------------------------------------------------------------------

/-- The directories of the configuration and of the ledger. -/
structure Places where
  config : String
  data : String

/-- The name of the program's own directories. -/
def ownName : String := "famzoo-payer"

/-- A directory of the user: a variable of the environment, or a path below the home directory. -/
def userDirectory (name path : String) : IO String := do
  match ← IO.getEnv name with
  | some dir => if "/".toList.isPrefixOf dir.toList then return s!"{dir}/{ownName}" else pure ()
  | none => pure ()
  match ← IO.getEnv "HOME" with
  | some home => return s!"{home}/{path}/{ownName}"
  | none => throw (IO.userError "No home directory")

/-- The directories below a root, or those of the user. They are made if they are not there. -/
def findPlaces (root : Option String) : IO Places := do
  let places ← match root with
    | some root => pure { config := s!"{root}/config", data := s!"{root}/data" }
    | none => do
      let config ← userDirectory "XDG_CONFIG_HOME" ".config"
      let data ← userDirectory "XDG_DATA_HOME" ".local/share"
      pure { config, data }
  IO.FS.createDirAll places.config
  IO.FS.createDirAll places.data
  return places

/-- The name of the ledger file. -/
def ledgerName : String := "family.json"

/-- The path of the configuration file. -/
def Places.configPath (places : Places) : String := s!"{places.config}/{Config.fileName}"

/-- The text of a file, if there is one. -/
def readFile? (path : String) : IO (Option String) := do
  try
    return some (← IO.FS.readFile path)
  catch e =>
    match e with
    | .noFileOrDirectory .. => return none
    | e => throw e

/-- Writes a file under its lock, by way of a temporary file. -/
def writeFile (directory name contents : String) : IO Unit := do
  let path (name : String) : String := s!"{directory}/{name}"
  IO.FS.withFile (path (FileName.lock name)) .append fun handle => do
    handle.lock
    IO.FS.writeFile (path (FileName.temporary name)) contents
    IO.FS.rename (path (FileName.temporary name)) (path name)
    handle.unlock

/-- The files in their places. -/
def readFiles (places : Places) : IO Files := do
  return {
    config := ← readFile? places.configPath
    ledger := ← readFile? s!"{places.data}/{ledgerName}" }

/-- Writes a file that has changed. -/
def saveChange (directory name : String) (old new : Option String) : IO Unit :=
  match new with
  | some contents => if old = new then pure () else writeFile directory name contents
  | none => pure ()

/-- Writes the files that have changed. -/
def saveFiles (places : Places) (old new : Files) : IO Unit := do
  saveChange places.config Config.fileName old.config new.config
  saveChange places.data ledgerName old.ledger new.ledger

-- ---------------------------------------------------------------------------
-- Clock and ids
-- ---------------------------------------------------------------------------

/-- The number of the day on which the time of computers begins. -/
def firstDay : Int := Fields.epochDay

/-- The present instant. -/
def now : IO Instant := do
  let n := (← Std.Time.Timestamp.now).toNanosecondsSinceUnixEpoch.val
  let instant? := do
    let start ← Date.ofDayNumber? firstDay
    Instant.ofSeconds? start (n / 1000000000) (n % 1000000000).toNat
  match instant? with
  | some instant => return instant
  | none => throw (IO.userError "The clock is out of range")

/-- The present day where the user is. -/
def today : IO Date := do
  let d ← Std.Time.PlainDate.now
  match Date.ofParts? d.year.toInt d.month.val.toNat d.day.val.toNat with
  | some date => return date
  | none => throw (IO.userError "The clock is out of range")

/-- A byte in hexadecimal digits. -/
def hexByte (n : Nat) : List Char := [Text.hexDigit (n / 16), Text.hexDigit n]

/-- The id of a number: random bytes of this run of the program, and the number behind them. -/
def idOf (random : List Nat) (n : Nat) : String :=
  let number := [3, 2, 1, 0].map fun i => n / 256 ^ i % 256
  let digits := (random ++ number).flatMap hexByte
  let part (start length : Nat) : String := String.ofList ((digits.drop start).take length)
  "-".intercalate [part 0 8, part 8 4, part 12 4, part 16 4, part 20 12]

/-- What the program is given, with ids from random bytes. -/
def supplyOf (random : List Nat) : IO Supply := do
  return { today := ← today, now := ← now, ids := idOf random }

-- ---------------------------------------------------------------------------
-- Running
-- ---------------------------------------------------------------------------

/-- Prints how the program ends. -/
def finish (o : Outcome) : IO UInt32 := do
  IO.print o.out
  (← IO.getStdout).flush
  IO.eprint o.err
  return o.exit.toUInt32

/-- Holds the dialogue from a line on. -/
partial def converse (places : Places) (random : List Nat) (c : Config) (p : Prompt) :
    IO UInt32 := do
  IO.print Prompt.mark
  (← IO.getStdout).flush
  let line ← (← IO.getStdin).getLine
  if line.isEmpty then return 0
  match p.step c (← supplyOf random) line with
  | .error fault =>
    finish (Shell.broken {} "" fault)
  | .ok none => return 0
  | .ok (some (text, next)) => do
    IO.print text
    saveChange places.data ledgerName p.file next.file
    converse places random c next

/-- Opens the dialogue. -/
def openPrompt (places : Places) (random : List Nat) (files : Files) : IO UInt32 := do
  match Config.loadOrCreate files.config places.configPath with
  | .error e => finish (Shell.failed files (e.message places.configPath))
  | .ok (c, _, config) => do
    saveFiles places files { files with config }
    match c.openLedger (← supplyOf random) files.ledger with
    | .error e => finish (Shell.failed files e.message)
    | .ok l => do
      IO.print Prompt.greeting
      converse places random c { ledger := l, file := files.ledger }

end HomeLedger.CommandLine

open HomeLedger HomeLedger.CommandLine in
/-- Runs the program. -/
def main (arguments : List String) : IO UInt32 := do
  let random := (← IO.getRandomBytes 12).toList.map (·.toNat)
  let program := "famzoo"
  match Invocation.ofArguments arguments with
  | .start root task => do
    let places ← findPlaces root
    let files ← readFiles places
    if task = .prompt then openPrompt places random files
    else do
      let supply ← supplyOf random
      let o := Shell.run program supply files [] (.start root task) places.configPath
      saveFiles places files o.files
      finish o
  | invocation => finish (Shell.run program (← supplyOf random) {} [] invocation)
