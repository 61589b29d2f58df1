import HomeLedger.Command.Json
import HomeLedger.Config
import HomeLedger.Dispatch
import HomeLedger.Help
import HomeLedger.Ledger.Json
import HomeLedger.Ledger.Sample
import HomeLedger.Shell.Invocation

/-!
# HomeLedger — answering lines

What both ways to use the program have in common: opening the ledger, answering a line, and printing
the response. The prompt answers one line after the other and saves the ledger after each; its own
words (`help`, `suggest`, `encode`, `decode`, `quit`) go before commands.

Before a command is handled it is formatted for the journal, and that may overflow by itself.
`Routes.submit` does not keep the journal; a line of the program is answered by `answerLine`, which
does both, so that a fault of the journal is a fault of the line.

The contents of a file are a text. A file whose bytes are not UTF-8 has no counterpart in `Files`:
that such a file is refused before anything in it is read is not said here.

* `Prompt.step` is the answer to one line, and `Prompt.run` the dialogue of a list of lines.
-/

namespace HomeLedger

-- ---------------------------------------------------------------------------
-- What the program is given
-- ---------------------------------------------------------------------------

/-- The day, the time, and ids of which no two are alike. -/
structure Supply where
  today : Date
  now : Instant
  ids : Nat → String

/-- The texts in the files of the program, if they are there. -/
structure Files where
  config : Option String := none
  ledger : Option String := none
  deriving DecidableEq, Repr

/-- The number of ids that a new ledger takes. -/
def sampleIds : Nat := 13

/-- The setting in which the line of a number is answered. -/
def Supply.setting (s : Supply) (f : Formatting) (line : Nat) : Setting :=
  { formatting := f, today := s.today, stamp := ⟨s.ids (sampleIds + line), s.now⟩ }

namespace Config

/-- A new ledger, with the account selected that the configuration names. A name that no account has
is passed over. -/
def newLedger (c : Config) (s : Supply) : Ledger :=
  let l := Ledger.sample s.ids s.now
  match c.defaultAccount with
  | none => l
  | some name =>
    match (Ledger.selectAccount name).run l with
    | .ok _ l => l
    | .error _ l => l

/-- The ledger in a file, or a new one. -/
def openLedger (c : Config) (s : Supply) : Option String → Except Ledger.FileError Ledger
  | some file => Ledger.ofFile file
  | none => .ok (c.newLedger s)

end Config

-- ---------------------------------------------------------------------------
-- Answers
-- ---------------------------------------------------------------------------

/-- The form in which the journal names a command before it is handled. A line that is not handled
is not in the journal. -/
def journalEntry (f : Formatting) (today : Date) (line : String) : Except Fault (Option String) :=
  match Command.read f today line with
  | .ok c => if c.problems.isEmpty then some <$> c.format f else .ok none
  | .error _ => .ok none

/-- Enters a line in the journal and answers it. -/
def answerLine (s : Setting) (line : String) (l : Ledger) : Except Fault (Response × Ledger) := do
  let _ ← journalEntry s.formatting s.today line
  Routes.standard.submit s line l

/-- A response for the user: the message, and each datum on a line of its own. -/
def Response.printed (r : Response) : String :=
  let datum (member : String × Json) : String := s!"  {member.1}: {member.2.compact}"
  unlines ((if r.success then r.message else s!"Error: {r.message}")
    :: r.members.map datum)

/-- A line as a message. -/
def encodeLine (c : Config) (today : Date) (line : String) : Except String String :=
  match Command.read c.formatting today line with
  | .error problem => .error problem.message
  | .ok command =>
    match c.channel.encodeCommand command with
    | .ok url => .ok url.text
    | .error e => .error e.message

/-- What a message holds, in JSON: a response if it is one, else a command. -/
def decodeText (c : Config) (today : Date) (text : String) : Except String String :=
  let content (url : Url) : Except MessageError Json :=
    if url.hostText = Message.resultHost then Response.toJson <$> c.channel.decodeResponse url
    else Command.toJson <$> c.channel.decodeCommand today url
  match Channel.readUrl (Text.trimmed text) >>= content with
  | .ok j => .ok j.pretty
  | .error e => .error e.message

-- ---------------------------------------------------------------------------
-- The prompt
-- ---------------------------------------------------------------------------

/-- Where a dialogue stands: the number of lines answered, the ledger, and the ledger file. -/
structure Prompt where
  line : Nat := 0
  ledger : Ledger
  file : Option String

namespace Prompt

/-- What the prompt says first. -/
def greeting : String := "Type 'help' for commands, 'quit' to leave.\n"

/-- What the prompt says before it reads a line. -/
def mark : String := "> "

/-- The first word of a line, and what follows the space behind it. -/
def splitWord (line : String) : String × String :=
  match Text.splitOnce ' ' line.toList with
  | some (word, rest) => (String.ofList word, String.ofList rest)
  | none => (line, "")

/-- A result on a line of its own, or an error. -/
def orError : Except String String → String
  | .ok s => s ++ "\n"
  | .error message => s!"Error: {message}\n"

/-- The help on a topic. -/
def helpOn (name : String) : String :=
  match HelpTopic.ofName? name with
  | some topic => Help.render (Help.sections topic)
  | none => s!"Unknown help topic '{name}'. Try 'help' or 'help syntax'.\n"

/-- Answers a line with a text; none ends the dialogue. -/
def step (c : Config) (s : Supply) (p : Prompt) (line : String) :
    Except Fault (Option (String × Prompt)) :=
  let line := Text.trimmed line
  let (word, rest) := splitWord line
  let tell (text : String) : Except Fault (Option (String × Prompt)) := .ok (some (text, p))
  if word = "" then tell ""
  else if word = "quit" ∨ word = "exit" then .ok none
  else if word = "help" ∨ word = "?" then tell (helpOn rest)
  else if word = "suggest" then tell ("  ".intercalate (completions rest) ++ "\n")
  else if word = "encode" then tell (orError (encodeLine c s.today rest))
  else if word = "decode" then tell (orError (decodeText c s.today rest))
  else do
    let (response, l) ← answerLine (s.setting c.formatting p.line) line p.ledger
    return some (response.printed, { line := p.line + 1, ledger := l, file := some l.toFile })

/-- The dialogue of lines: what is printed, the ledger file afterwards, and the fault that ended it
if one did. -/
def run (c : Config) (s : Supply) (p : Prompt) : List String → String × Option String × Option Fault
  | [] => (mark, p.file, none)
  | line :: rest =>
    match p.step c s line with
    | .error fault => (mark, p.file, some fault)
    | .ok none => (mark, p.file, none)
    | .ok (some (text, p)) =>
      let (out, after) := p.run c s rest
      (mark ++ text ++ out, after)

end Prompt

end HomeLedger
