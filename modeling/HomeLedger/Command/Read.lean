import HomeLedger.Command.Basic
import HomeLedger.Parameter.Read

/-!
# HomeLedger — reading commands

A line is a command if its first two tokens are a subject and an action that the subject accepts;
what follows them cannot make it anything else. A line that is blank is told apart from one that
says nothing known. `completions` offers the words that may go on a line that has just begun.
-/

namespace HomeLedger

-- ---------------------------------------------------------------------------
-- The header
-- ---------------------------------------------------------------------------

/-- The subject and the action that tokens begin with. Tokens that are fewer than two have
neither. -/
def header : List String → Option Subject × Option Action
  | subject :: action :: _ => (Subject.resolve? subject, Action.resolve? action)
  | _ => (none, none)

-- ---------------------------------------------------------------------------
-- Lines
-- ---------------------------------------------------------------------------

namespace Command

/-- The command that the tokens of a line make up. -/
def ofTokens? (f : Formatting) (today : Date) (raw : String) (tokens : List String) :
    Option Command :=
  match header tokens with
  | (some subject, some action) =>
    if subject.allows action then
      some ⟨subject, action, Parameter.ofTokens f today action (tokens.drop 2), raw⟩
    else none
  | _ => none

/-- The command that a line denotes, or why it denotes none. -/
def read (f : Formatting) (today : Date) (line : String) : Except Problem Command :=
  let line := Text.trimmed line
  if line.isEmpty then .error .empty
  else match ofTokens? f today line (tokenize line) with
    | some c => .ok c
    | none => .error .unknownCommand

/-- Everything that is wrong with a line. -/
def problemsOfLine (f : Formatting) (today : Date) (line : String) : List Problem :=
  match read f today line with
  | .ok c => c.problems
  | .error problem => [problem]

end Command

-- ---------------------------------------------------------------------------
-- Completion
-- ---------------------------------------------------------------------------

/-- The words that may complete a line: every subject for one that has not begun, every word that
goes on as the only token does, and every action of the subject that goes on as the second token
does. Parameters are not completed. -/
def completions (line : String) : List String :=
  match tokenize line with
  | [] => Subject.all.map (·.name)
  | [word] => suggestions word
  | [subject, beginning] =>
    match Subject.resolve? subject with
    | some subject =>
      (subject.actions.map (·.name)).filter ((Text.lower beginning).toList.isPrefixOf ·.toList)
    | none => []
  | _ => []

end HomeLedger
