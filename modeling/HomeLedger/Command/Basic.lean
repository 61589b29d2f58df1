import HomeLedger.Parameter.Basic

/-!
# HomeLedger — commands

A command is an action on a subject, with parameters. What it says is looked up by kind or by name
and never by position (`Command.firstOf?`, `Command.named?`), so that the order in which flags are
written does not matter. `Command.problems` is everything that is wrong with it, and
`Command.format` writes it as a line again.
-/

namespace HomeLedger

/-- A command: an action on a subject, its parameters in order, and the line that it was read
from. -/
structure Command where
  subject : Subject
  action : Action
  parameters : List Parameter
  raw : String
  deriving DecidableEq, Repr

namespace Command

-- ---------------------------------------------------------------------------
-- Looking parameters up
-- ---------------------------------------------------------------------------

/-- The first parameter of a kind, where one that the action requires goes before all others. -/
def firstOf? (c : Command) (kind : Kind) : Option Parameter :=
  c.parameters.find? (fun p => p.kind == kind && p.isRequired)
    <|> c.parameters.find? (·.kind == kind)

/-- The first parameter of a name, up to the case of ASCII letters. -/
def named? (c : Command) (name : String) : Option Parameter :=
  c.parameters.find? (Text.equalFold ·.name name)

/-- The text of the first parameter of a name. -/
def namedText? (c : Command) (name : String) : Option String := (c.named? name).bind (·.text?)

/-- Whether the first parameter of a name says yes. -/
def hasFlag (c : Command) (name : String) : Bool := (c.named? name).any (·.isYes)

/-- The parameters that stand on their own. -/
def positional (c : Command) : List Parameter := c.parameters.filter (·.place == .positional)

-- ---------------------------------------------------------------------------
-- What is wrong with it
-- ---------------------------------------------------------------------------

/-- Everything that is wrong with a command: the problems of its parameters in order, then the kinds
that its action requires and none of them has. -/
def problems (c : Command) : List Problem :=
  c.parameters.filterMap (·.problem?)
    ++ (c.action.required.filter fun kind => !c.parameters.any (·.kind == kind)).map .missing

-- ---------------------------------------------------------------------------
-- Writing
-- ---------------------------------------------------------------------------

/-- The command as a line, with names for abbreviations and with amounts and dates in the user's
form. -/
def format (f : Formatting) (c : Command) : Except Fault String := do
  let parameters ← c.parameters.mapM (·.display f)
  return " ".intercalate (c.subject.name :: c.action.name :: parameters)

end Command

end HomeLedger
