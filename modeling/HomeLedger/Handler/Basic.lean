import HomeLedger.Command.Basic
import HomeLedger.Ledger.Booking
import HomeLedger.Response

/-!
# HomeLedger — handlers

A handler answers the commands of one subject and action. It looks parameters up by kind or by name,
so that extra ones may stand in any order, and it books on the ledger. This module has what handlers
share: the setting they run in and the three ways to find out what a command is about.
-/

namespace HomeLedger

/-- What a handler knows besides the command and the ledger. -/
structure Setting where
  formatting : Formatting
  today : Date
  /-- The mark of the entry that the command may make; no command makes two. -/
  stamp : Stamp

/-- What answers a command. -/
abbrev Handler := Setting → Command → Booking Response

namespace Command

/-- What a command is about: the text of a flag, else of the first parameter of a kind, else of the
first parameter that stands on its own. -/
def target? (c : Command) (flag : String) (kind : Kind) : Option String :=
  c.namedText? flag <|> (c.firstOf? kind).bind (·.text?) <|> c.positional.head?.bind (·.text?)

/-- The item that a command is about: the text of `--item`, else all that stands on its own, with
spaces in between. -/
def itemText? (c : Command) : Option String :=
  match c.namedText? "item", c.positional.filterMap (·.text?) with
  | some text, _ => some text
  | none, [] => none
  | none, words => some (" ".intercalate words)

/-- The text that an action requires, unless it is blank. -/
def requiredText (c : Command) : Except Refusal String :=
  match (c.firstOf? .text).bind (·.text?) with
  | some s => if Text.isAllBlank s then .error .missingText else .ok s
  | none => .error .missingText

end Command

end HomeLedger
