import HomeLedger.Vocabulary

/-!
# HomeLedger — help

The help texts. What the commands are is told from the vocabulary, so that it cannot fall behind it;
how lines are written is told in sections of its own. `Help.render` sets sections for a terminal:
the keys of all sections share one column.
-/

namespace HomeLedger

/-- An entry of a help section: what is typed, what it means, and an example of it. -/
structure HelpItem where
  keys : String
  meaning : String
  sample : String
  deriving DecidableEq, Repr

/-- A help section. -/
structure HelpSection where
  title : String
  items : List HelpItem
  deriving DecidableEq, Repr

/-- What help is about. -/
inductive HelpTopic where
  | commands
  | lineForms
  deriving DecidableEq, Repr

/-- The topic of a name, in any case and between any blanks; no name asks for the commands. -/
def HelpTopic.ofName? (s : String) : Option HelpTopic :=
  let word := Text.lower (Text.trimmed s)
  if ["commands", "command", ""].contains word then some commands
  else if word = "syntax" then some lineForms
  else none

namespace Help

-- ---------------------------------------------------------------------------
-- The commands
-- ---------------------------------------------------------------------------

/-- A value of each kind as a user may type it. -/
def sampleOf : Kind → String
  | .amount => "25.00"
  | .text => "\"Buy milk\""
  | .date => "tomorrow"
  | .member => "John"
  | .account => "\"John's Spending\""
  | .boolean => "yes"
  | .number => "3"

/-- A text behind a separator, for each text. -/
def each (separator : String) (texts : List String) : String := .join (texts.map (separator ++ ·))

/-- The entry of an action on a subject. -/
def itemOf (subject : Subject) (action : Action) : HelpItem :=
  let slots := each " " (action.required.map fun kind => s!"<{kind.name}>")
  let others := ", ".intercalate action.abbreviations
  let short := subject.abbreviations.head?.getD subject.name
  { keys := s!"{subject.name} {action.name}" ++ slots
      ++ if action.abbreviations.isEmpty then "" else s!"  [{others}]"
    meaning := action.description
    sample := s!"{short} {action.name}" ++ each " " (action.required.map sampleOf) }

/-- The section of a subject. -/
def sectionOf (subject : Subject) : HelpSection :=
  let others := ", ".intercalate subject.abbreviations
  { title := subject.name ++ (if subject.abbreviations.isEmpty then "" else s!" ({others})")
      ++ " - " ++ subject.description
    items := subject.actions.map (itemOf subject) }

/-- One section for each subject. -/
def commandSections : List HelpSection := Subject.all.map sectionOf

-- ---------------------------------------------------------------------------
-- How lines are written
-- ---------------------------------------------------------------------------

/-- How lines are written. -/
def lineFormSections : List HelpSection :=
  [{ title := "Structure"
     items :=
      [⟨"<type> <action> [args]", "Names and abbreviations are case-insensitive",
          "account balance, a b, A BAL"⟩,
        ⟨"\"...\" '...'", "Quote values containing spaces", "list create \"Weekend chores\""⟩,
        ⟨"\\x", "Escape the next character", "item add Tom\\'s\\ bike"⟩] },
    { title := "Flags"
      items :=
      [⟨"--name value", "Named value (text)", "a c 25 --account \"John's Savings\""⟩,
        ⟨"--name", "Switch, when last or followed by another flag", "item list --all"⟩,
        ⟨"-x", "Short switch", "a ls -v"⟩] },
    { title := "Values"
      items :=
      [⟨"Amounts", "Must be greater than zero", "25, $1,250.50"⟩,
        ⟨"Dates", "Short date, ISO date or a relative word",
          "1/15/26, 2026-01-15, today, tomorrow, yesterday"⟩,
        ⟨"Relative", "Multi-word dates must be quoted",
          "\"next week\", \"next month\", \"3 days\""⟩,
        ⟨"Switches", "Truthy words", "true, yes, 1, on, enable"⟩] }]

/-- The sections of a topic. -/
def sections : HelpTopic → List HelpSection
  | .commands => commandSections
  | .lineForms => lineFormSections

-- ---------------------------------------------------------------------------
-- Setting
-- ---------------------------------------------------------------------------

/-- The width of the column of keys. -/
def keyWidth (sections : List HelpSection) : Nat :=
  ((sections.flatMap (·.items)).map (·.keys.length)).foldl max 0

/-- A text filled up with spaces to a width. -/
def padRight (width : Nat) (s : String) : String :=
  s ++ String.ofList (List.replicate (width - s.length) ' ')

/-- An entry on a line of its own. -/
def itemLine (width : Nat) (item : HelpItem) : String :=
  let sample := if item.sample.isEmpty then "" else s!"  (e.g. {item.sample})"
  s!"    {padRight width item.keys}  {item.meaning}{sample}\n"

/-- Sections for a terminal, each with an empty line behind it. -/
def render (sections : List HelpSection) : String :=
  let width := keyWidth sections
  .join (sections.map fun s => s.title ++ "\n" ++ .join (s.items.map (itemLine width)) ++ "\n")

end Help

end HomeLedger
