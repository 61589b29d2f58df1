/-!
# HomeLedger — how the program is called

The arguments of the program: options, which may stand anywhere, and a word that says what to do.
The usage text is printed for `--help` and wins over all that stands behind it.
-/

namespace HomeLedger

/-- What the program is to do. -/
inductive Task where
  /-- Ask for lines and answer them. -/
  | prompt
  /-- Answer one line. -/
  | run (line : String)
  /-- Write a command as a message. -/
  | encode (line : String)
  /-- Tell what is in a message. -/
  | decode (text : String)
  deriving DecidableEq, Repr

/-- What arguments mean. -/
inductive Invocation where
  | usage
  /-- An option lacks its path. -/
  | noPath
  | unknown (word : String)
  /-- A task on the files below a root, or on those of the user. -/
  | start (root : Option String) (task : Task)
  deriving DecidableEq, Repr

namespace Invocation

/-- The task that the words behind the options name. -/
def ofWords (root : Option String) : List String → Invocation
  | [] => start root .prompt
  | word :: rest =>
    let line := " ".intercalate rest
    if word = "run" then start root (.run line)
    else if word = "encode" then start root (.encode line)
    else if word = "decode" then start root (.decode line)
    else unknown word

/-- What arguments mean, behind a root and words that have been seen. The last root counts. -/
def read (root : Option String) (words : List String) : List String → Invocation
  | [] => ofWords root words
  | argument :: rest =>
    if argument = "-h" ∨ argument = "--help" then usage
    else if argument = "-r" ∨ argument = "--root" then
      match rest with
      | [] => noPath
      | path :: rest => read (some path) words rest
    else read root (words ++ [argument]) rest

/-- What arguments mean. -/
def ofArguments (arguments : List String) : Invocation := read none [] arguments

end Invocation

-- ---------------------------------------------------------------------------
-- Usage
-- ---------------------------------------------------------------------------

/-- The usage text of the program under its name. -/
def usageLines (program : String) : List String :=
  ["FamZoo Payer v0.1.0 - chat commands for family accounts and lists",
    "",
    "USAGE:",
    s!"    {program} [--root <path>]                  Start the interactive prompt",
    s!"    {program} [--root <path>] run <command>    Run one command and exit",
    s!"    {program} encode <command>                 Print the command as a URL",
    s!"    {program} decode <url>                     Print the command inside a URL",
    s!"    {program} --help",
    "",
    "OPTIONS:",
    "    -r, --root <path>     Use a different directory for config and data.",
    "    -h, --help            Show this help message.",
    "",
    "PROMPT COMMANDS:",
    "    help [syntax]         Command reference, or input syntax",
    "    suggest <partial>     Complete a partially typed command",
    "    encode <command>      Encode a command as a message URL",
    "    decode <url>          Decode a command or result URL",
    "    quit                  Leave the prompt",
    "",
    "EXAMPLES:",
    "    account balance",
    "    a + 25 --account \"John's Savings\"",
    "    acc debit $12.50",
    "    list create \"Weekend chores\"",
    "    item add \"Buy milk\" --list Groceries",
    "    item due tomorrow Milk",
    "    member balance --member John",
    "",
    "Type 'help' inside the prompt for every type, action and abbreviation."]

/-- Lines with a line break behind each. -/
def unlines (lines : List String) : String := .join (lines.map (· ++ "\n"))

/-- The usage text. -/
def usageText (program : String) : String := unlines (usageLines program)

end HomeLedger
