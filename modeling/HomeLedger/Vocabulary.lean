import HomeLedger.Text.Blank
import HomeLedger.Text.LowerCase

/-!
# HomeLedger — the vocabulary of a command

A command names a *subject* and an *action* on it: `account balance`. Both have one name and
abbreviations, and both are looked up in lower case (`resolve?`): a name first, then the
abbreviations, in the order of the lists `Subject.all` and `Action.all`. The first word that fits
counts, so an abbreviation of two actions stands for the earlier one; `collisions` lists every word
that is claimed twice.

A subject does not accept every action (`Subject.actions`), and an action may require values, each
of a kind (`Action.required`).
-/

namespace HomeLedger

-- ---------------------------------------------------------------------------
-- Kinds of values
-- ---------------------------------------------------------------------------

/-- What a value of a command may be. -/
inductive Kind where
  | amount | text | date | member | account | boolean | number
  deriving DecidableEq, Repr

namespace Kind

/-- Every kind. -/
def all : List Kind := [amount, text, date, member, account, boolean, number]

/-- The name of a kind. -/
def name : Kind → String
  | amount => "amount"
  | text => "text"
  | date => "date"
  | member => "member"
  | account => "account"
  | boolean => "boolean"
  | number => "number"

/-- The name of a value of this kind that an action requires. -/
def parameterName : Kind → String
  | boolean => "enabled"
  | kind => kind.name

/-- The kind of a name, in any case and between any blanks. -/
def ofName? (s : String) : Option Kind :=
  let word := Text.lower (Text.trimmed s)
  all.find? (·.name == word)

end Kind

-- ---------------------------------------------------------------------------
-- Actions
-- ---------------------------------------------------------------------------

/-- What is done. -/
inductive Action where
  | balance | credit | debit | new | select
  | list | show | create | add | share
  | complete | due | occurs
  deriving DecidableEq, Repr

namespace Action

/-- Every action, in the order in which abbreviations are looked up. -/
def all : List Action :=
  [balance, credit, debit, new, select, list, .show, create, add, share, complete, due, occurs]

/-- The name of an action. -/
def name : Action → String
  | balance => "balance"
  | credit => "credit"
  | debit => "debit"
  | new => "new"
  | select => "select"
  | list => "list"
  | .show => "show"
  | create => "create"
  | add => "add"
  | share => "share"
  | complete => "complete"
  | due => "due"
  | occurs => "occurs"

/-- The other words for an action. -/
def abbreviations : Action → List String
  | balance => ["b", "bal"]
  | credit => ["c", "cre", "+"]
  | debit => ["d", "deb", "-"]
  | select => ["sel", "s"]
  | list => ["ls"]
  | .show => ["sh"]
  | create => ["cr", "mk", "make"]
  | add => ["+", "a"]
  | complete => ["done", "finish", "x"]
  | new | share | due | occurs => []

/-- What an action does, in words. -/
def description : Action → String
  | balance => "Show account balance"
  | credit => "Add money to account"
  | debit => "Remove money from account"
  | new => "Create new item"
  | select => "Select/switch to item"
  | list => "List items"
  | .show => "Show details"
  | create => "Create new item"
  | add => "Add item to list"
  | share => "Share with others"
  | complete => "Mark as complete"
  | due => "Set due date"
  | occurs => "Set recurring schedule"

/-- The kinds of the values that an action requires; the tokens behind the action are bound to them
in order. -/
def required : Action → List Kind
  | credit | debit => [.amount]
  | add | occurs | new | create => [.text]
  | due => [.date]
  | _ => []

end Action

-- ---------------------------------------------------------------------------
-- Subjects
-- ---------------------------------------------------------------------------

/-- What a command is about. -/
inductive Subject where
  | account | list | member | shortcut | item
  deriving DecidableEq, Repr

namespace Subject

/-- Every subject, in the order in which abbreviations are looked up. -/
def all : List Subject := [account, list, member, shortcut, item]

/-- The name of a subject. -/
def name : Subject → String
  | account => "account"
  | list => "list"
  | member => "member"
  | shortcut => "shortcut"
  | item => "item"

/-- The other words for a subject. -/
def abbreviations : Subject → List String
  | account => ["a", "acc"]
  | list => ["l", "lists"]
  | member => ["m", "mem"]
  | shortcut => ["s", "short"]
  | item => ["i"]

/-- What a subject is for, in words. -/
def description : Subject → String
  | account => "Manage FamZoo accounts - check balances, transfer funds"
  | list => "Manage todo lists and shared lists"
  | member => "View and manage family members"
  | shortcut => "Create and manage command shortcuts"
  | item => "Manage items in lists - add, complete, modify"

/-- The actions that a subject accepts. -/
def actions : Subject → List Action
  | account => [.balance, .credit, .debit, .new, .select, .list]
  | list => [.list, .show, .create, .add, .share, .new]
  | member => [.list, .show, .select, .balance]
  | shortcut => [.list, .create, .add, .show]
  | item => [.add, .complete, .due, .occurs, .list]

/-- Whether a subject accepts an action. -/
def allows (s : Subject) (a : Action) : Bool := s.actions.contains a

end Subject

-- ---------------------------------------------------------------------------
-- Words and what they stand for
-- ---------------------------------------------------------------------------

/-- Looks a word up among entries that have a name and abbreviations: names go before
abbreviations, and among either the first entry counts. -/
def resolveIn? {α : Type} (all : List α) (name : α → String) (abbreviations : α → List String)
    (token : String) : Option α :=
  let word := Text.lower (Text.trimmed token)
  all.find? (name · == word) <|> all.find? fun a => (abbreviations a).contains word

/-- The subject that a word stands for. -/
def Subject.resolve? : String → Option Subject := resolveIn? all name abbreviations

/-- The action that a word stands for. -/
def Action.resolve? : String → Option Action := resolveIn? all name abbreviations

/-- An entry of the vocabulary. -/
inductive Entry where
  | subject (s : Subject)
  | action (a : Action)
  deriving DecidableEq, Repr

namespace Entry

/-- Every entry, subjects first. -/
def all : List Entry := Subject.all.map subject ++ Action.all.map action

/-- The name of an entry. -/
def name : Entry → String
  | subject s => s.name
  | action a => a.name

/-- The other words for an entry. -/
def abbreviations : Entry → List String
  | subject s => s.abbreviations
  | action a => a.abbreviations

/-- Every word for an entry. -/
def words (e : Entry) : List String := e.abbreviations ++ [e.name]

/-- An entry as it is called in a message. -/
def text : Entry → String
  | subject s => s!"type '{s.name}'"
  | action a => s!"action '{a.name}'"

/-- Whether two entries are looked up by the same token of a line. -/
def sameRole : Entry → Entry → Bool
  | subject _, subject _ | action _, action _ => true
  | _, _ => false

end Entry

/-- The words that begin with a text, whatever the case of the text is, sorted and each one once. -/
def suggestions (beginning : String) : List String :=
  let sorted := (Entry.all.flatMap Entry.words).mergeSort
  sorted.eraseReps.filter ((Text.lower beginning).toList.isPrefixOf ·.toList)

-- ---------------------------------------------------------------------------
-- Collisions
-- ---------------------------------------------------------------------------

/-- A word of two entries, of which the first one goes before the second. -/
structure Collision where
  token : String
  first : Entry
  second : Entry
  deriving DecidableEq, Repr

namespace Collision

/-- Whether the word hides the second entry. A subject and an action do not get in each other's
way. -/
def isAmbiguous (c : Collision) : Bool := c.first.sameRole c.second

/-- A collision in words. -/
def text (c : Collision) : String :=
  s!"'{c.token}' is claimed by {c.first.text} and {c.second.text}"

end Collision

/-- The words that two entries share. A name that a subject has in common with an action is no
collision. -/
def Entry.shared (first second : Entry) : List Collision :=
  (first.words.filter fun token =>
    second.words.contains token
      && (first.abbreviations.contains token || second.abbreviations.contains token)).map
    (⟨·, first, second⟩)

/-- Every collision between an entry and the later ones. -/
def collisionsOf : List Entry → List Collision
  | [] => []
  | e :: rest => rest.flatMap e.shared ++ collisionsOf rest

/-- Every collision of the vocabulary. -/
def collisions : List Collision := collisionsOf Entry.all

end HomeLedger
