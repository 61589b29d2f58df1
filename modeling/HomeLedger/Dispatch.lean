import HomeLedger.Command.Read
import HomeLedger.Handler.Accounts
import HomeLedger.Handler.Lists
import HomeLedger.Handler.Members

/-!
# HomeLedger — dispatch

Which handler answers which command, and how a line is answered: it is read, its problems are looked
for, and only a command without any is handled (`Routes.submit`). Whatever is wrong is told in the
response. A fault leaves no response at all.

A command is also formatted for the journal before it is handled. What that costs is left out of
`Routes.submit`: an amount that cannot be written breaks only `journalEntry`, which the prompt calls
in front of it. The answers here are those of a household that keeps no journal.

`Routes.run` answers one line after the other and hands the ledger on.
-/

namespace HomeLedger

/-- The handler of each subject and action that has one. -/
abbrev Routes := Subject → Action → Option Handler

namespace Routes

-- ---------------------------------------------------------------------------
-- Tables
-- ---------------------------------------------------------------------------

/-- The table without a handler. -/
def none : Routes := fun _ _ => .none

open Handler in
/-- The handlers of the household. Nothing handles shortcuts, nor the sharing of lists. -/
def standard : Routes
  | .account, .balance => some accountBalance
  | .account, .credit => some (moveMoney .credit)
  | .account, .debit => some (moveMoney .debit)
  | .account, .new => some accountNew
  | .account, .select => some accountSelect
  | .account, .list => some accountList
  | .list, .list => some listList
  | .list, .show => some listShow
  | .list, .create => some listCreate
  | .list, .new => some listCreate
  | .list, .add => some itemAdd
  | .member, .list => some memberList
  | .member, .show => some memberShow
  | .member, .select => some memberSelect
  | .member, .balance => some memberBalance
  | .item, .add => some itemAdd
  | .item, .complete => some itemComplete
  | .item, .due => some itemDue
  | .item, .occurs => some itemOccurs
  | .item, .list => some itemList
  | _, _ => .none

/-- The table with one more handler, in place of one for the same commands. -/
def register (routes : Routes) (subject : Subject) (action : Action) (handler : Handler) : Routes :=
  fun s a => if s = subject ∧ a = action then some handler else routes s a

/-- The subjects and actions that have a handler, in the order of the vocabulary. -/
def mapped (routes : Routes) : List (Subject × Action) :=
  Subject.all.flatMap fun s => (Action.all.filter fun a => (routes s a).isSome).map (s, ·)

-- ---------------------------------------------------------------------------
-- Answering
-- ---------------------------------------------------------------------------

/-- Answers a command, whether it has problems or not, and tells the ledger afterwards. -/
def execute (routes : Routes) (s : Setting) (c : Command) (l : Ledger) :
    Except Fault (Response × Ledger) :=
  match routes c.subject c.action with
  | .none => .ok (Response.notImplemented c.subject c.action, l)
  | some handler =>
    match (handler s c).run l with
    | .ok response l => .ok (response, l)
    | .error (.refused why) l => .ok (Response.failure why.message, l)
    | .error (.broken fault) _ => .error fault

/-- Answers a line, and tells the ledger afterwards. -/
def submit (routes : Routes) (s : Setting) (line : String) (l : Ledger) :
    Except Fault (Response × Ledger) :=
  match Command.read s.formatting s.today line with
  | .error problem => .ok (Response.failure problem.message, l)
  | .ok c =>
    if c.problems.isEmpty then routes.execute s c l
    else .ok (Response.failure (Problem.summary c.problems), l)

/-- Answers lines in turn, each in a setting of its own, and tells the ledger after the last. -/
def run (routes : Routes) : List (Setting × String) → Ledger →
    Except Fault (List Response × Ledger)
  | [], l => .ok ([], l)
  | (s, line) :: rest, l => do
    let (response, l) ← routes.submit s line l
    let (responses, l) ← routes.run rest l
    return (response :: responses, l)

end Routes

end HomeLedger
