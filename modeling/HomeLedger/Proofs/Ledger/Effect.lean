import HomeLedger.Dispatch
import HomeLedger.Proofs.Ledger.Ends

/-!
# HomeLedger — what each command is for

A command is for one thing. Which one is said by its subject and action
(`Effect.ofCommand`), in the order of the vocabulary and without a look at
what handles it: a payment enters a transaction, a new account is appended, a
selection is one field, a list is appended and selected, an item is appended
to one list, and three actions write one field of one item. Every other
command is for looking only.

An effect tells the ledger afterwards as a whole. What it does not name is
what it was before.
-/

namespace HomeLedger

namespace Ledger

/-- What a command is for: what the ledger it is given to and the ledger
afterwards have to do with each other. It is a relation, as two texts may mean
the same account. -/
abbrev Effect := Command → Ledger → Ledger → Prop

/-- A transaction is the payment that a command asks for. -/
structure IsPayment (direction : Direction) (c : Command) (l : Ledger) (t : Transaction) :
    Prop where
  direction : t.direction = direction
  amount : (c.firstOf? .amount).bind (·.decimal?) = some t.amount
  account : ∃ a, l.resolveAccount
      (c.namedText? "account" <|> (c.firstOf? .account).bind (·.text?)) = .ok a ∧
    t.accountId = a.id
  note : t.description = (c.namedText? "note").getD ""
  completed : t.status = .completed

namespace Effect

/-- Nothing changes. -/
def keeps : Effect := fun _ l l' => l' = l

/-- The payment that is asked for is entered. -/
def pays (direction : Direction) : Effect := fun c l l' =>
  ∃ t, IsPayment direction c l t ∧ l' = { l with transactions := l.transactions ++ [t] }

/-- An account of the required name is appended. -/
def opensAccount : Effect := fun c l l' =>
  ∃ a : Account, c.requiredText = .ok a.name ∧ l' = { l with accounts := l.accounts ++ [a] }

/-- The account that is meant is selected. -/
def selectsAccount : Effect := fun c l l' =>
  ∃ query a, c.target? "account" .account = some query ∧ l.findAccount? query = some a ∧
    l' = { l with selectedAccount := some a.id }

/-- The member that is meant is selected. -/
def selectsMember : Effect := fun c l l' =>
  ∃ query m, c.target? "member" .member = some query ∧ l.findMember? query = some m ∧
    l' = { l with selectedMember := some m.id }

/-- An empty list of the required name is appended and selected. -/
def createsList : Effect := fun c l l' =>
  ∃ list : TodoList, c.requiredText = .ok list.name ∧ list.items = [] ∧
    l' = { l with lists := l.lists ++ [list], selectedList := some list.id }

/-- An open item of the required text is appended to the list that is meant. -/
def addsItem : Effect := fun c l l' =>
  ∃ (i : Fin l.lists.length) (item : Item), l.resolveList (c.namedText? "list") = .ok i ∧
    c.requiredText = .ok item.text ∧ item.completed = false ∧
    l' = l.withList i (appendItem item)

/-- The item that is meant, on the list that is meant, is changed. -/
def changesItem (change : Item → Item) : Effect := fun c l l' =>
  ∃ (i : Fin l.lists.length) (j : Fin (l.lists.get i).items.length) (text : String),
    l.resolveList (c.namedText? "list") = .ok i ∧ c.itemText? = some text ∧
    itemIndex? (l.lists.get i) text = some j ∧ l' = l.withList i (modifyItem j change)

/-- The item that is meant is ticked off. -/
def completesItem : Effect := changesItem fun item => { item with completed := true }

/-- The item that is meant is due on the day that is asked for. -/
def setsDue : Effect := fun c l l' =>
  ∃ due, (c.firstOf? .date).bind (·.date?) = some due ∧
    changesItem (fun item => { item with due := some due }) c l l'

/-- The item that is meant comes up again as is asked for. -/
def setsSchedule : Effect := fun c l l' =>
  ∃ schedule, c.requiredText = .ok schedule ∧
    changesItem (fun item => { item with schedule := some schedule }) c l l'

/-- What a command of a subject and an action is for. -/
def ofCommand : Subject → Action → Effect
  | .account, .credit => pays .credit
  | .account, .debit => pays .debit
  | .account, .new => opensAccount
  | .account, .select => selectsAccount
  | .member, .select => selectsMember
  | .list, .create | .list, .new => createsList
  | .list, .add | .item, .add => addsItem
  | .item, .complete => completesItem
  | .item, .due => setsDue
  | .item, .occurs => setsSchedule
  | _, _ => keeps

end Effect

end Ledger

end HomeLedger
