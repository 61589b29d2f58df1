import HomeLedger.Ledger.Refusal

/-!
# HomeLedger — bookings

What can be done to a ledger. A *booking* reads the ledger, may change it, and ends with a result, a
refusal or a fault (`Booking`). Nothing takes a change back: that a refused booking leaves the
ledger as it was has to come from the order of its steps, each of which looks before it writes.

Each operation here updates the fields of the ledger that its comment names, and no others.
-/

namespace HomeLedger

-- ---------------------------------------------------------------------------
-- Bookings
-- ---------------------------------------------------------------------------

/-- What ends a booking early. -/
inductive Stop where
  | refused (why : Refusal)
  | broken (fault : Fault)
  deriving DecidableEq, Repr

/-- A step on the ledger that may end early. -/
abbrev Booking (α : Type) := EStateM Stop Ledger α

namespace Booking

/-- Ends a booking with a refusal. -/
def refuse {α : Type} (why : Refusal) : Booking α := throw (.refused why)

/-- The value that is there, or a refusal. -/
def found {α : Type} (why : Refusal) : Option α → Booking α
  | some a => pure a
  | none => refuse why

/-- The value of a computation that may be refused. -/
def allowed {α : Type} : Except Refusal α → Booking α
  | .ok a => pure a
  | .error why => refuse why

/-- The value of a computation that may have a fault. -/
def sound {α : Type} : Except Fault α → Booking α
  | .ok a => pure a
  | .error fault => throw (.broken fault)

end Booking

/-- What a new entry of the ledger is marked with: an id that no other entry has, and the time. -/
structure Stamp where
  id : String
  time : Instant
  deriving DecidableEq, Repr

namespace Ledger

open Booking

-- ---------------------------------------------------------------------------
-- Which account and which list is meant
-- ---------------------------------------------------------------------------

/-- The account that a query means; without a query the selected one, or the only one. -/
def resolveAccount (l : Ledger) : Option String → Except Refusal Account
  | some query =>
    match l.findAccount? query with
    | some a => .ok a
    | none => .error (.noAccount query)
  | none =>
    match l.currentAccount?, l.accounts with
    | some a, _ => .ok a
    | none, [only] => .ok only
    | none, [] => .error .noAccounts
    | none, _ => .error .severalAccounts

/-- The position of the selected list, if there still is one of that id. -/
def currentList? (l : Ledger) : Option (Fin l.lists.length) :=
  l.selectedList.bind fun id => l.lists.findFinIdx? (·.id == id)

/-- The position of the list that a query means; without a query that of the selected one, or of
the only one. -/
def resolveList (l : Ledger) : Option String → Except Refusal (Fin l.lists.length)
  | some query =>
    match l.lists.findFinIdx? (·.isCalled query) with
    | some i => .ok i
    | none => .error (.noList query)
  | none =>
    match l.currentList? with
    | some i => .ok i
    | none =>
      if h : l.lists.length = 1 then .ok ⟨0, by omega⟩
      else if l.lists.length = 0 then .error .noLists
      else .error .severalLists

-- ---------------------------------------------------------------------------
-- Selections
-- ---------------------------------------------------------------------------

/-- Selects the member that a query means; writes `selectedMember`. -/
def selectMember (query : String) : Booking Member := do
  let m ← found (.noMember query) ((← get).findMember? query)
  modify fun l => { l with selectedMember := some m.id }
  return ((← get).memberOfId? m.id).getD m

/-- Selects the account that a query means; writes `selectedAccount`. -/
def selectAccount (query : String) : Booking Account := do
  let a ← found (.noAccount query) ((← get).findAccount? query)
  modify fun l => { l with selectedAccount := some a.id }
  return ((← get).accountOfId? a.id).getD a

-- ---------------------------------------------------------------------------
-- Accounts and money
-- ---------------------------------------------------------------------------

/-- Opens an account under a name that no query for an account has yet; appends to `accounts`. -/
def openAccount (id name : String) (kind : AccountKind) (ownerId currency : String) :
    Booking Account := do
  if ((← get).findAccount? name).isSome then refuse (.accountExists name)
  let a : Account := { id, name, kind, ownerId, currency }
  modify fun l => { l with accounts := l.accounts ++ [a] }
  return a

/-- Enters a completed transaction; appends to `transactions`. -/
def post (stamp : Stamp) (direction : Direction) (accountId : String) (amount : Decimal)
    (note : String) : Booking Transaction := do
  let t : Transaction :=
    { id := stamp.id, direction, amount, accountId, description := note, createdAt := stamp.time }
  modify fun l => { l with transactions := l.transactions ++ [t] }
  return t

/-- Pays a positive amount in; appends to `transactions`. -/
def credit (stamp : Stamp) (accountId : String) (amount : Decimal) (note : String) :
    Booking Transaction := do
  if !amount.isPositive then refuse .notPositive
  post stamp .credit accountId amount note

/-- Pays a positive amount out, from an account that allows it and holds as much; appends to
`transactions`. -/
def debit (stamp : Stamp) (accountId : String) (amount : Decimal) (note : String) :
    Booking Transaction := do
  if !amount.isPositive then refuse .notPositive
  let account ← found .unknownAccount ((← get).accountOfId? accountId)
  if !account.kind.canDebit then refuse (.cannotDebit account.kind)
  let balance ← sound ((← get).balance accountId)
  if balance.lt amount then refuse (.insufficientFunds account.name)
  post stamp .debit accountId amount note

-- ---------------------------------------------------------------------------
-- Lists and items
-- ---------------------------------------------------------------------------

/-- Makes an empty list under a name that no query for a list has yet, and selects it; appends to
`lists` and writes `selectedList`. -/
def createList (id name : String) : Booking TodoList := do
  if ((← get).findList? name).isSome then refuse (.listExists name)
  let list : TodoList := { id, name }
  modify fun l => { l with lists := l.lists ++ [list], selectedList := some id }
  return list

/-- Changes one list; writes `lists`. -/
def changeList (i : Nat) (change : TodoList → TodoList) : Booking Unit :=
  modify fun l => { l with lists := l.lists.modify i change }

/-- Appends an item to the list that is meant; writes `lists`. -/
def addItem (query : Option String) (item : Item) : Booking TodoList := do
  let l ← get
  let i ← allowed (l.resolveList query)
  let add (list : TodoList) : TodoList := { list with items := list.items ++ [item] }
  changeList i add
  return add (l.lists.get i)

/-- Changes the first item of a text in the list that is meant; writes `lists`. The text counts up
to the case of ASCII letters. -/
def changeItem (query : Option String) (text : String) (change : Item → Item) : Booking Item := do
  let l ← get
  let i ← allowed (l.resolveList query)
  let list := l.lists.get i
  let j ← found (.noItem text list.name)
    (list.items.findFinIdx? fun item => Text.equalFold item.text (Text.trimmed text))
  changeList i fun list => { list with items := list.items.modify j change }
  return change list.items[j]

/-- Ticks an item off; writes its `completed`. -/
def completeItem (query : Option String) (text : String) : Booking Item :=
  changeItem query text fun item => { item with completed := true }

/-- Sets when an item is due; writes its `due`. -/
def setItemDue (query : Option String) (text : String) (due : Date) : Booking Item :=
  changeItem query text fun item => { item with due := some due }

/-- Sets when an item comes up again; writes its `schedule`. -/
def setItemSchedule (query : Option String) (text schedule : String) : Booking Item :=
  changeItem query text fun item => { item with schedule := some schedule }

end Ledger

end HomeLedger
