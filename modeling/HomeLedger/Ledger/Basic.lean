import HomeLedger.Calendar.Instant
import HomeLedger.Decimal.Round
import HomeLedger.Fault
import HomeLedger.Text.Blank
import HomeLedger.Text.LowerCase

/-!
# HomeLedger — the ledger

A household's members, their accounts and what happened on them, and its lists. An account holds no
balance: it is the sum of the account's completed transactions (`Ledger.balance`), so the ledger
cannot contradict itself.

Members, accounts and lists have an id, by which the ledger refers to them, and a name, by which the
user does. A query matches an id exactly and a name up to the case of ASCII letters, and the first
entry that it matches counts. Selections hold ids.
-/

namespace HomeLedger

open Text

-- ---------------------------------------------------------------------------
-- Members
-- ---------------------------------------------------------------------------

/-- What a member of the household is. -/
inductive Role where
  | parent | child | teen | admin
  deriving DecidableEq, Repr

namespace Role

/-- Every role. -/
def all : List Role := [parent, child, teen, admin]

/-- The name of a role in the ledger file. -/
def name : Role → String
  | parent => "parent"
  | child => "child"
  | teen => "teen"
  | admin => "admin"

/-- A role as it is called in messages. -/
def title : Role → String
  | parent => "Parent"
  | child => "Child"
  | teen => "Teen"
  | admin => "Administrator"

end Role

/-- A member of the household. -/
structure Member where
  id : String
  firstName : String
  lastName : String
  role : Role
  isActive : Bool := true
  deriving DecidableEq, Repr

namespace Member

/-- The first and the last name. -/
def fullName (m : Member) : String := trimmed s!"{m.firstName} {m.lastName}"

/-- Whether a query means this member: by id, by first name or by full name. -/
def isCalled (m : Member) (query : String) : Bool :=
  let query := trimmed query
  m.id == query || equalFold m.firstName query || equalFold m.fullName query

end Member

-- ---------------------------------------------------------------------------
-- Accounts
-- ---------------------------------------------------------------------------

/-- What an account is for. -/
inductive AccountKind where
  | spending | savings | parent | allowance | chores
  deriving DecidableEq, Repr

namespace AccountKind

/-- Every kind of account. -/
def all : List AccountKind := [spending, savings, parent, allowance, chores]

/-- The name of a kind of account. -/
def name : AccountKind → String
  | spending => "spending"
  | savings => "savings"
  | parent => "parent"
  | allowance => "allowance"
  | chores => "chores"

/-- The kind of account of a name, in any case and between any blanks. -/
def ofName? (s : String) : Option AccountKind :=
  let word := lower (trimmed s)
  all.find? (·.name == word)

/-- Whether money can be taken out of an account of this kind. -/
def canDebit : AccountKind → Bool
  | spending | parent => true
  | savings | allowance | chores => false

end AccountKind

/-- An account. -/
structure Account where
  id : String
  name : String
  kind : AccountKind
  /-- The id of the member whose account it is. -/
  ownerId : String
  currency : String
  isActive : Bool := true
  deriving DecidableEq, Repr

/-- Whether a query means this account. -/
def Account.isCalled (a : Account) (query : String) : Bool :=
  a.id == trimmed query || equalFold a.name (trimmed query)

-- ---------------------------------------------------------------------------
-- Transactions
-- ---------------------------------------------------------------------------

/-- Whether money comes or goes. -/
inductive Direction where
  | credit | debit
  deriving DecidableEq, Repr

namespace Direction

/-- Both directions. -/
def all : List Direction := [credit, debit]

/-- The name of a direction in the ledger file. -/
def name : Direction → String
  | credit => "credit"
  | debit => "debit"

end Direction

/-- How far a transaction has come. -/
inductive Status where
  | pending | completed | failed | cancelled
  deriving DecidableEq, Repr

namespace Status

/-- Every status. -/
def all : List Status := [pending, completed, failed, cancelled]

/-- The name of a status in the ledger file. -/
def name : Status → String
  | pending => "pending"
  | completed => "completed"
  | failed => "failed"
  | cancelled => "cancelled"

end Status

/-- A movement of money on an account. -/
structure Transaction where
  id : String
  direction : Direction
  amount : Decimal
  accountId : String
  description : String
  status : Status := .completed
  createdAt : Instant
  deriving DecidableEq, Repr

/-- What a transaction adds to the balance of its account. -/
def Transaction.effect (t : Transaction) : Decimal :=
  match t.direction with
  | .credit => t.amount
  | .debit => t.amount.negate

-- ---------------------------------------------------------------------------
-- Lists
-- ---------------------------------------------------------------------------

/-- An item of a list. -/
structure Item where
  id : String
  text : String
  completed : Bool := false
  due : Option Date := none
  /-- When the item comes up again, in the user's words. -/
  schedule : Option String := none
  deriving DecidableEq, Repr

/-- The box in front of an item, ticked or not. -/
def Item.box (i : Item) : String := if i.completed then "[✔]" else "[ ]"

/-- A list of things to do or to buy. -/
structure TodoList where
  id : String
  name : String
  sharedWith : List String := []
  items : List Item := []
  deriving DecidableEq, Repr

namespace TodoList

/-- Whether a query means this list. -/
def isCalled (l : TodoList) (query : String) : Bool :=
  l.id == trimmed query || equalFold l.name (trimmed query)

/-- The items that are not done. -/
def openItems (l : TodoList) : List Item := l.items.filter (!·.completed)

end TodoList

-- ---------------------------------------------------------------------------
-- The ledger
-- ---------------------------------------------------------------------------

/-- A household's ledger. Everything is in the order in which it was added. -/
structure Ledger where
  members : List Member := []
  accounts : List Account := []
  transactions : List Transaction := []
  lists : List TodoList := []
  selectedAccount : Option String := none
  selectedMember : Option String := none
  selectedList : Option String := none
  deriving DecidableEq, Repr

namespace Ledger

/-- The member that a query means. -/
def findMember? (l : Ledger) (query : String) : Option Member := l.members.find? (·.isCalled query)

/-- The account that a query means. -/
def findAccount? (l : Ledger) (query : String) : Option Account :=
  l.accounts.find? (·.isCalled query)

/-- The list that a query means. -/
def findList? (l : Ledger) (query : String) : Option TodoList := l.lists.find? (·.isCalled query)

/-- The member of an id. -/
def memberOfId? (l : Ledger) (id : String) : Option Member := l.members.find? (·.id == id)

/-- The account of an id. -/
def accountOfId? (l : Ledger) (id : String) : Option Account := l.accounts.find? (·.id == id)

/-- The selected member, if there still is one of that id. -/
def currentMember? (l : Ledger) : Option Member := l.selectedMember.bind l.memberOfId?

/-- The selected account, if there still is one of that id. -/
def currentAccount? (l : Ledger) : Option Account := l.selectedAccount.bind l.accountOfId?

/-- The active accounts of a member. -/
def accountsOf (l : Ledger) (memberId : String) : List Account :=
  l.accounts.filter fun a => a.ownerId == memberId && a.isActive

-- ---------------------------------------------------------------------------
-- Balances
-- ---------------------------------------------------------------------------

/-- The sum of amounts, if it does not overflow. -/
def total (amounts : List Decimal) : Except Fault Decimal :=
  match Decimal.sum? amounts with
  | some d => .ok d
  | none => .error .sumOverflow

/-- The transactions that make up the balance of an account. -/
def settled (l : Ledger) (accountId : String) : List Transaction :=
  l.transactions.filter fun t => t.accountId == accountId && t.status == .completed

/-- The balance of an account: what its completed transactions add up to. -/
def balance (l : Ledger) (accountId : String) : Except Fault Decimal :=
  total ((l.settled accountId).map (·.effect))

/-- What the active accounts of a member hold together. -/
def memberBalance (l : Ledger) (memberId : String) : Except Fault Decimal := do
  total (← (l.accountsOf memberId).mapM fun a => l.balance a.id)

end Ledger

end HomeLedger
