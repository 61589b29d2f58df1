import HomeLedger.Ledger.Booking

/-!
# HomeLedger — a ledger to begin with

A small household with accounts and lists, for whoever has no ledger yet.
-/

namespace HomeLedger.Ledger

/-- An amount in hundredths. -/
def hundredths (n : Fin (2 ^ 96)) : Decimal := ⟨false, n, 2, n.isLt, by decide⟩

/-- The ledger to begin with. Its entries take their ids from `ids`, each a number of its own. -/
def sample (ids : Nat → String) (now : Instant) : Ledger :=
  let parent : Member := { id := ids 0, firstName := "Pat", lastName := "Doe", role := .parent }
  let john : Member := { id := ids 1, firstName := "John", lastName := "Doe", role := .child }
  let account (id : Nat) (name : String) (kind : AccountKind) (owner : Member) : Account :=
    { id := ids id, name, kind, ownerId := owner.id, currency := "USD" }
  let checking := account 2 "Family Checking" .parent parent
  let spending := account 3 "John's Spending" .spending john
  let savings := account 4 "John's Savings" .savings john
  let gift (id : Nat) (amount : Decimal) (account : Account) (description : String) : Transaction :=
    { id := ids id, direction := .credit, amount, accountId := account.id, description,
      createdAt := now }
  let item (id : Nat) (text : String) : Item := { id := ids id, text }
  let groceries : TodoList :=
    { id := ids 8, name := "Groceries", items := [item 9 "Milk", item 10 "Eggs"] }
  let chores : TodoList := { id := ids 11, name := "Chores", items := [item 12 "Walk the dog"] }
  { members := [parent, john]
    accounts := [checking, spending, savings]
    transactions :=
      [gift 5 (hundredths 250000) checking "Opening balance",
        gift 6 (hundredths 12550) spending "Allowance",
        gift 7 (hundredths 4000) savings "Birthday money"]
    lists := [groceries, chores]
    selectedAccount := some spending.id
    selectedMember := some john.id
    selectedList := some groceries.id }

end HomeLedger.Ledger
