import HomeLedger.Ledger.Basic

/-!
# HomeLedger — refusals

Why the ledger, or what handles a command, declines to do something. `Refusal.message` is the
wording for the user.
-/

namespace HomeLedger

/-- Why something is not done. -/
inductive Refusal where
  | noMember (query : String)
  | noAccount (query : String)
  | noAccounts
  | severalAccounts
  | accountExists (name : String)
  | unknownAccount
  | notPositive
  | cannotDebit (kind : AccountKind)
  | insufficientFunds (account : String)
  | noList (query : String)
  | noLists
  | severalLists
  | listExists (name : String)
  | noItem (text list : String)
  | invalidAmount
  | missingText
  | unreadDate
  | unknownAccountKind (name : String)
  | nobodyOwns
  | unreadDueDate (text : String)
  | noItemNamed
  | noItemToComplete
  | noAccountToSelect
  | noMemberToSelect
  | noMemberToShow
  | noMemberNamed
  /-- A reason in the words of whatever handles the command. -/
  | because (reason : String)
  deriving DecidableEq, Repr

/-- A refusal in words. -/
def Refusal.message : Refusal → String
  | noMember query => s!"No member named '{query}'"
  | noAccount query => s!"No account named '{query}'"
  | noAccounts => "No accounts yet"
  | severalAccounts => "Several accounts exist; select one first"
  | accountExists name => s!"An account named '{name}' already exists"
  | unknownAccount => "Unknown account"
  | notPositive => "Amount must be greater than zero"
  | cannotDebit kind => s!"Money cannot be taken out of a {kind.name} account"
  | insufficientFunds account => s!"Insufficient funds in {account}"
  | noList query => s!"No list named '{query}'"
  | noLists => "No lists yet"
  | severalLists => "Several lists exist; name one with --list"
  | listExists name => s!"A list named '{name}' already exists"
  | noItem text list => s!"No item '{text}' in {list}"
  | invalidAmount => "Invalid amount specified"
  | missingText => "Missing required parameter: text"
  | unreadDate => "Invalid format for parameter: date"
  | unknownAccountKind name => s!"Unknown account kind '{name}'"
  | nobodyOwns => "Add a family member before opening accounts"
  | unreadDueDate text => s!"Could not read due date '{text}'"
  | noItemNamed => "Name the item with --item"
  | noItemToComplete => "Name the item to complete"
  | noAccountToSelect => "Name the account to select"
  | noMemberToSelect => "Name the member to select"
  | noMemberToShow => "Name the member to show"
  | noMemberNamed => "Name the member"
  | because reason => reason

end HomeLedger
