import HomeLedger.Handler.Basic

/-!
# HomeLedger — commands on accounts

Balances, payments, opening and selecting an account. An account that is not named is the selected
one, or the only one.
-/

namespace HomeLedger.Handler

open Booking

-- ---------------------------------------------------------------------------
-- Looking
-- ---------------------------------------------------------------------------

/-- Tells the balance of an account. -/
def accountBalance : Handler := fun s c => do
  let l ← get
  let account ← allowed (l.resolveAccount (c.target? "account" .account))
  let balance ← sound (l.balance account.id)
  let shown ← sound (s.formatting.currency balance)
  return (Response.ok s!"{account.name}: {shown}").withText "balance" balance.text
    |>.withText "accountName" account.name

/-- One account with its balance, for the user and for programs. -/
def accountRow (f : Formatting) (l : Ledger) (a : Account) : Except Fault (String × Json) := do
  let balance ← l.balance a.id
  let shown ← f.currency balance
  return (s!"{a.name} ({a.kind.name}): {shown}",
    .object [("balance", .string balance.text), ("kind", .string a.kind.name),
      ("name", .string a.name)])

/-- Tells the active accounts and their balances. -/
def accountList : Handler := fun s _ => do
  let l ← get
  match l.accounts.filter (·.isActive) with
  | [] => return Response.ok "No accounts yet"
  | active => do
    let rows ← sound (active.mapM (accountRow s.formatting l))
    return (Response.ok ("\n".intercalate (rows.map (·.1)))).withData "accounts"
      (.array (rows.map (·.2)))

-- ---------------------------------------------------------------------------
-- Money
-- ---------------------------------------------------------------------------

/-- Pays in or out, and tells the new balance. -/
def moveMoney (direction : Direction) : Handler := fun s c => do
  let amount ← found .invalidAmount ((c.firstOf? .amount).bind (·.decimal?))
  let note := (c.namedText? "note").getD ""
  let query := c.namedText? "account" <|> (c.firstOf? .account).bind (·.text?)
  let account ← allowed ((← get).resolveAccount query)
  let t ← match direction with
    | .credit => Ledger.credit s.stamp account.id amount note
    | .debit => Ledger.debit s.stamp account.id amount note
  let balance ← sound ((← get).balance account.id)
  let shown ← sound (s.formatting.currency amount)
  let done := match direction with
    | .credit => s!"credited {shown} to"
    | .debit => s!"debited {shown} from"
  return (Response.ok s!"Successfully {done} {account.name}").withText "amount" amount.text
    |>.withText "balance" balance.text
    |>.withText "accountName" account.name
    |>.withText "transactionId" t.id

-- ---------------------------------------------------------------------------
-- Opening and selecting
-- ---------------------------------------------------------------------------

/-- The kind of account that a command asks for. -/
def askedKind (c : Command) : Except Refusal AccountKind :=
  match c.namedText? "kind" with
  | none => .ok .spending
  | some name =>
    match AccountKind.ofName? name with
    | some kind => .ok kind
    | none => .error (.unknownAccountKind name)

/-- Whose account a command opens: the member it names, else the selected one, else the first. -/
def askedOwner (l : Ledger) (c : Command) : Except Refusal Member :=
  match c.namedText? "owner" <|> c.namedText? "member" with
  | some query =>
    match l.findMember? query with
    | some m => .ok m
    | none => .error (.noMember query)
  | none =>
    match l.currentMember? <|> l.members.head? with
    | some m => .ok m
    | none => .error .nobodyOwns

/-- Opens an account. -/
def accountNew : Handler := fun s c => do
  let name ← allowed c.requiredText
  let kind ← allowed (askedKind c)
  let owner ← allowed (askedOwner (← get) c)
  let account ← Ledger.openAccount s.stamp.id name kind owner.id s.formatting.currencyCode
  return (Response.ok s!"Opened {account.kind.name} account '{account.name}'").withText
    "accountId" account.id |>.withText "accountName" account.name

/-- Selects an account. -/
def accountSelect : Handler := fun _ c => do
  let query ← found .noAccountToSelect (c.target? "account" .account)
  let account ← Ledger.selectAccount query
  return (Response.ok s!"Selected {account.name}").withText "accountName" account.name

end HomeLedger.Handler
