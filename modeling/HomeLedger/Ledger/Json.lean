import HomeLedger.Json.Decode
import HomeLedger.Json.Write
import HomeLedger.Ledger.Basic

/-!
# HomeLedger — the ledger in JSON

The ledger as an object of its fields in order. What is absent is written as `null`, and may be left
out where it has a default: an entry is active, an item open, a transaction completed, a selection
none.

The ledger file wraps the ledger with the version of its format. A file of a newer version is
refused, but only when it could be read otherwise, so that a broken file is always called broken.
-/

namespace HomeLedger

open Node

-- ---------------------------------------------------------------------------
-- Writing
-- ---------------------------------------------------------------------------

/-- A text or `null`. -/
def textOrNull (s : Option String) : Json := Json.ofOption .string s

/-- A member in JSON. -/
def Member.toJson (m : Member) : Json :=
  .object [("id", .string m.id), ("first_name", .string m.firstName),
    ("last_name", .string m.lastName), ("role", .string m.role.name),
    ("is_active", .bool m.isActive)]

/-- An account in JSON. -/
def Account.toJson (a : Account) : Json :=
  .object [("id", .string a.id), ("name", .string a.name), ("kind", .string a.kind.name),
    ("owner_id", .string a.ownerId), ("currency", .string a.currency),
    ("is_active", .bool a.isActive)]

/-- A transaction in JSON. -/
def Transaction.toJson (t : Transaction) : Json :=
  .object [("id", .string t.id), ("kind", .string t.direction.name),
    ("amount", .string t.amount.text), ("account_id", .string t.accountId),
    ("description", .string t.description), ("status", .string t.status.name),
    ("created_at", .string t.createdAt.text)]

/-- An item in JSON. -/
def Item.toJson (i : Item) : Json :=
  .object [("id", .string i.id), ("text", .string i.text), ("completed", .bool i.completed),
    ("due", textOrNull (i.due.map (·.isoText))), ("schedule", textOrNull i.schedule)]

/-- A list in JSON. -/
def TodoList.toJson (l : TodoList) : Json :=
  .object [("id", .string l.id), ("name", .string l.name),
    ("shared_with", .array (l.sharedWith.map .string)), ("items", .array (l.items.map (·.toJson)))]

/-- A ledger in JSON. -/
def Ledger.toJson (l : Ledger) : Json :=
  .object [("members", .array (l.members.map (·.toJson))),
    ("accounts", .array (l.accounts.map (·.toJson))),
    ("transactions", .array (l.transactions.map (·.toJson))),
    ("lists", .array (l.lists.map (·.toJson))), ("selected_account", textOrNull l.selectedAccount),
    ("selected_member", textOrNull l.selectedMember), ("selected_list", textOrNull l.selectedList)]

-- ---------------------------------------------------------------------------
-- Reading
-- ---------------------------------------------------------------------------

/-- The member that a node denotes. -/
def Member.ofNode? (n : Node) : Option Member := do
  let r ← n.record? ["id", "first_name", "last_name", "role", "is_active"]
  return {
    id := ← need r "id" text?
    firstName := ← need r "first_name" text?
    lastName := ← need r "last_name" text?
    role := ← need r "role" (constant? (tagged Role.name Role.all))
    isActive := ← needOr r "is_active" true bool? }

/-- The account that a node denotes. -/
def Account.ofNode? (n : Node) : Option Account := do
  let r ← n.record? ["id", "name", "kind", "owner_id", "currency", "is_active"]
  return {
    id := ← need r "id" text?
    name := ← need r "name" text?
    kind := ← need r "kind" (constant? (tagged AccountKind.name AccountKind.all))
    ownerId := ← need r "owner_id" text?
    currency := ← need r "currency" text?
    isActive := ← needOr r "is_active" true bool? }

/-- The transaction that a node denotes. -/
def Transaction.ofNode? (n : Node) : Option Transaction := do
  let r ← n.record?
    ["id", "kind", "amount", "account_id", "description", "status", "created_at"]
  return {
    id := ← need r "id" text?
    direction := ← need r "kind" (constant? (tagged Direction.name Direction.all))
    amount := ← need r "amount" decimal?
    accountId := ← need r "account_id" text?
    description := ← need r "description" text?
    status := ← needOr r "status" .completed (constant? (tagged Status.name Status.all))
    createdAt := ← need r "created_at" instant? }

/-- The item that a node denotes. -/
def Item.ofNode? (n : Node) : Option Item := do
  let r ← n.record? ["id", "text", "completed", "due", "schedule"]
  return {
    id := ← need r "id" text?
    text := ← need r "text" text?
    completed := ← needOr r "completed" false bool?
    due := ← needOr r "due" none (option? date?)
    schedule := ← needOr r "schedule" none (option? text?) }

/-- The list that a node denotes. -/
def TodoList.ofNode? (n : Node) : Option TodoList := do
  let r ← n.record? ["id", "name", "shared_with", "items"]
  return {
    id := ← need r "id" text?
    name := ← need r "name" text?
    sharedWith := ← needOr r "shared_with" [] (list? text?)
    items := ← needOr r "items" [] (list? Item.ofNode?) }

/-- The ledger that a node denotes. -/
def Ledger.ofNode? (n : Node) : Option Ledger := do
  let r ← n.record? ["members", "accounts", "transactions", "lists", "selected_account",
    "selected_member", "selected_list"]
  return {
    members := ← need r "members" (list? Member.ofNode?)
    accounts := ← need r "accounts" (list? Account.ofNode?)
    transactions := ← need r "transactions" (list? Transaction.ofNode?)
    lists := ← need r "lists" (list? TodoList.ofNode?)
    selectedAccount := ← needOr r "selected_account" none (option? text?)
    selectedMember := ← needOr r "selected_member" none (option? text?)
    selectedList := ← needOr r "selected_list" none (option? text?) }

-- ---------------------------------------------------------------------------
-- The ledger file
-- ---------------------------------------------------------------------------

namespace Ledger

/-- The newest version of the ledger file that can be read, and the one that is written. -/
def fileVersion : Nat := 1

/-- Why a ledger file is not read. -/
inductive FileError where
  /-- The text is no ledger file. -/
  | malformed
  /-- The file is of a version to come. -/
  | tooNew (version : Nat)
  deriving DecidableEq, Repr

/-- What is wrong with a ledger file, in words. -/
def FileError.message : FileError → String
  | malformed => "The ledger file cannot be read"
  | tooNew version =>
    s!"Ledger version {version} is newer than supported version {fileVersion}"

/-- The text of the ledger file. -/
def toFile (l : Ledger) : String :=
  (Json.object [("version", .integer fileVersion), ("family", l.toJson)]).pretty

/-- The version and the ledger that a node denotes. -/
def versionedOfNode? (n : Node) : Option (Nat × Ledger) := do
  let r ← n.record? ["version", "family"]
  return (← need r "version" nat32?, ← need r "family" Ledger.ofNode?)

/-- The ledger in the text of a ledger file. -/
def ofFile (text : String) : Except FileError Ledger :=
  match (Node.parse? text).bind versionedOfNode? with
  | none => .error .malformed
  | some (version, l) => if fileVersion < version then .error (.tooNew version) else .ok l

end Ledger

end HomeLedger
