import HomeLedger.Ledger.Json
import HomeLedger.Main
import HomeLedger.Proofs.Json.Decode
import HomeLedger.Proofs.Storage

/-!
# HomeLedger — a ledger is read from its file

What is read from the file of a ledger is the ledger, down to the places of
its amounts and the nanoseconds of its entries. Only two values come back as
others (`Ledger.reread`): a zero with a sign comes back without it, because
digits that make up zero are read without one, and a second with `10 ^ 9`
nanoseconds or more that is no leap second comes back as the next one, whose
time stamp it has.

Main results:

* `Ledger.decodes_toJson` — a ledger is decoded from its value of JSON.
* `Ledger.ofFile_toFile` — a ledger is read from the text of its file.
* `Ledger.reread_eq_self_iff` — which ledgers come back as they are.
* `Ledger.load_save` — a ledger is saved in a directory and loaded again.
-/

namespace HomeLedger

open Json

-- ---------------------------------------------------------------------------
-- Members and accounts
-- ---------------------------------------------------------------------------

/-- A member is decoded from its members of JSON, all of which are texts or
names. -/
theorem Member.decodes_toJson (m : Member) : Decodes Member.ofNode? m.toJson m := by
  have hRole : lookup? m.role.name (Node.tagged Role.name Role.all) = some m.role := by
    cases m.role <;> decide
  obtain ⟨_, hId, hIdText⟩ := decodes_text m.id
  obtain ⟨_, hFirst, hFirstText⟩ := decodes_text m.firstName
  obtain ⟨_, hLast, hLastText⟩ := decodes_text m.lastName
  obtain ⟨_, hRoleName, hRoleConstant⟩ := decodes_constant hRole
  obtain ⟨_, hActive, hActiveBool⟩ := decodes_bool m.isActive
  refine decodes_record (.cons (readsMember hId) <| .cons (readsMember hFirst) <|
    .cons (readsMember hLast) <| .cons (readsMember hRoleName) <|
    .cons (readsMember hActive) .nil) rfl (by simp) ?_
  simp [Node.need, Node.needOr, lookup?, hIdText, hFirstText, hLastText, hRoleConstant, hActiveBool]

theorem Account.decodes_toJson (a : Account) : Decodes Account.ofNode? a.toJson a := by
  have hKind : lookup? a.kind.name (Node.tagged AccountKind.name AccountKind.all) =
      some a.kind := by
    cases a.kind <;> decide
  obtain ⟨_, hId, hIdText⟩ := decodes_text a.id
  obtain ⟨_, hName, hNameText⟩ := decodes_text a.name
  obtain ⟨_, hKindName, hKindConstant⟩ := decodes_constant hKind
  obtain ⟨_, hOwner, hOwnerText⟩ := decodes_text a.ownerId
  obtain ⟨_, hCurrency, hCurrencyText⟩ := decodes_text a.currency
  obtain ⟨_, hActive, hActiveBool⟩ := decodes_bool a.isActive
  refine decodes_record (.cons (readsMember hId) <| .cons (readsMember hName) <|
    .cons (readsMember hKindName) <| .cons (readsMember hOwner) <|
    .cons (readsMember hCurrency) <| .cons (readsMember hActive) .nil) rfl (by simp) ?_
  simp [Node.need, Node.needOr, lookup?, hIdText, hNameText, hKindConstant, hOwnerText,
    hCurrencyText, hActiveBool]

-- ---------------------------------------------------------------------------
-- Transactions
-- ---------------------------------------------------------------------------

namespace Transaction

/-- The transaction that is read for a transaction: a zero has lost its sign,
and nanoseconds beyond their second are carried to the next one. -/
def reread (t : Transaction) : Transaction :=
  { t with amount := t.amount.withoutZeroSign, createdAt := t.createdAt.carried }

/-- A transaction is decoded as what is read for it. Its amount and its time are
the two members that may not come back as they are. -/
theorem decodes_toJson (t : Transaction) : Decodes Transaction.ofNode? t.toJson t.reread := by
  have hDirection : lookup? t.direction.name (Node.tagged Direction.name Direction.all) =
      some t.direction := by
    cases t.direction <;> decide
  have hStatus : lookup? t.status.name (Node.tagged Status.name Status.all) = some t.status := by
    cases t.status <;> decide
  obtain ⟨_, hId, hIdText⟩ := decodes_text t.id
  obtain ⟨_, hKind, hKindConstant⟩ := decodes_constant hDirection
  obtain ⟨_, hAmount, hAmountDecimal⟩ := decodes_decimal t.amount
  obtain ⟨_, hAccount, hAccountText⟩ := decodes_text t.accountId
  obtain ⟨_, hDescription, hDescriptionText⟩ := decodes_text t.description
  obtain ⟨_, hStatusName, hStatusConstant⟩ := decodes_constant hStatus
  obtain ⟨_, hCreated, hCreatedInstant⟩ := decodes_instant t.createdAt
  refine decodes_record (.cons (readsMember hId) <| .cons (readsMember hKind) <|
    .cons (readsMember hAmount) <| .cons (readsMember hAccount) <|
    .cons (readsMember hDescription) <| .cons (readsMember hStatusName) <|
    .cons (readsMember hCreated) .nil) rfl (by simp) ?_
  simp [Node.need, Node.needOr, lookup?, hIdText, hKindConstant, hAmountDecimal, hAccountText,
    hDescriptionText, hStatusConstant, hCreatedInstant, reread]

/-- Which transactions come back as they are: those whose amount is no zero with
a sign, and whose time is no second that is too long. -/
theorem reread_eq_self_iff (t : Transaction) : t.reread = t ↔
    (t.amount.mantissa = 0 → t.amount.negative = false) ∧
      (1000000000 ≤ t.createdAt.time.nanoseconds → t.createdAt.time.seconds % 60 = 59) := by
  rw [← Decimal.withoutZeroSign_eq_self_iff, ← Instant.carried_eq_self_iff]
  constructor
  · intro h
    exact ⟨congrArg amount h, congrArg createdAt h⟩
  · rintro ⟨hAmount, hCreated⟩
    rw [reread, hAmount, hCreated]

end Transaction

-- ---------------------------------------------------------------------------
-- Lists
-- ---------------------------------------------------------------------------

/-- An item is decoded from its members of JSON, the absent ones as `null`. -/
theorem Item.decodes_toJson (i : Item) : Decodes Item.ofNode? i.toJson i := by
  obtain ⟨_, hId, hIdText⟩ := decodes_text i.id
  obtain ⟨_, hText, hTextText⟩ := decodes_text i.text
  obtain ⟨_, hCompleted, hCompletedBool⟩ := decodes_bool i.completed
  obtain ⟨_, hDue, hDueDate⟩ := decodes_option (·.isoText) date?_isoText i.due
  obtain ⟨_, hSchedule, hScheduleText⟩ := decodes_optionalText i.schedule
  refine decodes_record (.cons (readsMember hId) <| .cons (readsMember hText) <|
    .cons (readsMember hCompleted) <| .cons (readsMember hDue) <|
    .cons (readsMember hSchedule) .nil) rfl (by simp) ?_
  simp [Node.need, Node.needOr, lookup?, hIdText, hTextText, hCompletedBool, hDueDate,
    hScheduleText]

theorem TodoList.decodes_toJson (l : TodoList) : Decodes TodoList.ofNode? l.toJson l := by
  obtain ⟨_, hId, hIdText⟩ := decodes_text l.id
  obtain ⟨_, hName, hNameText⟩ := decodes_text l.name
  obtain ⟨_, hShared, hSharedTexts⟩ := decodes_list fun s (_ : s ∈ l.sharedWith) => decodes_text s
  obtain ⟨_, hItems, hItemsItems⟩ := decodes_list fun i (_ : i ∈ l.items) => i.decodes_toJson
  rw [List.map_id'] at hSharedTexts hItemsItems
  refine decodes_record (.cons (readsMember hId) <| .cons (readsMember hName) <|
    .cons (readsMember hShared) <| .cons (readsMember hItems) .nil) rfl (by simp) ?_
  simp [Node.need, Node.needOr, lookup?, hIdText, hNameText, hSharedTexts, hItemsItems]

-- ---------------------------------------------------------------------------
-- The ledger
-- ---------------------------------------------------------------------------

namespace Ledger

/-- The ledger that is read for a ledger. -/
def reread (l : Ledger) : Ledger := { l with transactions := l.transactions.map (·.reread) }

/-- A ledger is decoded with all it holds in the order in which it is. -/
theorem decodes_toJson (l : Ledger) : Decodes Ledger.ofNode? l.toJson l.reread := by
  obtain ⟨_, hMembers, hMembersOk⟩ := decodes_list fun m (_ : m ∈ l.members) => m.decodes_toJson
  obtain ⟨_, hAccounts, hAccountsOk⟩ := decodes_list fun a (_ : a ∈ l.accounts) => a.decodes_toJson
  obtain ⟨_, hTransactions, hTransactionsOk⟩ :=
    decodes_list fun t (_ : t ∈ l.transactions) => t.decodes_toJson
  obtain ⟨_, hLists, hListsOk⟩ := decodes_list fun t (_ : t ∈ l.lists) => t.decodes_toJson
  obtain ⟨_, hAccount, hAccountText⟩ := decodes_optionalText l.selectedAccount
  obtain ⟨_, hMember, hMemberText⟩ := decodes_optionalText l.selectedMember
  obtain ⟨_, hList, hListText⟩ := decodes_optionalText l.selectedList
  rw [List.map_id'] at hMembersOk hAccountsOk hListsOk
  refine decodes_record (.cons (readsMember hMembers) <| .cons (readsMember hAccounts) <|
    .cons (readsMember hTransactions) <| .cons (readsMember hLists) <|
    .cons (readsMember hAccount) <| .cons (readsMember hMember) <|
    .cons (readsMember hList) .nil) rfl (by simp) ?_
  simp [Node.need, Node.needOr, lookup?, hMembersOk, hAccountsOk, hTransactionsOk, hListsOk,
    hAccountText, hMemberText, hListText, reread]

/-- A ledger is read from the text of its file, whatever is in it. No ledger is
refused by its own reader. -/
theorem ofFile_toFile (l : Ledger) : ofFile l.toFile = .ok l.reread := by
  obtain ⟨_, hVersion, hVersionNat⟩ := decodes_nat32 (n := fileVersion) (by decide)
  obtain ⟨_, hFamily, hFamilyLedger⟩ := l.decodes_toJson
  obtain ⟨n, hReads, hDecode⟩ : Decodes versionedOfNode?
      (.object [("version", .integer fileVersion), ("family", l.toJson)])
      (fileVersion, l.reread) := by
    refine decodes_record (.cons (readsMember hVersion) <| .cons (readsMember hFamily) .nil)
      rfl (by simp) ?_
    simp [Node.need, lookup?, hVersionNat, hFamilyLedger]
  rw [ofFile, toFile, parse?_pretty hReads, Option.bind_some, hDecode]
  rfl

/-- Which ledgers come back as they are. -/
theorem reread_eq_self_iff (l : Ledger) :
    l.reread = l ↔ ∀ t ∈ l.transactions, t.reread = t := by
  have hTransactions : l.transactions.map (·.reread) = l.transactions.map id ↔
      ∀ t ∈ l.transactions, t.reread = t := List.map_inj_left
  rw [List.map_id] at hTransactions
  rw [← hTransactions]
  constructor
  · intro h
    exact congrArg transactions h
  · intro h
    rw [reread, h]

/-- Where no zero has a sign, the text of the file does not change. -/
theorem toFile_reread {l : Ledger}
    (h : ∀ t ∈ l.transactions, t.amount.mantissa = 0 → t.amount.negative = false) :
    l.reread.toFile = l.toFile := by
  have hTransactions : l.transactions.map (·.reread.toJson) = l.transactions.map (·.toJson) := by
    refine List.map_congr_left fun t ht => ?_
    have hAmount := (Decimal.withoutZeroSign_eq_self_iff t.amount).mpr (h t ht)
    rw [Transaction.toJson, Transaction.toJson, Transaction.reread, hAmount, Instant.text_carried]
  have hToJson : l.reread.toJson = l.toJson := by
    simp only [toJson, reread, List.map_map]
    rw [← hTransactions]
    rfl
  rw [toFile, toFile, hToJson]

-- ---------------------------------------------------------------------------
-- Saving and loading
-- ---------------------------------------------------------------------------

/-- A ledger that is saved in a directory is loaded again, as it was but for
the signs of zeros and for nanoseconds that are too many. So it is the same
ledger just where there are none of these, and without the former it is saved
as the same text. -/
theorem load_save (d : Directory) (l : Ledger) :
    ∃ d', d.lockedWrite CommandLine.ledgerName l.toFile = (true, d') ∧
      (d'.read? CommandLine.ledgerName).map ofFile = some (.ok l.reread) ∧
      (l.reread = l ↔ ∀ t ∈ l.transactions,
        (t.amount.mantissa = 0 → t.amount.negative = false) ∧
        (1000000000 ≤ t.createdAt.time.nanoseconds → t.createdAt.time.seconds % 60 = 59)) ∧
      ((∀ t ∈ l.transactions, t.amount.mantissa = 0 → t.amount.negative = false) →
        l.reread.toFile = l.toFile) := by
  have hPath : Destination.ofPath? CommandLine.ledgerName =
      some ⟨CommandLine.ledgerName, true, false⟩ := by decide +kernel
  refine ⟨_, Directory.lockedWrite_eq hPath (by decide +kernel) d l.toFile, ?_, ?_, toFile_reread⟩
  · rw [Directory.read?_atomicWrite, Option.map_some, ofFile_toFile]
  · simp only [reread_eq_self_iff, Transaction.reread_eq_self_iff]

/-- A ledger with nothing in it but one transaction. -/
def single (amount : Decimal) (createdAt : Instant) : Ledger :=
  { transactions := [
      { id := "t", direction := .credit, amount, accountId := "a", description := "", createdAt }] }

/-- A zero with a sign, as it is read where no place is left for its digit. -/
def signedZero : Decimal := (Decimal.read "-0.1e-28".toList).getD .zero

/-- A second and a half after midnight, as one second that is too long. -/
def longSecond : Instant := ⟨⟨2026, 1, 5, by decide⟩, ⟨0, 1500000000⟩, by decide, by decide⟩

/-- The zero has lost its sign, and with it the file has another text. The
second has moved on, but is shown as before. -/
theorem single_not_kept :
    (∃ l, ofFile (single signedZero (.noon longSecond.date)).toFile = .ok l ∧
      l ≠ single signedZero (.noon longSecond.date) ∧
      l.toFile ≠ (single signedZero (.noon longSecond.date)).toFile) ∧
    ∃ l, ofFile (single .zero longSecond).toFile = .ok l ∧ l ≠ single .zero longSecond := by
  refine ⟨⟨_, ofFile_toFile _, by decide +kernel, ?_⟩, ⟨_, ofFile_toFile _, by decide +kernel⟩⟩
  intro h
  exact absurd (String.ofList_injective h) (by decide +kernel)

end Ledger

end HomeLedger
