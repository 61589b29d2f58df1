import HomeLedger.Ledger.Sample
import HomeLedger.Proofs.Decimal.Value
import HomeLedger.Proofs.Ledger.Step

/-!
# HomeLedger — no account is overdrawn

Balances are sums that are taken anew each time, and a sum of decimals may
be rounded. Still a run of lines that begins with a ledger whose balances
are not negative never leads to one with a negative balance: a payment that
is entered is one more summand at the end (`sum?_append_singleton`), so the
new balance is the old one plus the payment, and what is known of a single
addition is enough.

`Advance` says what a later ledger has kept of an earlier one. It holds for
one step (`advance_of_step`), and it composes.

Main results:

* `solvent_of_step` — a step keeps a ledger solvent.
* `standard_run_solvent` — so does a run, at every point of it, and the
  accounts that nothing is paid out of never lose money.
-/

namespace HomeLedger

-- ---------------------------------------------------------------------------
-- Sums with one more summand
-- ---------------------------------------------------------------------------

/-- A balance is checked against zero by comparing decimals, which is comparing
numbers. -/
theorem Decimal.zero_le_iff (d : Decimal) : Decimal.zero.le d = true ↔ 0 ≤ d.toRat := by
  rw [le_iff, toRat_zero]

namespace Ledger

theorem total_eq_ok {ds : List Decimal} {d : Decimal} :
    total ds = .ok d ↔ Decimal.sum? ds = some d := by
  unfold total
  cases Decimal.sum? ds <;> simp

/-- Only transactions count for a balance, and in no other way than by their
list. -/
theorem balance_congr {l l' : Ledger} (h : l'.transactions = l.transactions) (id : String) :
    l'.balance id = l.balance id := by
  rw [balance, settled, h]
  rfl

/-- A payment on another account does not count. -/
theorem balance_withEntry_of_ne {l : Ledger} {t : Transaction} {id : String}
    (h : t.accountId ≠ id) : (l.withEntry t).balance id = l.balance id := by
  simp [balance, settled, withEntry, h]

/-- A payment on the account is added to what there was. As it stands last, it
is the last summand, and what was summed before is the old balance. -/
theorem balance_withEntry {l : Ledger} {t : Transaction} {id : String} {old new : Decimal}
    (ht : t.accountId = id) (hs : t.status = .completed) (hOld : l.balance id = .ok old)
    (hNew : (l.withEntry t).balance id = .ok new) : old.add? t.effect = some new := by
  have hSettled : (l.withEntry t).settled id = l.settled id ++ [t] := by
    simp [settled, withEntry, ht, hs]
  rw [balance, total_eq_ok, hSettled, List.map_append, List.map_singleton,
    Decimal.sum?_append_singleton] at hNew
  rw [balance, total_eq_ok] at hOld
  rwa [hOld, Option.bind_some] at hNew

-- ---------------------------------------------------------------------------
-- Solvent ledgers
-- ---------------------------------------------------------------------------

/-- The kinds of accounts that nothing is paid out of. -/
def lockedKinds : List AccountKind := [.savings, .allowance, .chores]

/-- An account can be paid out of unless it is of a locked kind. The kinds are
listed twice in the household, and the two lists agree. -/
theorem canDebit_iff (kind : AccountKind) : kind.canDebit = true ↔ kind ∉ lockedKinds := by
  cases kind <;> decide

/-- Whether an id stands for an account, be it of one that there is or of one
that a transaction was entered for. -/
def NamesAccount (l : Ledger) (id : String) : Prop :=
  (∃ a ∈ l.accounts, a.id = id) ∨ ∃ t ∈ l.transactions, t.accountId = id

/-- No two accounts have the same id, and every balance is there and is not
negative. That it is there is part of the invariant, because a sum may
overflow. -/
structure Solvent (l : Ledger) : Prop where
  distinct : (l.accounts.map (·.id)).Nodup
  covered : ∀ a ∈ l.accounts, ∃ b, l.balance a.id = .ok b ∧ Decimal.zero.le b = true

/-- The account of an id is the only one of that id. -/
theorem Solvent.eq_of_id_eq {l : Ledger} (h : l.Solvent) {a a' : Account} (ha : a ∈ l.accounts)
    (ha' : a' ∈ l.accounts) (hId : a.id = a'.id) : a = a' :=
  List.inj_on_of_nodup_map h.distinct ha ha' hId

/-- A ledger with the same accounts and transactions is solvent as well. -/
theorem Solvent.congr {l l' : Ledger} (h : l.Solvent) (hAccounts : l'.accounts = l.accounts)
    (hTransactions : l'.transactions = l.transactions) : l'.Solvent := by
  refine ⟨hAccounts ▸ h.distinct, ?_⟩
  intro a ha
  rw [balance_congr hTransactions]
  exact h.covered a (hAccounts ▸ ha)

/-- A payment on an account keeps a ledger solvent, if the account's new balance
is not negative. All other balances are what they were. -/
theorem Solvent.withEntry {l : Ledger} (h : l.Solvent) {t : Transaction} {new : Decimal}
    (hNew : (l.withEntry t).balance t.accountId = .ok new) (hCovered : 0 ≤ new.toRat) :
    (l.withEntry t).Solvent := by
  refine ⟨h.distinct, ?_⟩
  intro a ha
  by_cases hId : t.accountId = a.id
  · exact ⟨new, hId ▸ hNew, (Decimal.zero_le_iff new).mpr hCovered⟩
  · rw [balance_withEntry_of_ne hId]
    exact h.covered a ha

/-- What a balance of a solvent ledger is. -/
theorem Solvent.balance_nonneg {l : Ledger} (h : l.Solvent) {a : Account} (ha : a ∈ l.accounts) :
    ∃ b, l.balance a.id = .ok b ∧ 0 ≤ b.toRat := by
  obtain ⟨b, hb, hle⟩ := h.covered a ha
  exact ⟨b, hb, (Decimal.zero_le_iff b).mp hle⟩

-- ---------------------------------------------------------------------------
-- One step
-- ---------------------------------------------------------------------------

variable {stamp : Stamp} {l l' l'' : Ledger}

/-- A step keeps a ledger solvent. A credit adds to a balance that is not
negative, and a debit has been compared to what there was. A new account needs
an id for which nothing has been entered. -/
theorem solvent_of_step (hStep : l.Step stamp l') (h : l.Solvent)
    (hFresh : ¬l.NamesAccount stamp.id) : l'.Solvent := by
  cases hStep with
  | kept => exact h
  | memberSelected m hm => exact h.congr rfl rfl
  | accountSelected a ha => exact h.congr rfl rfl
  | listCreated list hId hName hItems => exact h.congr rfl rfl
  | itemAdded i item hId => exact h.congr rfl rfl
  | itemChanged i j change hKept => exact h.congr rfl rfl
  | accountOpened a hId hName hOwner =>
    have hUnused : ∀ a' ∈ l.accounts, a'.id ≠ a.id := by
      intro a' ha' hSameId
      exact hFresh (Or.inl ⟨a', ha', hSameId.trans hId⟩)
    refine ⟨?_, ?_⟩
    · rw [List.map_append, List.map_singleton]
      refine h.distinct.append (List.nodup_singleton _) ?_
      simpa [List.disjoint_singleton] using hUnused
    · intro a' ha'
      rw [balance_congr rfl]
      rcases List.mem_append.mp ha' with hMem | hMem
      · exact h.covered a' hMem
      · -- nothing has been entered for the new account, so its balance is zero
        obtain rfl := List.mem_singleton.mp hMem
        have hNone : l.settled a'.id = [] := by
          refine List.filter_eq_nil_iff.mpr ?_
          intro t ht hMatch
          have hSameId : t.accountId = a'.id := by simp at hMatch; exact hMatch.1
          exact hFresh (Or.inr ⟨t, ht, hSameId.trans hId⟩)
        refine ⟨Decimal.zero, ?_, (Decimal.zero_le_iff _).mpr (by simp)⟩
        show total ((l.settled a'.id).map (·.effect)) = .ok Decimal.zero
        rw [hNone]
        rfl
  | credited a amount new note hAccount hPositive hNew =>
    obtain ⟨old, hOld, hNonneg⟩ := h.balance_nonneg hAccount
    refine h.withEntry (t := entry stamp .credit a.id amount note) hNew ?_
    have hSum := balance_withEntry (t := entry stamp .credit a.id amount note) rfl rfl hOld hNew
    have hAmount : 0 < amount.toRat := (Decimal.isPositive_iff_toRat _).mp hPositive
    exact hNonneg.trans (Decimal.le_add? hSum hNonneg hAmount)
  | debited a amount old new note hAccount hPositive hKind hOld hFunds hNew =>
    refine h.withEntry (t := entry stamp .debit a.id amount note) hNew ?_
    have hSum := balance_withEntry (t := entry stamp .debit a.id amount note) rfl rfl hOld hNew
    have hAmountLe : amount.toRat ≤ old.toRat := by
      rw [← not_lt, ← Decimal.lt_iff, hFunds]
      simp
    -- a sum that is not negative stays so when it is rounded
    refine Decimal.add?_nonneg hSum ?_
    show 0 ≤ old.toRat + amount.negate.toRat
    rw [Decimal.toRat_negate]
    linarith

/-- What a later ledger has kept of an earlier one: its accounts, its
transactions, and what is held by accounts of a locked kind. What was entered
since takes nothing from these. -/
structure Advance (l l' : Ledger) : Prop where
  accounts : ∃ opened, l'.accounts = l.accounts ++ opened
  transactions : ∃ entered, l'.transactions = l.transactions ++ entered ∧
    ∀ t ∈ entered, t.direction = .debit →
      ∃ a ∈ l'.accounts, a.id = t.accountId ∧ a.kind ∉ lockedKinds
  balances : ∀ a ∈ l.accounts, a.kind ∈ lockedKinds → ∀ b, l.balance a.id = .ok b →
    ∃ b', l'.balance a.id = .ok b' ∧ b.le b' = true

/-- Where accounts and transactions are the same, all of this is kept. -/
theorem Advance.congr (hAccounts : l'.accounts = l.accounts)
    (hTransactions : l'.transactions = l.transactions) : Advance l l' := by
  refine ⟨⟨[], by simp [hAccounts]⟩, ⟨[], by simp [hTransactions], by simp⟩, ?_⟩
  intro a _ _ b hb
  exact ⟨b, (balance_congr hTransactions _).trans hb, (Decimal.le_iff b b).mpr le_rfl⟩

/-- What is kept twice is kept, so that the steps of a run add up. The new
accounts and transactions of the second step go behind those of the first, and
the balances in between are compared with both. -/
theorem Advance.trans (h : Advance l l') (h' : Advance l' l'') : Advance l l'' := by
  obtain ⟨opened, hOpened⟩ := h.accounts
  obtain ⟨opened', hOpened'⟩ := h'.accounts
  obtain ⟨entered, hEntered, hDebits⟩ := h.transactions
  obtain ⟨entered', hEntered', hDebits'⟩ := h'.transactions
  refine ⟨⟨opened ++ opened', by rw [hOpened', hOpened, List.append_assoc]⟩,
    ⟨entered ++ entered', by rw [hEntered', hEntered, List.append_assoc], ?_⟩, ?_⟩
  · intro t ht hDebit
    rcases List.mem_append.mp ht with hMem | hMem
    · obtain ⟨a, ha, hId, hKind⟩ := hDebits t hMem hDebit
      exact ⟨a, hOpened' ▸ List.mem_append_left _ ha, hId, hKind⟩
    · exact hDebits' t hMem hDebit
  · intro a ha hKind b hb
    obtain ⟨b', hb', hle⟩ := h.balances a ha hKind b hb
    obtain ⟨b'', hb'', hle'⟩ :=
      h'.balances a (hOpened ▸ List.mem_append_left _ ha) hKind b' hb'
    rw [Decimal.le_iff] at hle hle'
    exact ⟨b'', hb'', (Decimal.le_iff b b'').mpr (hle.trans hle')⟩

/-- A step keeps the accounts and the transactions that there are. It enters no
debit of a locked account, and takes nothing from one. That a credit takes
nothing from it is the one place where rounding matters. -/
theorem advance_of_step (hStep : l.Step stamp l') (h : l.Solvent) : Advance l l' := by
  cases hStep with
  | kept => exact .congr rfl rfl
  | memberSelected m hm => exact .congr rfl rfl
  | accountSelected a ha => exact .congr rfl rfl
  | listCreated list hId hName hItems => exact .congr rfl rfl
  | itemAdded i item hId => exact .congr rfl rfl
  | itemChanged i j change hKept => exact .congr rfl rfl
  | accountOpened a hId hName hOwner =>
    refine ⟨⟨[a], rfl⟩, ⟨[], (List.append_nil _).symm, by simp⟩, ?_⟩
    intro a' _ _ b hb
    exact ⟨b, hb, (Decimal.le_iff b b).mpr le_rfl⟩
  | credited a amount new note hAccount hPositive hNew =>
    refine ⟨⟨[], (List.append_nil _).symm⟩, ⟨[_], rfl, ?_⟩, ?_⟩
    · intro t ht hDebit
      obtain rfl := List.mem_singleton.mp ht
      exact absurd hDebit (by simp [entry])
    · intro a' ha' _ b hb
      -- a payment into the account makes its balance larger, and into another one leaves it
      by_cases hSameId : a.id = a'.id
      · obtain ⟨old, hOld, hNonneg⟩ := h.balance_nonneg ha'
        obtain rfl : old = b := Except.ok.inj (hOld.symm.trans hb)
        rw [← hSameId] at hOld ⊢
        have hSum := balance_withEntry (t := entry stamp .credit a.id amount note) rfl rfl hOld hNew
        have hAmount : 0 < amount.toRat := (Decimal.isPositive_iff_toRat _).mp hPositive
        exact ⟨new, hNew, (Decimal.le_iff _ _).mpr (Decimal.le_add? hSum hNonneg hAmount)⟩
      · refine ⟨b, ?_, (Decimal.le_iff b b).mpr le_rfl⟩
        rw [balance_withEntry_of_ne (t := entry stamp .credit a.id amount note) hSameId, hb]
  | debited a amount old new note hAccount hPositive hKind hOld hFunds hNew =>
    have ha : a ∈ l.accounts := mem_of_accountOfId? hAccount
    have hUnlocked : a.kind ∉ lockedKinds := (canDebit_iff _).mp hKind
    refine ⟨⟨[], (List.append_nil _).symm⟩, ⟨[_], rfl, ?_⟩, ?_⟩
    · intro t ht _
      obtain rfl := List.mem_singleton.mp ht
      exact ⟨a, ha, rfl, hUnlocked⟩
    · intro a' ha' hLocked b hb
      -- the account that is paid out of is another one
      have hOther : a.id ≠ a'.id := by
        intro hSameId
        exact hUnlocked (h.eq_of_id_eq ha ha' hSameId ▸ hLocked)
      refine ⟨b, ?_, (Decimal.le_iff b b).mpr le_rfl⟩
      rw [balance_withEntry_of_ne (t := entry stamp .debit a.id amount note) hOther, hb]

/-- An id that stands for an account after a step stood for one before, or is
that of the step. -/
theorem namesAccount_of_step (hStep : l.Step stamp l') {id : String} (h : l'.NamesAccount id) :
    l.NamesAccount id ∨ id = stamp.id := by
  cases hStep with
  | kept => exact Or.inl h
  | memberSelected m hm => exact Or.inl h
  | accountSelected a ha => exact Or.inl h
  | listCreated list hId hName hItems => exact Or.inl h
  | itemAdded i item hId => exact Or.inl h
  | itemChanged i j change hKept => exact Or.inl h
  | accountOpened a hId hName hOwner =>
    rcases h with ⟨a', ha', rfl⟩ | ht
    -- the new account has the id of the stamp, and all other ones were there
    · rcases List.mem_append.mp ha' with hMem | hMem
      · exact Or.inl (Or.inl ⟨a', hMem, rfl⟩)
      · obtain rfl := List.mem_singleton.mp hMem
        exact Or.inr hId
    · exact Or.inl (Or.inr ht)
  | credited a amount new note hAccount hPositive hNew =>
    rcases h with ha | ⟨t, ht, rfl⟩
    · exact Or.inl (Or.inl ha)
    · rcases List.mem_append.mp ht with hMem | hMem
      · exact Or.inl (Or.inr ⟨t, hMem, rfl⟩)
      · obtain rfl := List.mem_singleton.mp hMem
        exact Or.inl (Or.inl ⟨a, hAccount, rfl⟩)
  | debited a amount old new note hAccount hPositive hKind hOld hFunds hNew =>
    rcases h with ha | ⟨t, ht, rfl⟩
    · exact Or.inl (Or.inl ha)
    · rcases List.mem_append.mp ht with hMem | hMem
      · exact Or.inl (Or.inr ⟨t, hMem, rfl⟩)
      · obtain rfl := List.mem_singleton.mp hMem
        exact Or.inl (Or.inl ⟨a, mem_of_accountOfId? hAccount, rfl⟩)

end Ledger

-- ---------------------------------------------------------------------------
-- Runs
-- ---------------------------------------------------------------------------

namespace Routes

open Ledger

variable {l l' : Ledger}

/-- The lines bring ids that stand for no account yet, each one of its own. -/
structure FreshStamps (lines : List (Setting × String)) (l : Ledger) : Prop where
  distinct : (lines.map (·.1.stamp.id)).Nodup
  unused : ∀ line ∈ lines, ¬l.NamesAccount line.1.stamp.id

theorem FreshStamps.head {s : Setting} {line : String} {rest : List (Setting × String)}
    (h : FreshStamps ((s, line) :: rest) l) : ¬l.NamesAccount s.stamp.id :=
  h.unused _ List.mem_cons_self

/-- After the first line the ids of the others are still fresh. -/
theorem FreshStamps.tail {s : Setting} {line : String} {rest : List (Setting × String)}
    (h : FreshStamps ((s, line) :: rest) l) (hStep : l.Step s.stamp l') : FreshStamps rest l' := by
  obtain ⟨hNotin, hNodup⟩ := List.nodup_cons.mp h.distinct
  refine ⟨hNodup, ?_⟩
  intro line' hMem hNames
  rcases namesAccount_of_step hStep hNames with hBefore | hId
  · exact h.unused line' (List.mem_cons_of_mem _ hMem) hBefore
  · exact hNotin (List.mem_map.mpr ⟨line', hMem, hId⟩)

/-- What a run keeps, and what stays fresh for the lines after it. The induction
is on the lines, with the three facts together: each needs the others. -/
theorem run_keeps {lines after : List (Setting × String)} {rs : List Response}
    (hSolvent : l.Solvent) (hFresh : FreshStamps (lines ++ after) l)
    (hRun : standard.run lines l = .ok (rs, l')) :
    l'.Solvent ∧ l.Advance l' ∧ FreshStamps after l' := by
  induction lines generalizing l rs with
  | nil =>
    obtain ⟨-, rfl⟩ := Prod.mk.inj (Except.ok.inj hRun)
    exact ⟨hSolvent, .congr rfl rfl, hFresh⟩
  | cons first rest ih =>
    obtain ⟨s, line⟩ := first
    obtain ⟨r, m, rs', hSubmit, hRest, -⟩ := run_cons hRun
    have hStep := step_of_submit hSubmit
    obtain ⟨hl', hAdvance, hAfter⟩ :=
      ih (solvent_of_step hStep hSolvent hFresh.head) (hFresh.tail hStep) hRest
    exact ⟨hl', (advance_of_step hStep hSolvent).trans hAdvance, hAfter⟩

/-- A run of lines that begins with a solvent ledger keeps it solvent at
every point. From one point of the run to a later one nothing is paid out of
a locked account, and what it holds does not get less. -/
theorem standard_run_solvent (before middle after : List (Setting × String)) {rs : List Response}
    (hSolvent : l.Solvent) (hFresh : FreshStamps (before ++ (middle ++ after)) l)
    (hRun : standard.run (before ++ (middle ++ after)) l = .ok (rs, l')) :
    ∃ rs₁ m₁ rs₂ m₂ rs₃, standard.run before l = .ok (rs₁, m₁) ∧
      standard.run middle m₁ = .ok (rs₂, m₂) ∧ standard.run after m₂ = .ok (rs₃, l') ∧
      m₁.Solvent ∧ m₂.Solvent ∧
      (∃ entered, m₂.transactions = m₁.transactions ++ entered ∧
        ∀ t ∈ entered, t.direction = .debit →
          ∀ a ∈ m₂.accounts, a.id = t.accountId → a.kind ∉ lockedKinds) ∧
      ∀ a ∈ m₁.accounts, a ∈ m₂.accounts ∧ (a.kind ∈ lockedKinds →
        ∃ b b', m₁.balance a.id = .ok b ∧ m₂.balance a.id = .ok b' ∧ b.le b' = true) := by
  obtain ⟨rs₁, m₁, rs', hBefore, hRest, -⟩ := run_append hRun
  obtain ⟨rs₂, m₂, rs₃, hMiddle, hAfter, -⟩ := run_append hRest
  obtain ⟨hSolvent₁, -, hFresh₁⟩ := run_keeps hSolvent hFresh hBefore
  obtain ⟨hSolvent₂, hAdvance, -⟩ := run_keeps hSolvent₁ hFresh₁ hMiddle
  obtain ⟨opened, hOpened⟩ := hAdvance.accounts
  obtain ⟨entered, hEntered, hDebits⟩ := hAdvance.transactions
  refine ⟨rs₁, m₁, rs₂, m₂, rs₃, hBefore, hMiddle, hAfter, hSolvent₁, hSolvent₂,
    ⟨entered, hEntered, ?_⟩, ?_⟩
  · intro t ht hDebit a ha hId
    obtain ⟨a', ha', hId', hKind⟩ := hDebits t ht hDebit
    rwa [hSolvent₂.eq_of_id_eq ha ha' (hId.trans hId'.symm)]
  · intro a ha
    refine ⟨hOpened ▸ List.mem_append_left _ ha, ?_⟩
    intro hLocked
    obtain ⟨b, hb, -⟩ := hSolvent₁.covered a ha
    obtain ⟨b', hb', hle⟩ := hAdvance.balances a ha hLocked b hb
    exact ⟨b, b', hb, hb', hle⟩

/-- A teenager with a jar to save in and a purse to spend from. -/
def jarAndPurse : Ledger :=
  { members := [{ id := "m", firstName := "Ann", lastName := "Lee", role := .teen }]
    accounts :=
      [{ id := "j", name := "Jar", kind := .savings, ownerId := "m", currency := "USD" },
        { id := "p", name := "Purse", kind := .spending, ownerId := "m", currency := "USD" }]
    transactions :=
      [{ id := "t", direction := .credit, amount := hundredths ⟨2000, by decide⟩, accountId := "p",
         description := "", createdAt := .noon ⟨2026, 1, 1, by decide⟩ }] }

/-- Some is put into the jar, cannot be taken out of it, and some is spent. -/
def pocketMoney : List (Setting × String) :=
  let day : Date := ⟨2026, 1, 2, by decide⟩
  let setting (id : String) : Setting := ⟨{}, day, id, .noon day⟩
  [(setting "a", "account credit 5 --account Jar"), (setting "b", "account debit 2 --account Jar"),
    (setting "c", "account debit 7.50 --account Purse")]

/-- The jar and the purse have what was paid in, and their ids are distinct. -/
theorem jarAndPurse_solvent : jarAndPurse.Solvent := by
  refine ⟨by decide, ?_⟩
  intro a ha
  simp only [jarAndPurse, List.mem_cons, List.not_mem_nil, or_false] at ha
  rcases ha with rfl | rfl
  · exact ⟨_, rfl, rfl⟩
  · exact ⟨_, rfl, rfl⟩

/-- The debit of the jar is refused, and both accounts are covered in the
end. -/
theorem pocketMoney_solvent :
    jarAndPurse.Solvent ∧ FreshStamps pocketMoney jarAndPurse ∧
      ∃ rs l', standard.run pocketMoney jarAndPurse = .ok (rs, l') ∧
        rs.map (·.success) = [true, false, true] ∧ l'.Solvent := by
  have hFresh : FreshStamps pocketMoney jarAndPurse := by
    refine ⟨by decide, ?_⟩
    unfold NamesAccount
    decide
  obtain ⟨rs, l', hRun, hAnswers⟩ : ∃ rs l', standard.run pocketMoney jarAndPurse = .ok (rs, l') ∧
      rs.map (·.success) = [true, false, true] := ⟨_, _, rfl, rfl⟩
  obtain ⟨_, _, _, m, _, -, -, hAfter, -, hm, -⟩ :=
    standard_run_solvent (pocketMoney.take 1) (pocketMoney.drop 1) [] jarAndPurse_solvent hFresh
      hRun
  obtain ⟨-, rfl⟩ := Prod.mk.inj (Except.ok.inj hAfter)
  exact ⟨jarAndPurse_solvent, hFresh, rs, m, hRun, hAnswers, hm⟩

end Routes

end HomeLedger
