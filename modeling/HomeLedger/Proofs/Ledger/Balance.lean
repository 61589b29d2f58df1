import HomeLedger.Proofs.Decimal.Exact
import HomeLedger.Proofs.Ledger.Request
import HomeLedger.Proofs.Ledger.Solvency
import HomeLedger.Proofs.Outcome

/-!
# HomeLedger — balances to the last digit

A balance is a sum that is taken from the left and may be rounded on the way,
so it is not a matter of course that it is what the transactions come to, nor
that their order does not matter. Both hold as long as the amounts that were
moved fit together, whichever way they went (`Decimal.FitTogether`).

What counts for an account is said by counting: two ledgers have the same
history of it (`Ledger.SameHistory`) if each of its completed transactions is
entered as often in one as in the other. All else may differ.

Main results:

* `exists_balance` — a balance whose amounts fit is exact.
* `exists_balances` — so are those of several accounts, and they fit again.
* `exact_balances` — the balance of an account or a member is exact, and
  depends on nothing but the history.
-/

namespace HomeLedger

namespace Ledger

open Decimal

variable {l l' : Ledger} {id : String} {s : Nat}

-- ---------------------------------------------------------------------------
-- What an account comes to
-- ---------------------------------------------------------------------------

/-- The amounts of the completed transactions of an account. -/
def amounts (l : Ledger) (id : String) : List Decimal := (l.settled id).map (·.amount)

/-- The exact sum of the amounts that were moved in one direction. -/
def moved (ts : List Transaction) (direction : Direction) : ℚ :=
  ((ts.filter (·.direction == direction)).map (·.amount.toRat)).sum

/-- What the completed transactions of an account come to: what was paid in less
what was paid out. It is a number and not a decimal, so nothing about it is
rounded. -/
def exactBalance (l : Ledger) (id : String) : ℚ :=
  moved (l.settled id) .credit - moved (l.settled id) .debit

/-- The effects of transactions come to what was paid in less what was paid out.
The program adds effects one by one, and never takes the two sums apart. -/
theorem sum_effects (ts : List Transaction) :
    ((ts.map (·.effect)).map toRat).sum = moved ts .credit - moved ts .debit := by
  induction ts with
  | nil => simp [moved]
  | cons t ts ih =>
    rw [List.map_cons, List.map_cons, List.sum_cons, ih]
    cases hDirection : t.direction with
    | credit =>
      simp only [moved, hDirection, Transaction.effect, List.filter_cons, beq_self_eq_true,
        if_true, List.map_cons, List.sum_cons]
      rw [if_neg (by decide)]
      ring
    | debit =>
      simp only [moved, hDirection, Transaction.effect, List.filter_cons, beq_self_eq_true,
        if_true, List.map_cons, List.sum_cons, toRat_negate]
      rw [if_neg (by decide)]
      ring

/-- The effect of a transaction has the places of its amount, because only the
sign is changed. -/
@[simp] theorem scale_effect (t : Transaction) : t.effect.scale = t.amount.scale := by
  cases h : t.direction <;> simp [Transaction.effect, h, negate]

@[simp] theorem abs_toRat_effect (t : Transaction) : |t.effect.toRat| = |t.amount.toRat| := by
  cases h : t.direction <;> simp [Transaction.effect, h]

/-- Which way an amount went does not matter for what fits. -/
theorem unitsAt_effects (s : Nat) (ts : List Transaction) :
    unitsAt s (ts.map (·.effect)) = unitsAt s (ts.map (·.amount)) := by
  simp [unitsAt, Function.comp_def]

-- ---------------------------------------------------------------------------
-- Balances
-- ---------------------------------------------------------------------------

/-- A balance is exact if the amounts fit together at some scale. The scale is
left open, since a part of the amounts of a member may have fewer places. -/
theorem exists_balance (hScale : ∀ d ∈ l.amounts id, d.scale ≤ s)
    (hFits : unitsAt s (l.amounts id) < 2 ^ 96) :
    ∃ b, l.balance id = .ok b ∧ b.scale ≤ s ∧ b.toRat = l.exactBalance id := by
  have hScale' : ∀ d ∈ (l.settled id).map (·.effect), d.scale ≤ s := by
    intro d hd
    obtain ⟨t, ht, rfl⟩ := List.mem_map.mp hd
    rw [scale_effect]
    exact hScale _ (List.mem_map_of_mem ht)
  obtain ⟨b, hb, hbScale, hbValue⟩ := sum?_exact hScale' (by rwa [unitsAt_effects])
  exact ⟨b, total_eq_ok.mpr hb, hbScale, hbValue.trans (sum_effects _)⟩

/-- What an account comes to is no more than what was moved, in and out. So
balances are within the bound of their amounts. -/
theorem abs_exactBalance_le (l : Ledger) (id : String) (s : Nat) :
    |l.exactBalance id| * 10 ^ s ≤ unitsAt s (l.amounts id) := by
  have hle := abs_sum_mul_le_unitsAt s ((l.settled id).map (·.effect))
  rwa [sum_effects, unitsAt_effects] at hle

/-- The balances of several accounts are exact if all their amounts fit
together, and then the balances fit together too. This goes through the
induction over the accounts, and it is what allows to add the balances up once
more. -/
theorem exists_balances {accounts : List Account}
    (hScale : ∀ d ∈ accounts.flatMap (l.amounts ·.id), d.scale ≤ s)
    (hFits : unitsAt s (accounts.flatMap (l.amounts ·.id)) < 2 ^ 96) :
    ∃ bs, accounts.mapM (fun a => l.balance a.id) = .ok bs ∧ (∀ b ∈ bs, b.scale ≤ s) ∧
      unitsAt s bs ≤ unitsAt s (accounts.flatMap (l.amounts ·.id)) ∧
      (bs.map toRat).sum = (accounts.map (l.exactBalance ·.id)).sum := by
  induction accounts with
  | nil => exact ⟨[], rfl, by simp, le_rfl, rfl⟩
  | cons a accounts ih =>
    rw [List.flatMap_cons] at hScale hFits ⊢
    rw [unitsAt_append] at hFits ⊢
    have hFirst := unitsAt_nonneg s (l.amounts a.id)
    have hOthers := unitsAt_nonneg s (accounts.flatMap (l.amounts ·.id))
    obtain ⟨b, hb, hbScale, hbValue⟩ :=
      exists_balance (fun d hd => hScale d (List.mem_append_left _ hd)) (by linarith)
    obtain ⟨bs, hbs, hbsScale, hbsUnits, hbsValue⟩ :=
      ih (fun d hd => hScale d (List.mem_append_right _ hd)) (by linarith)
    refine ⟨b :: bs, ?_, List.forall_mem_cons.mpr ⟨hbScale, hbsScale⟩, ?_, ?_⟩
    · rw [mapM_eq_ok] at hbs ⊢
      exact .cons hb hbs
    · rw [unitsAt_cons, hbValue]
      exact add_le_add (abs_exactBalance_le l a.id s) hbsUnits
    · rw [List.map_cons, List.sum_cons, hbValue, hbsValue, List.map_cons, List.sum_cons]

-- ---------------------------------------------------------------------------
-- What counts
-- ---------------------------------------------------------------------------

/-- Whether each completed transaction of an account is entered as often in one
ledger as in another. Counting says nothing about the order, and nothing about
what does not count. -/
def SameHistory (l l' : Ledger) (id : String) : Prop :=
  ∀ t : Transaction, t.accountId = id → t.status = .completed →
    l'.transactions.count t = l.transactions.count t

/-- The same history is settled by the same transactions, in some order. -/
theorem SameHistory.perm (h : l.SameHistory l' id) : (l'.settled id).Perm (l.settled id) := by
  refine List.perm_iff_count.mpr fun t => ?_
  by_cases hCounts : (t.accountId == id && t.status == .completed) = true
  · have hBoth : t.accountId = id ∧ t.status = .completed := by simpa using hCounts
    have hAll : ∀ l : Ledger, (l.settled id).count t = l.transactions.count t := fun l => by
      rw [settled]
      exact List.count_filter hCounts
    rw [hAll, hAll]
    exact h t hBoth.1 hBoth.2
  · have hNone : ∀ l : Ledger, (l.settled id).count t = 0 := fun l =>
      List.count_eq_zero.mpr fun hMem => hCounts (List.mem_filter.mp hMem).2
    rw [hNone, hNone]

/-- The same history has the same amounts, in some order, and so it fits
together if the other one does. -/
theorem SameHistory.amounts (h : l.SameHistory l' id) : (l'.amounts id).Perm (l.amounts id) :=
  h.perm.map _

/-- The same history comes to the same, since a sum of numbers has no order. -/
theorem SameHistory.exactBalance_eq (h : l.SameHistory l' id) :
    l'.exactBalance id = l.exactBalance id := by
  have hMoved : ∀ direction, moved (l'.settled id) direction = moved (l.settled id) direction :=
    fun _ => ((h.perm.filter _).map _).sum_eq
  rw [exactBalance, hMoved, hMoved, exactBalance]

/-- The order in which transactions are entered is not part of the history. -/
theorem sameHistory_of_perm (h : l'.transactions.Perm l.transactions) (id : String) :
    l.SameHistory l' id :=
  fun t _ _ => h.count_eq t

/-- Nor is a transaction of another account, or one that is not completed. -/
theorem sameHistory_withEntry {t : Transaction} (h : t.accountId ≠ id ∨ t.status ≠ .completed) :
    l.SameHistory (l.withEntry t) id := by
  intro t' hId hStatus
  have hne : t ≠ t' := by
    rintro rfl
    exact h.elim (· hId) (· hStatus)
  rw [withEntry, List.count_append, List.count_singleton, if_neg (by simpa using hne), Nat.add_zero]

/-- In which order decimals are taken does not matter for their units. -/
theorem unitsAt_perm {ds ds' : List Decimal} (h : ds'.Perm ds) : unitsAt s ds' = unitsAt s ds :=
  (h.map _).sum_eq

-- ---------------------------------------------------------------------------
-- Exact balances
-- ---------------------------------------------------------------------------

/-- An account whose amounts fit together has its exact balance in every ledger
with the same history. The amounts are the same there, in another order at most,
and so they fit together as well. -/
theorem exists_balance_of_sameHistory (hFits : FitTogether (l.amounts id))
    (hSame : l.SameHistory l' id) : ∃ b, l'.balance id = .ok b ∧ b.toRat = l.exactBalance id := by
  have hFits' : unitsAt (largestScale (l.amounts id)) (l'.amounts id) < 2 ^ 96 := by
    rwa [unitsAt_perm hSame.amounts]
  obtain ⟨b, hb, -, hValue⟩ := exists_balance
    (fun d hd => scale_le_largestScale (hSame.amounts.mem_iff.mp hd)) hFits'
  exact ⟨b, hb, hValue.trans hSame.exactBalance_eq⟩

/-- What a member has is the sum of the exact balances in every ledger with the
same history of the member's accounts, if the amounts on all of them fit
together. The balances are sums already, and they fit because the units of
amounts that are summed up one by one never exceed those of all amounts. -/
theorem exists_memberBalance_of_sameHistory {memberId : String}
    (hFits : FitTogether ((l.accountsOf memberId).flatMap (l.amounts ·.id)))
    (hAccounts : l'.accounts = l.accounts)
    (hSame : ∀ a ∈ l.accountsOf memberId, l.SameHistory l' a.id) :
    ∃ b, l'.memberBalance memberId = .ok b ∧
      b.toRat = ((l.accountsOf memberId).map (l.exactBalance ·.id)).sum := by
  have hPerm : ((l.accountsOf memberId).flatMap (l'.amounts ·.id)).Perm
      ((l.accountsOf memberId).flatMap (l.amounts ·.id)) :=
    List.Perm.flatMap_left _ fun a ha => (hSame a ha).amounts
  have hFits' : unitsAt (largestScale ((l.accountsOf memberId).flatMap (l.amounts ·.id)))
      ((l.accountsOf memberId).flatMap (l'.amounts ·.id)) < 2 ^ 96 := by
    rwa [unitsAt_perm hPerm]
  obtain ⟨bs, hbs, hbsScale, hbsUnits, hbsValue⟩ := exists_balances
    (fun d hd => scale_le_largestScale (hPerm.mem_iff.mp hd)) hFits'
  obtain ⟨b, hb, -, hValue⟩ := sum?_exact hbsScale (hbsUnits.trans_lt hFits')
  refine ⟨b, ?_, ?_⟩
  · rw [memberBalance, bind_eq_ok, accountsOf, hAccounts]
    exact ⟨bs, hbs, total_eq_ok.mpr hb⟩
  · rw [hValue, hbsValue]
    exact congrArg List.sum (List.map_congr_left fun a ha => (hSame a ha).exactBalance_eq)

/-- An account whose amounts fit together has the balance that its completed
transactions come to, and so it has in every ledger with the same history of
it. What a member has is the same of all active accounts together, if the
amounts on all of them fit together; an account that is there twice counts
twice for both. -/
theorem exact_balances :
    (∀ (l : Ledger) (id : String), FitTogether (l.amounts id) →
      ∃ b, l.balance id = .ok b ∧ b.toRat = l.exactBalance id ∧
        ∀ l', l.SameHistory l' id → ∃ b', l'.balance id = .ok b' ∧ b'.toRat = b.toRat) ∧
    ∀ (l : Ledger) (memberId : String),
      FitTogether ((l.accountsOf memberId).flatMap (l.amounts ·.id)) →
      ∃ b, l.memberBalance memberId = .ok b ∧
        b.toRat = ((l.accountsOf memberId).map (l.exactBalance ·.id)).sum ∧
        ∀ l', l'.accounts = l.accounts →
          (∀ a ∈ l.accountsOf memberId, l.SameHistory l' a.id) →
          ∃ b', l'.memberBalance memberId = .ok b' ∧ b'.toRat = b.toRat := by
  constructor
  · intro l id hFits
    obtain ⟨b, hb, hValue⟩ := exists_balance_of_sameHistory hFits fun _ _ _ => rfl
    refine ⟨b, hb, hValue, fun l' hSame => ?_⟩
    rw [hValue]
    exact exists_balance_of_sameHistory hFits hSame
  · intro l memberId hFits
    obtain ⟨b, hb, hValue⟩ :=
      exists_memberBalance_of_sameHistory hFits rfl fun _ _ _ _ _ => rfl
    refine ⟨b, hb, hValue, fun l' hAccounts hSame => ?_⟩
    rw [hValue]
    exact exists_memberBalance_of_sameHistory hFits hAccounts hSame

/-- A payment on an account. -/
def payment (direction : Direction) (accountId amount : String) (status : Status) : Transaction :=
  { id := "", direction, amount := (Decimal.read amount.toList).getD .zero, accountId,
    description := "", status, createdAt := Routes.nextDay.stamp.time }

/-- An account that is called by its id. -/
def jarAccount (id ownerId : String) (isActive : Bool) : Account :=
  { id, name := id, kind := .spending, ownerId, currency := "", isActive }

/-- Pat has a jar with payments of three scales and one that is pending, a box
with one that has failed, and a tin that is no longer used. The purse is kim's,
so that neither it nor the tin counts for pat. -/
def jarLedger : Ledger where
  accounts := [jarAccount "jar" "pat" true, jarAccount "purse" "kim" true,
    jarAccount "tin" "pat" false, jarAccount "box" "pat" true]
  transactions := [payment .credit "jar" "0.001" .completed,
    payment .credit "tin" "40" .completed, payment .credit "box" "2.25" .completed,
    payment .credit "jar" "10.5" .completed, payment .credit "purse" "7" .completed,
    payment .credit "jar" "99" .pending, payment .debit "box" "1.5" .completed,
    payment .debit "box" "0.3" .failed, payment .debit "jar" "0.25" .completed]

/-- The same payments the other way round, and one more on the account that is
kim's. -/
def jarBackwards : Ledger :=
  { jarLedger with transactions := jarLedger.transactions.reverse }.withEntry
    (payment .credit "purse" "1" .completed)

/-- The jar alone comes to 10.251, and pat has 11.001 with the box. Backwards it
is the same, and what kim is paid changes neither. -/
theorem jar_exact_backwards : FitTogether (jarLedger.amounts "jar") ∧
    FitTogether ((jarLedger.accountsOf "pat").flatMap (jarLedger.amounts ·.id)) ∧
    (∃ b, jarBackwards.balance "jar" = .ok b ∧ b.toRat = 10251 / 1000) ∧
      ∃ b, jarBackwards.memberBalance "pat" = .ok b ∧ b.toRat = 11001 / 1000 := by
  have hFits : FitTogether (jarLedger.amounts "jar") := by decide +kernel
  have hFits' : FitTogether ((jarLedger.accountsOf "pat").flatMap (jarLedger.amounts ·.id)) := by
    decide +kernel
  have hValue : jarLedger.exactBalance "jar" = 10251 / 1000 := by decide +kernel
  have hValue' : ((jarLedger.accountsOf "pat").map (jarLedger.exactBalance ·.id)).sum =
      11001 / 1000 := by decide +kernel
  have hSame : ∀ id, "purse" ≠ id → jarLedger.SameHistory jarBackwards id :=
    fun id hOther t hId hStatus => (sameHistory_withEntry (.inl hOther) t hId hStatus).trans
      (sameHistory_of_perm (List.reverse_perm _) id t hId hStatus)
  obtain ⟨hAccount, hMember⟩ := exact_balances
  obtain ⟨b, -, hb, hOthers⟩ := hAccount jarLedger "jar" hFits
  obtain ⟨b', -, hb', hOthers'⟩ := hMember jarLedger "pat" hFits'
  refine ⟨hFits, hFits', ?_, ?_⟩
  · obtain ⟨b₁, hb₁, hSum⟩ := hOthers jarBackwards (hSame "jar" (by decide))
    exact ⟨b₁, hb₁, hSum.trans (hb.trans hValue)⟩
  · have hAll : ∀ a ∈ jarLedger.accountsOf "pat", jarLedger.SameHistory jarBackwards a.id := by
      intro a ha
      have hNotPurse : ∀ a ∈ jarLedger.accountsOf "pat", "purse" ≠ a.id := by decide
      exact hSame a.id (hNotPurse a ha)
    obtain ⟨b₁, hb₁, hSum⟩ := hOthers' jarBackwards rfl hAll
    exact ⟨b₁, hb₁, hSum.trans (hb'.trans hValue')⟩

end Ledger

end HomeLedger
