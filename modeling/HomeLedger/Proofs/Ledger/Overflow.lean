import HomeLedger.Proofs.Decimal.Overflow
import HomeLedger.Proofs.Formatting.Amount
import HomeLedger.Proofs.Ledger.Request
import HomeLedger.Proofs.Ledger.Solvency
import HomeLedger.Proofs.Outcome
import HomeLedger.Shell.Prompt

/-!
# HomeLedger — where sums overflow

A fault leaves a line without an answer. `Booking.Breaks` says what leads to
one, with a rule for each step of a booking, as `Booking.Ends` does for the
endings that are answered.

Most handlers take no sums, and those that do take sums that are known to be
there in a solvent ledger. Two remain. A payment into an account is entered
before the new balance is looked at, and the balance of a member is a sum of
balances that has not been taken before. Both do overflow: the amount that a
line names has no other bound than that of all amounts.

Main results:

* `standard_fault_iff` — which lines have no answer on a solvent ledger.
* `standard_answers_of_paidIn` — as long as less than `2 ^ 96` whole units
  have been paid in, every line has one.
* `fault_iff_of_sample` — which lines have none after any run from the
  ledger to begin with.
-/

namespace HomeLedger

-- ---------------------------------------------------------------------------
-- Bookings that break
-- ---------------------------------------------------------------------------

namespace Booking

variable {α β : Type} {l : Ledger} {fault : Fault} {next : α → Ledger → Prop}

/-- A booking on `l` ends with a fault, or has a result that satisfies `next`
with the ledger then. A refusal is an answer, and so it does not count. -/
def Breaks (b : Booking α) (l : Ledger) (fault : Fault) (next : α → Ledger → Prop) : Prop :=
  match b.run l with
  | .ok a l' => next a l'
  | .error (.refused _) _ => False
  | .error (.broken f) _ => f = fault

@[simp] theorem breaks_pure {a : α} : (pure a : Booking α).Breaks l fault next ↔ next a l := Iff.rfl

@[simp] theorem breaks_get {next : Ledger → Ledger → Prop} :
    (get : Booking Ledger).Breaks l fault next ↔ next l l := Iff.rfl

@[simp] theorem breaks_modify {change : Ledger → Ledger} {next : Unit → Ledger → Prop} :
    (modify change : Booking Unit).Breaks l fault next ↔ next () (change l) := Iff.rfl

@[simp] theorem breaks_refuse {why : Refusal} :
    (refuse why : Booking α).Breaks l fault next ↔ False := Iff.rfl

/-- A booking of two steps breaks in the first, or in the second on what the
first has left. All rules here are equivalences, as it is to be said exactly
what breaks. -/
@[simp] theorem breaks_bind {b : Booking β} {rest : β → Booking α} :
    (b >>= rest).Breaks l fault next ↔
      b.Breaks l fault fun a l' => (rest a).Breaks l' fault next := by
  show (match EStateM.bind b rest l with
    | .ok a l' => next a l'
    | .error (.refused _) _ => False
    | .error (.broken f) _ => f = fault) ↔ _
  unfold EStateM.bind Breaks EStateM.run
  cases b l with
  | ok a l' => rfl
  | error stop l' => cases stop <;> rfl

@[simp] theorem breaks_map {b : Booking β} {f : β → α} :
    (f <$> b).Breaks l fault next ↔ b.Breaks l fault fun a l' => next (f a) l' := by
  rw [map_eq_pure_bind, breaks_bind]
  simp only [breaks_pure]

/-- A lookup does not break. If it finds nothing, that is a refusal. -/
@[simp] theorem breaks_found {why : Refusal} {o : Option α} :
    (found why o).Breaks l fault next ↔ ∃ a, o = some a ∧ next a l := by
  cases o with
  | none => simp [found]
  | some a => simp [found]

@[simp] theorem breaks_allowed {e : Except Refusal α} :
    (allowed e).Breaks l fault next ↔ ∃ a, e = .ok a ∧ next a l := by
  cases e with
  | error why => simp [allowed]
  | ok a => simp [allowed]

@[simp] theorem breaks_sound {e : Except Fault α} :
    (sound e).Breaks l fault next ↔ e = .error fault ∨ ∃ a, e = .ok a ∧ next a l := by
  cases e with
  | error f =>
    simp only [reduceCtorEq, false_and, exists_false, or_false, Except.error.injEq]
    rfl
  | ok a => simp [sound]

@[simp] theorem breaks_ite {c : Prop} [Decidable c] {b b' : Booking α} :
    (if c then b else b').Breaks l fault next ↔
      (c ∧ b.Breaks l fault next) ∨ (¬c ∧ b'.Breaks l fault next) := by
  by_cases hc : c <;> simp [hc]

end Booking

/-- The balances of a member's accounts are there, because every account of a
solvent ledger has one. -/
theorem Ledger.Solvent.exists_balances {l : Ledger} (h : l.Solvent) (id : String) :
    ∃ bs, (l.accountsOf id).mapM (fun a => l.balance a.id) = Except.ok bs :=
  exists_mapM_eq_ok fun _ ha => (h.balance_nonneg (List.mem_of_mem_filter ha)).imp fun _ hb => hb.1

namespace Handler

open Booking Ledger

-- ---------------------------------------------------------------------------
-- Handlers that answer
-- ---------------------------------------------------------------------------

/-- A handler that answers every command on a solvent ledger. Under the default
formatting no fault comes from showing an amount, so only sums are left. -/
def Answers (h : Handler) : Prop :=
  ∀ (s : Setting) (c : Command) (l : Ledger) (fault : Fault), s.formatting = {} → l.Solvent →
    ¬(h s c).Breaks l fault fun _ _ => False

theorem answers_accountNew : Answers accountNew := by
  intro s c l fault _ _
  simp [accountNew, openAccount]

theorem answers_accountSelect : Answers accountSelect := by
  intro s c l fault _ _
  simp [accountSelect, selectAccount]

theorem answers_listList : Answers listList := by
  intro s c l fault _ _
  simp only [listList, breaks_bind, breaks_get]
  split <;> simp

theorem answers_listShow : Answers listShow := by
  intro s c l fault _ _
  simp [listShow]

theorem answers_listCreate : Answers listCreate := by
  intro s c l fault _ _
  simp [listCreate, createList]

theorem answers_itemAdd : Answers itemAdd := by
  intro s c l fault _ _
  simp [itemAdd, addItem, changeList]

theorem answers_itemComplete : Answers itemComplete := by
  intro s c l fault _ _
  simp [itemComplete, completeItem, changeItem, changeList]

theorem answers_itemDue : Answers itemDue := by
  intro s c l fault _ _
  simp [itemDue, setItemDue, changeItem, changeList]

theorem answers_itemOccurs : Answers itemOccurs := by
  intro s c l fault _ _
  simp [itemOccurs, setItemSchedule, changeItem, changeList]

/-- Showing a list takes no sums, but it shows dates and texts, and these can
always be shown. -/
theorem answers_itemList : Answers itemList := by
  intro s c l fault _ _
  simp only [itemList, breaks_bind, breaks_get, breaks_allowed, not_exists, not_and]
  intro i _
  split <;> simp

theorem answers_memberList : Answers memberList := by
  intro s c l fault _ _
  simp only [memberList, breaks_bind, breaks_get]
  split <;> simp

theorem answers_memberSelect : Answers memberSelect := by
  intro s c l fault _ _
  simp [memberSelect, selectMember]

/-- There is a display of every amount. -/
theorem exists_currency {f : Formatting} (hf : f = {}) (d : Decimal) :
    ∃ shown, f.currency d = .ok shown :=
  hf ▸ ⟨_, Formatting.currency_default d⟩

theorem answers_accountBalance : Answers accountBalance := by
  intro s c l fault hf hl
  simp only [accountBalance, breaks_bind, breaks_get, breaks_allowed, not_exists, not_and]
  intro a ha
  obtain ⟨b, hb, -⟩ := hl.balance_nonneg (mem_of_resolveAccount ha)
  obtain ⟨shown, hShown⟩ := exists_currency hf b
  simp [hb, hShown]

/-- There is a balance of every account, and it can be told. This is what the
next two handlers do for each account. -/
theorem exists_told {α : Type} {f : Formatting} (hf : f = {}) {l : Ledger} (hl : l.Solvent)
    {a : Account} (ha : a ∈ l.accounts) (tell : Decimal → String → α) :
    ∃ told, (do
      let balance ← l.balance a.id
      let shown ← f.currency balance
      return tell balance shown) = Except.ok told := by
  obtain ⟨b, hb, -⟩ := hl.balance_nonneg ha
  obtain ⟨shown, hShown⟩ := exists_currency hf b
  exact ⟨tell b shown, bind_eq_ok.mpr ⟨b, hb, bind_eq_ok.mpr ⟨shown, hShown, rfl⟩⟩⟩

theorem answers_accountList : Answers accountList := by
  intro s c l fault hf hl
  simp only [accountList, breaks_bind, breaks_get]
  split
  · simp
  · have hTold : ∃ rows, (l.accounts.filter (·.isActive)).mapM (accountRow s.formatting l) =
        .ok rows :=
      exists_mapM_eq_ok fun a ha => exists_told hf hl (List.mem_of_mem_filter ha) _
    obtain ⟨rows, hRows⟩ := hTold
    simp [hRows]

theorem answers_memberShow : Answers memberShow := by
  intro s c l fault hf hl
  simp only [memberShow, breaks_bind, breaks_get, breaks_allowed, not_exists, not_and]
  intro m _
  have hTold : ∃ lines, (l.accountsOf m.id).mapM (fun a => do
      let balance ← l.balance a.id
      let shown ← s.formatting.currency balance
      return s!"  {a.name}: {shown}") = Except.ok lines :=
    exists_mapM_eq_ok fun a ha => exists_told hf hl (List.mem_of_mem_filter ha) _
  obtain ⟨lines, hLines⟩ := hTold
  simp only [breaks_sound, hLines, breaks_pure, reduceCtorEq, false_or, and_false, exists_false,
    not_false_iff]

-- ---------------------------------------------------------------------------
-- Handlers that sum up
-- ---------------------------------------------------------------------------

/-- A payment on an account overflows where its balance does not take it,
because a balance with one more entry is one more sum. -/
theorem balance_withEntry_eq_error {l : Ledger} {t : Transaction} {id : String} {old : Decimal}
    {fault : Fault} (ht : t.accountId = id) (hs : t.status = .completed)
    (hOld : l.balance id = .ok old) : (l.withEntry t).balance id = .error fault ↔
      fault = .sumOverflow ∧ old.add? t.effect = none := by
  have hSettled : (l.withEntry t).settled id = l.settled id ++ [t] := by
    simp [settled, withEntry, ht, hs]
  rw [balance, total_eq_ok] at hOld
  rw [balance, hSettled, List.map_append, List.map_singleton, total,
    Decimal.sum?_append_singleton, hOld, Option.bind_some]
  cases old.add? t.effect with
  | none => simp [eq_comm]
  | some new => simp

/-- A balance has room for less than half a unit below `2 ^ 96`. This is where
the exact condition of overflow is found. -/
theorem balance_credit_eq_error {l : Ledger} {stamp : Stamp} {id note : String}
    {amount old : Decimal} {fault : Fault} (hPos : amount.isPositive = true)
    (hOld : l.balance id = .ok old) (hNonneg : 0 ≤ old.toRat) :
    (l.withEntry (entry stamp .credit id amount note)).balance id = .error fault ↔
      fault = .sumOverflow ∧ 2 ^ 97 - 1 ≤ 2 * (old.toRat + amount.toRat) := by
  have hAmount : 0 < amount.toRat := (Decimal.isPositive_iff_toRat amount).mp hPos
  have hEntry : (l.withEntry (entry stamp .credit id amount note)).balance id = .error fault ↔
      fault = .sumOverflow ∧ old.add? amount = none :=
    balance_withEntry_eq_error rfl rfl hOld
  rw [hEntry, Decimal.add?_eq_none_iff, abs_of_nonneg (add_nonneg hNonneg hAmount.le)]

/-- The amount that a command pays. -/
def paidAmount? (c : Command) : Option Decimal := (c.firstOf? .amount).bind (·.decimal?)

/-- The account that a command pays into or out of, if it names one. -/
def paidAccount? (c : Command) : Option String :=
  c.namedText? "account" <|> (c.firstOf? .account).bind (·.text?)

/-- A command pays in more than its account has room for: the exact sum is half
a unit below `2 ^ 96`, or beyond. It is asked of the exact numbers, whatever
their scales. -/
def Overpays (l : Ledger) (c : Command) : Prop :=
  ∃ amount a b, paidAmount? c = some amount ∧ amount.isPositive = true ∧
    l.resolveAccount (paidAccount? c) = .ok a ∧ l.balance a.id = .ok b ∧
    2 ^ 97 - 1 ≤ 2 * (b.toRat + amount.toRat)

/-- A command asks for what a member has, and there is no such sum. -/
def Overcounts (l : Ledger) (c : Command) : Prop :=
  ∃ m, askedMember l c .noMemberNamed = .ok m ∧ l.memberBalance m.id = .error .sumOverflow

/-- A credit does not look at the balance, so it never breaks by itself. What
comes after it may. -/
theorem breaks_credit {stamp : Stamp} {accountId note : String} {amount : Decimal} {l : Ledger}
    {fault : Fault} {next : Transaction → Ledger → Prop} :
    (credit stamp accountId amount note).Breaks l fault next ↔ amount.isPositive = true ∧
      next (entry stamp .credit accountId amount note)
        (l.withEntry (entry stamp .credit accountId amount note)) := by
  unfold credit post
  simp only [breaks_bind, breaks_ite, breaks_refuse, breaks_modify, breaks_pure]
  simp [entry, withEntry]

/-- A debit looks at the balance, and breaks only if there is none. -/
theorem breaks_debit {stamp : Stamp} {accountId note : String} {amount : Decimal} {l : Ledger}
    {fault : Fault} {next : Transaction → Ledger → Prop} :
    (debit stamp accountId amount note).Breaks l fault next ↔ amount.isPositive = true ∧
      ∃ a, l.accountOfId? accountId = some a ∧ a.kind.canDebit = true ∧
        (l.balance accountId = .error fault ∨
          ∃ b, l.balance accountId = .ok b ∧ b.lt amount = false ∧
            next (entry stamp .debit accountId amount note)
              (l.withEntry (entry stamp .debit accountId amount note))) := by
  unfold debit post
  simp only [breaks_bind, breaks_get, breaks_found, breaks_sound, breaks_ite, breaks_refuse,
    breaks_modify, breaks_pure]
  simp [entry, withEntry]

/-- Paying in breaks where the account has no room, and nowhere else. The
payment has been entered by then. -/
theorem breaks_moveMoney_credit {s : Setting} {c : Command} {l : Ledger} {fault : Fault}
    (hf : s.formatting = {}) (hl : l.Solvent) :
    ((moveMoney .credit s c).Breaks l fault fun _ _ => False) ↔
      fault = .sumOverflow ∧ Overpays l c := by
  simp only [moveMoney, breaks_bind, breaks_get, breaks_found, breaks_allowed, breaks_credit,
    breaks_sound, breaks_pure, and_false, exists_false, or_false]
  have hShown : ∀ d, s.formatting.currency d ≠ .error fault := by
    intro d
    obtain ⟨shown, hShown⟩ := exists_currency hf d
    simp [hShown]
  simp only [hShown, and_false, exists_false, or_false]
  constructor
  · rintro ⟨amount, hAmount, a, ha, hPos, hBalance⟩
    obtain ⟨b, hb, hNonneg⟩ := hl.balance_nonneg (mem_of_resolveAccount ha)
    obtain ⟨hFault, hSum⟩ := (balance_credit_eq_error hPos hb hNonneg).mp hBalance
    exact ⟨hFault, amount, a, b, hAmount, hPos, ha, hb, hSum⟩
  · rintro ⟨hFault, amount, a, b, hAmount, hPos, ha, hb, hSum⟩
    obtain ⟨b', hb', hNonneg⟩ := hl.balance_nonneg (mem_of_resolveAccount ha)
    obtain rfl : b' = b := Except.ok.inj (hb'.symm.trans hb)
    refine ⟨amount, hAmount, a, ha, hPos, ?_⟩
    exact (balance_credit_eq_error hPos hb hNonneg).mpr ⟨hFault, hSum⟩

/-- What is paid out is covered, so that the new balance is there: it is less
than the old one and not negative. -/
theorem answers_moveMoney_debit : Answers (moveMoney .debit) := by
  intro s c l fault hf hl
  simp only [moveMoney, breaks_bind, breaks_get, breaks_found, breaks_allowed, breaks_debit,
    breaks_sound, breaks_pure, and_false, exists_false, or_false]
  rintro ⟨amount, -, a, ha, hPos, -, -, -, hBroken⟩
  obtain ⟨b, hb, hNonneg⟩ := hl.balance_nonneg (mem_of_resolveAccount ha)
  rcases hBroken with hOld | ⟨b', hb', hFunds, hNew | ⟨_, -, hShown⟩⟩
  · simp [hb] at hOld
  · obtain rfl : b = b' := Except.ok.inj (hb.symm.trans hb')
    obtain ⟨-, hSum⟩ := (balance_withEntry_eq_error rfl rfl hb).mp hNew
    have hAmountPos := (Decimal.isPositive_iff_toRat amount).mp hPos
    -- the money is there, so the new balance lies between zero and the old one
    have hle : amount.toRat ≤ b.toRat := by
      rw [← not_lt, ← Decimal.lt_iff, hFunds]
      simp
    have hLimit := (le_abs_self b.toRat).trans (Decimal.abs_toRat_le b)
    rw [Decimal.add?_eq_none_iff] at hSum
    have hEffect : (entry s.stamp .debit a.id amount
        ((c.namedText? "note").getD "")).effect.toRat = -amount.toRat := Decimal.toRat_negate amount
    rw [hEffect, abs_of_nonneg (by linarith)] at hSum
    linarith
  · obtain ⟨shown, hOk⟩ := exists_currency hf amount
    simp [hOk] at hShown

/-- What a member has can only be missing for its size, since all balances are
there. -/
theorem memberBalance_eq_error {l : Ledger} (hl : l.Solvent) {id : String} {fault : Fault}
    (h : l.memberBalance id = .error fault) : fault = .sumOverflow := by
  obtain ⟨bs, hbs⟩ := hl.exists_balances id
  rw [Ledger.memberBalance, hbs] at h
  change total bs = _ at h
  unfold total at h
  split at h
  · simp at h
  · exact (Except.error.inj h).symm

/-- Telling what a member has breaks where there is no such sum, and nowhere
else. The member has been found by then. -/
theorem breaks_memberBalance {s : Setting} {c : Command} {l : Ledger} {fault : Fault}
    (hf : s.formatting = {}) (hl : l.Solvent) :
    ((Handler.memberBalance s c).Breaks l fault fun _ _ => False) ↔
      fault = .sumOverflow ∧ Overcounts l c := by
  simp only [Handler.memberBalance, breaks_bind, breaks_get, breaks_allowed, breaks_sound,
    breaks_pure, and_false, exists_false, or_false]
  constructor
  · rintro ⟨m, hm, hTotal | ⟨d, -, hShown⟩⟩
    · obtain rfl := memberBalance_eq_error hl hTotal
      exact ⟨rfl, m, hm, hTotal⟩
    · obtain ⟨shown, hOk⟩ := exists_currency hf d
      simp [hOk] at hShown
  · rintro ⟨rfl, m, hm, hTotal⟩
    exact ⟨m, hm, Or.inl hTotal⟩

end Handler

-- ---------------------------------------------------------------------------
-- Commands and lines
-- ---------------------------------------------------------------------------

namespace Routes

open Booking Handler Ledger

variable {s : Setting} {l l' : Ledger} {fault : Fault}

/-- A command whose sums overflow: one that pays in too much, or asks for a
member's balance that is too large. -/
def Overflows (l : Ledger) (c : Command) : Prop :=
  (c.subject = .account ∧ c.action = .credit ∧ Overpays l c) ∨
    (c.subject = .member ∧ c.action = .balance ∧ Overcounts l c)

/-- A command has no answer if its handler breaks. Where there is no handler
there is an answer. -/
theorem execute_eq_error {routes : Routes} {c : Command} :
    routes.execute s c l = .error fault ↔
      ∃ handler, routes c.subject c.action = some handler ∧
        (handler s c).Breaks l fault fun _ _ => False := by
  unfold execute
  cases routes c.subject c.action with
  | none => simp
  | some handler =>
    simp only [Option.some.injEq, exists_eq_left', Breaks]
    cases (handler s c).run l with
    | ok r l' => simp
    | error stop l' => cases stop <;> simp

/-- Every handler of the household but two answers every command. The table of
handlers is gone through once. -/
theorem answers_of_standard {subject : Subject} {action : Action} {handler : Handler}
    (h : standard subject action = some handler) (hCredit : (subject, action) ≠ (.account, .credit))
    (hBalance : (subject, action) ≠ (.member, .balance)) : Answers handler := by
  unfold standard at h
  -- one case for each route; the two that are left out are the ones that can overflow
  split at h <;> cases h
  · exact answers_accountBalance
  · exact absurd rfl hCredit
  · exact answers_moveMoney_debit
  · exact answers_accountNew
  · exact answers_accountSelect
  · exact answers_accountList
  · exact answers_listList
  · exact answers_listShow
  · exact answers_listCreate
  · exact answers_listCreate
  · exact answers_itemAdd
  · exact answers_memberList
  · exact answers_memberShow
  · exact answers_memberSelect
  · exact absurd rfl hBalance
  · exact answers_itemAdd
  · exact answers_itemComplete
  · exact answers_itemDue
  · exact answers_itemOccurs
  · exact answers_itemList

/-- A command of the household has no answer if its sums overflow, and there is
no other fault. -/
theorem execute_fault_iff {c : Command} (hf : s.formatting = {}) (hl : l.Solvent) :
    standard.execute s c l = .error fault ↔ fault = .sumOverflow ∧ Overflows l c := by
  rw [execute_eq_error]
  by_cases hCredit : (c.subject, c.action) = (.account, .credit)
  · obtain ⟨hSubject, hAction⟩ := Prod.mk.inj hCredit
    simp only [hSubject, hAction, standard, Overflows, Option.some.injEq, exists_eq_left',
      reduceCtorEq, false_and, or_false, true_and]
    exact breaks_moveMoney_credit hf hl
  · by_cases hBalance : (c.subject, c.action) = (.member, .balance)
    · obtain ⟨hSubject, hAction⟩ := Prod.mk.inj hBalance
      simp only [hSubject, hAction, standard, Overflows, Option.some.injEq, exists_eq_left',
        reduceCtorEq, false_and, false_or, true_and]
      exact breaks_memberBalance hf hl
    · constructor
      · rintro ⟨handler, hRoute, hBreaks⟩
        exact absurd hBreaks (answers_of_standard hRoute hCredit hBalance s c l fault hf hl)
      · rintro ⟨-, ⟨hSubject, hAction, -⟩ | ⟨hSubject, hAction, -⟩⟩
        · exact absurd (Prod.ext hSubject hAction) hCredit
        · exact absurd (Prod.ext hSubject hAction) hBalance

/-- A line has no answer if it is read as a command without problems and the
sums of that overflow. -/
theorem standard_fault_iff {line : String} (hf : s.formatting = {}) (hl : l.Solvent) :
    standard.submit s line l = .error fault ↔ fault = .sumOverflow ∧
      ∃ c, Command.read s.formatting s.today line = .ok c ∧ c.problems = [] ∧ Overflows l c := by
  unfold submit
  cases Command.read s.formatting s.today line with
  | error problem => simp
  | ok c =>
    by_cases hProblems : c.problems = []
    · simp [hProblems, execute_fault_iff hf hl]
    · simp [hProblems]

-- ---------------------------------------------------------------------------
-- What has been paid in
-- ---------------------------------------------------------------------------

end Routes

namespace Ledger

variable {l : Ledger}

/-- What has been paid in, on all accounts, in whole units; what was paid out is
not taken off. It bounds every sum that is ever taken, because units are rounded
up. -/
def paidIn (l : Ledger) : Nat := (l.transactions.map (·.effect.units)).sum

/-- A balance is bounded by what has been paid in on its account. -/
theorem units_balance_le {id : String} {b : Decimal} (h : l.balance id = .ok b) :
    b.units ≤ ((l.settled id).map (·.effect.units)).sum := by
  rw [balance, total_eq_ok] at h
  have hle := Decimal.sum?_le_units h
  rw [List.map_map] at hle
  exact Nat.ceil_le.mpr hle

theorem units_balance_le_paidIn {id : String} {b : Decimal} (h : l.balance id = .ok b) :
    b.units ≤ l.paidIn :=
  (units_balance_le h).trans ((List.filter_sublist.map _).sum_le_sum fun _ _ => Nat.zero_le _)

/-- A transaction counts for one of several accounts at most, as their ids are
distinct. -/
theorem sum_counted_le {accounts : List Account} (h : (accounts.map (·.id)).Nodup)
    (t : Transaction) (n : Nat) :
    (accounts.map fun a => if t.accountId = a.id then n else 0).sum ≤ n := by
  induction accounts with
  | nil => simp
  | cons a accounts ih =>
    obtain ⟨hNotin, hNodup⟩ := List.nodup_cons.mp h
    rw [List.map_cons, List.sum_cons]
    split
    · next hId =>
      have hOthers : ∀ a' ∈ accounts, (if t.accountId = a'.id then n else 0) = 0 := by
        intro a' ha'
        refine if_neg fun hId' => hNotin ?_
        exact List.mem_map.mpr ⟨a', ha', hId'.symm.trans hId⟩
      rw [List.map_congr_left hOthers]
      simp
    · rw [Nat.zero_add]
      exact ih hNodup

/-- Several accounts together have no more paid in than all. Summing by accounts
counts no transaction twice. -/
theorem sum_settled_le {accounts : List Account} (h : (accounts.map (·.id)).Nodup) :
    (accounts.map fun a => ((l.settled a.id).map (·.effect.units)).sum).sum ≤ l.paidIn := by
  unfold settled paidIn
  induction l.transactions with
  | nil => simp
  | cons t transactions ih =>
    -- the first transaction counts for one account, if it is completed
    have hFirst : ∀ a : Account, (((t :: transactions).filter fun t =>
        t.accountId == a.id && t.status == .completed).map (·.effect.units)).sum =
          (if t.accountId = a.id then
            (if t.status = .completed then t.effect.units else 0) else 0) +
            ((transactions.filter fun t =>
              t.accountId == a.id && t.status == .completed).map (·.effect.units)).sum := by
      intro a
      rw [List.filter_cons]
      by_cases hId : t.accountId = a.id <;> by_cases hs : t.status = .completed <;> simp [hId, hs]
    have hCompleted : (if t.status = .completed then t.effect.units else 0) ≤ t.effect.units := by
      split <;> omega
    simp only [hFirst, List.sum_map_add]
    rw [List.map_cons, List.sum_cons]
    exact Nat.add_le_add ((sum_counted_le h t _).trans hCompleted) ih

/-- What a member has is there, as long as less than `2 ^ 96` has been paid in.
The balances of the accounts are bounded together. -/
theorem Solvent.exists_memberBalance (h : l.Solvent) (hPaid : l.paidIn < 2 ^ 96) (id : String) :
    ∃ b, l.memberBalance id = .ok b := by
  obtain ⟨bs, hbs⟩ := h.exists_balances id
  have hNonneg : ∀ b ∈ bs, 0 ≤ b.toRat := by
    intro b hb
    obtain ⟨a, ha, hBalance⟩ := exists_of_mapM_eq_ok hbs hb
    obtain ⟨b', hb', hle⟩ := h.balance_nonneg (List.mem_of_mem_filter ha)
    rwa [Except.ok.inj (hBalance.symm.trans hb')]
  have hUnits : (bs.map Decimal.units).sum ≤
      ((l.accountsOf id).map fun a => ((l.settled a.id).map (·.effect.units)).sum).sum := by
    refine List.Forall₂.sum_le_sum ?_
    refine List.forall₂_map_right_iff.mpr (List.forall₂_map_left_iff.mpr ?_)
    exact ((mapM_eq_ok.mp hbs).flip).imp fun b a hb => units_balance_le hb
  have hDistinct : ((l.accountsOf id).map (·.id)).Nodup :=
    h.distinct.sublist (List.filter_sublist.map _)
  obtain ⟨b, hb, -⟩ := Decimal.sum?_of_units_lt hNonneg
    ((hUnits.trans (sum_settled_le hDistinct)).trans_lt hPaid)
  exact ⟨b, bind_eq_ok.mpr ⟨bs, hbs, total_eq_ok.mpr hb⟩⟩

end Ledger

namespace Routes

open Handler Ledger

variable {s : Setting} {l l' : Ledger} {fault : Fault}

/-- A command's sums do not overflow, if less than `2 ^ 96` has been paid in,
what the command pays included. -/
theorem not_overflows_of_paidIn {c : Command} (hl : l.Solvent)
    (hPaid : l.paidIn + ((paidAmount? c).map Decimal.units).getD 0 < 2 ^ 96) :
    ¬Overflows l c := by
  rintro (⟨-, -, amount, a, b, hAmount, -, ha, hb, hSum⟩ | ⟨-, -, m, -, hTotal⟩)
  · have hbUnits := units_balance_le_paidIn hb
    rw [hAmount, Option.map_some, Option.getD_some] at hPaid
    have hUnits : ((b.units + amount.units + 1 : Nat) : ℚ) ≤ ((2 ^ 96 : Nat) : ℚ) :=
      Nat.cast_le.mpr (by omega)
    push_cast at hUnits
    have hbRat := b.toRat_le_units
    have hAmountRat := amount.toRat_le_units
    linarith
  · obtain ⟨b, hb⟩ := hl.exists_memberBalance (by omega) m.id
    simp [hb] at hTotal

/-- Every line has an answer, if less than `2 ^ 96` whole units have been paid
in, what the line pays included. -/
theorem standard_answers_of_paidIn {line : String} (hf : s.formatting = {}) (hl : l.Solvent)
    (hPaid : ∀ c, Command.read s.formatting s.today line = .ok c →
      l.paidIn + ((paidAmount? c).map Decimal.units).getD 0 < 2 ^ 96) :
    ∃ r l', standard.submit s line l = .ok (r, l') := by
  cases hSubmit : standard.submit s line l with
  | error fault =>
    obtain ⟨-, c, hRead, -, hOverflows⟩ := (standard_fault_iff hf hl).mp hSubmit
    exact absurd hOverflows (not_overflows_of_paidIn hl (hPaid c hRead))
  | ok answer => exact ⟨answer.1, answer.2, rfl⟩

-- ---------------------------------------------------------------------------
-- The ledger to begin with
-- ---------------------------------------------------------------------------

/-- The ledger to begin with is solvent, if its ids are distinct. Were two of
them the same, an account would be credited with what is another's. -/
theorem sample_solvent {ids : Nat → String} (h : ((List.range sampleIds).map ids).Nodup)
    (now : Instant) : (sample ids now).Solvent := by
  have hAccounts : ([2, 3, 4].map ids).Nodup :=
    h.sublist ((show [2, 3, 4].Sublist (List.range sampleIds) by decide).map ids)
  have hne := hAccounts
  simp only [List.map_cons, List.map_nil, List.nodup_cons, List.mem_cons, List.not_mem_nil,
    or_false, not_or, not_false_iff, List.nodup_nil, and_true] at hne
  obtain ⟨⟨h23, h24⟩, h34⟩ := hne
  refine ⟨hAccounts, ?_⟩
  intro a ha
  simp only [sample, List.mem_cons, List.not_mem_nil, or_false] at ha
  -- each account has one transaction, which is its balance
  rcases ha with rfl | rfl | rfl
  · refine ⟨hundredths 250000, ?_, by decide⟩
    simp [balance, settled, sample, Ne.symm h23, Ne.symm h24, Transaction.effect]
    rfl
  · refine ⟨hundredths 12550, ?_, by decide⟩
    simp [balance, settled, sample, h23, Ne.symm h34, Transaction.effect]
    rfl
  · refine ⟨hundredths 4000, ?_, by decide⟩
    simp [balance, settled, sample, h24, h34, Transaction.effect]
    rfl

/-- After any run from the ledger to begin with, a line has an answer unless
it is read as a command without problems that pays in more than its account
has room for, or that asks for a member's balance which is too large. -/
theorem fault_iff_of_sample {ids : Nat → String} {now : Instant}
    {lines : List (Setting × String)} {rs : List Response} {line : String}
    (hIds : ((List.range sampleIds).map ids).Nodup) (hFresh : FreshStamps lines (sample ids now))
    (hRun : standard.run lines (sample ids now) = .ok (rs, l)) (hf : s.formatting = {}) :
    standard.submit s line l = .error fault ↔ fault = .sumOverflow ∧
      ∃ c, Command.read s.formatting s.today line = .ok c ∧ c.problems = [] ∧ Overflows l c := by
  have hFresh' : FreshStamps (lines ++ []) (sample ids now) := by rwa [List.append_nil]
  exact standard_fault_iff hf (run_keeps (sample_solvent hIds now) hFresh' hRun).1

/-- A jar is opened, and the largest amount that there is is paid into it. -/
def fullJar : List (Setting × String) :=
  [({ nextDay with stamp := ⟨"jar", nextDay.stamp.time⟩ }, "account new Jar"),
    ({ nextDay with stamp := ⟨"all", nextDay.stamp.time⟩ },
      "account credit 79228162514264337593543950335 --account Jar")]

/-- Both lines succeed, but what the owner of the jar has can no longer be told:
the jar is full, and there was something in another account. -/
theorem fullJar_overflows :
    ((List.range sampleIds).map fun n => toString n).Nodup ∧ FreshStamps fullJar numbered ∧
      ∃ rs l, standard.run fullJar numbered = .ok (rs, l) ∧ rs.map (·.success) = [true, true] ∧
        standard.submit nextDay "member balance" l = .error .sumOverflow ∧
        ∃ c, Command.read {} nextDay.today "member balance" = .ok c ∧ Overflows l c := by
  have hIds : ((List.range sampleIds).map fun n => toString n).Nodup := by decide +kernel
  have hFresh : FreshStamps fullJar numbered := by
    refine ⟨by decide, ?_⟩
    unfold NamesAccount
    decide +kernel
  have hAnswers : (standard.run fullJar numbered).toOption.map (fun answers =>
      (answers.1.map (·.success), (standard.submit nextDay "member balance" answers.2).isOk)) =
        some ([true, true], false) := by decide +kernel
  cases hRun : standard.run fullJar numbered with
  | error fault => simp [hRun, Except.toOption] at hAnswers
  | ok result =>
    obtain ⟨rs, l⟩ := result
    simp only [hRun, Except.toOption, Option.map_some, Option.some.injEq, Prod.mk.injEq] at hAnswers
    obtain ⟨hSuccess, hFails⟩ := hAnswers
    cases hSubmit : standard.submit nextDay "member balance" l with
    | ok answer => simp [hSubmit, Except.isOk, Except.toBool] at hFails
    | error fault =>
      obtain ⟨rfl, c, hRead, -, hOverflows⟩ :=
        (fault_iff_of_sample hIds hFresh hRun rfl).mp hSubmit
      exact ⟨hIds, hFresh, rs, l, rfl, hSuccess, hSubmit, c, hRead, hOverflows⟩

/-- Not every line is answered: there is no room for the largest amount in an
account that has something. -/
theorem overflow_without_answer :
    ¬∀ (ids : Nat → String) (now : Instant) (lines : List (Setting × String))
        (rs : List Response) (l : Ledger) (s : Setting) (line : String),
      ((List.range sampleIds).map ids).Nodup → FreshStamps lines (sample ids now) →
      (∀ earlier ∈ lines, earlier.1.formatting = {}) → s.formatting = {} →
      standard.run lines (sample ids now) = .ok (rs, l) →
      ∃ r l', standard.submit s line l = .ok (r, l') := by
  intro h
  obtain ⟨r, l', hSubmit⟩ := h (fun n => toString n) (.noon ⟨2026, 1, 7, by decide⟩) [] []
    numbered nextDay "account credit 79228162514264337593543950335" (by decide +kernel)
    ⟨List.nodup_nil, by simp⟩ (by simp) rfl rfl
  have hFails : (standard.submit nextDay "account credit 79228162514264337593543950335"
      numbered).isOk = false := by decide +kernel
  simp [hSubmit, Except.isOk, Except.toBool] at hFails

end Routes

end HomeLedger
