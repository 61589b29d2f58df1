import HomeLedger.Proofs.Ledger.Balance
import HomeLedger.Proofs.Ledger.Overflow

/-!
# HomeLedger — payments on different accounts

All payments stand in one list, and whatever is asked of an account is looked
up in that list anew: what it holds, whether that covers a payment, and what it
holds then. Still a payment knows of its own account only.

To see this, what a payment will come to is computed beforehand, without the
stamp that it is going to bear (`Handler.forecast`). A forecast looks at the
accounts, at the one that is selected, and at the effects on the account that
is meant, and at nothing else (`forecast_congr`); a payment on another account
changes none of these. That payments go as they are forecast is shown step by
step (`Booking.Follows`).

Main results:

* `execute_forecast` — a payment is answered and entered as it is forecast.
* `submit_elsewhere` — a line with a payment is answered alike on all ledgers
  that agree on its account.
* `execute_exact` — where the amounts fit together, a payment changes a balance
  by just what is paid.
* `payments_apart` — what a payment does to each balance, and that payments on
  different accounts may change places.
-/

namespace HomeLedger

-- ---------------------------------------------------------------------------
-- Effects by account
-- ---------------------------------------------------------------------------

namespace Direction

/-- The action of the commands that pay in a direction. -/
def action : Direction → Action
  | credit => .credit
  | debit => .debit

/-- What a payment adds to the balance of its account. -/
def signed (direction : Direction) (amount : Decimal) : Decimal :=
  match direction with
  | credit => amount
  | debit => amount.negate

@[simp] theorem scale_signed (direction : Direction) (amount : Decimal) :
    (direction.signed amount).scale = amount.scale := by
  cases direction <;> rfl

@[simp] theorem abs_toRat_signed (direction : Direction) (amount : Decimal) :
    |(direction.signed amount).toRat| = |amount.toRat| := by
  cases direction <;> simp [signed]

end Direction

/-- A command pays in or out. -/
structure Command.Pays (c : Command) (direction : Direction) : Prop where
  subject : c.subject = .account
  action : c.action = direction.action

namespace Ledger

variable {l m : Ledger} {query : Option String}

/-- What makes up the balance of an account: the amounts of its completed
transactions with their signs, in the order of entry. -/
def effects (l : Ledger) (id : String) : List Decimal := (l.settled id).map (·.effect)

/-- A balance is computed from the effects on its account and from nothing
else. -/
theorem balance_eq_total (l : Ledger) (id : String) : l.balance id = total (l.effects id) := rfl

/-- A payment is one more effect on its account, and none on any other. It is
completed when it is entered, so it counts at once. -/
theorem effects_withEntry (l : Ledger) (stamp : Stamp) (direction : Direction) (accountId : String)
    (amount : Decimal) (note id : String) :
    (l.withEntry (entry stamp direction accountId amount note)).effects id =
      l.effects id ++ if accountId = id then [direction.signed amount] else [] := by
  by_cases hId : accountId = id <;> cases direction <;>
    simp [effects, settled, withEntry, entry, hId, Direction.signed, Transaction.effect]

/-- The effects on an account come to its exact balance, which is what they
mean. -/
theorem sum_effects_eq_exactBalance (l : Ledger) (id : String) :
    ((l.effects id).map Decimal.toRat).sum = l.exactBalance id := sum_effects (l.settled id)

/-- With a payment more, the effects on its account come to as much more, to the
last digit, if the amounts fit together. Which way the payment goes does not
matter for that. -/
theorem exists_total_effects {id : String} {direction : Direction} {amount : Decimal}
    (hFits : Decimal.FitTogether (amount :: l.amounts id)) :
    ∃ b, total (l.effects id ++ [direction.signed amount]) = .ok b ∧
      b.toRat = l.exactBalance id + (direction.signed amount).toRat := by
  -- neither a sign nor one amount more changes the common scale or the units at it
  have hScale : ∀ d ∈ l.effects id ++ [direction.signed amount],
      d.scale ≤ Decimal.largestScale (amount :: l.amounts id) := by
    intro d hd
    rcases List.mem_append.mp hd with hEffect | hPaid
    · obtain ⟨t, ht, rfl⟩ := List.mem_map.mp hEffect
      rw [scale_effect]
      exact Decimal.scale_le_largestScale (List.mem_cons_of_mem _ (List.mem_map_of_mem ht))
    · rw [List.mem_singleton.mp hPaid, Direction.scale_signed]
      exact Decimal.scale_le_largestScale List.mem_cons_self
  have hUnits : ∀ places, Decimal.unitsAt places (l.effects id ++ [direction.signed amount]) =
      Decimal.unitsAt places (amount :: l.amounts id) := by
    intro places
    rw [Decimal.unitsAt_append, effects, unitsAt_effects, Decimal.unitsAt_cons,
      Decimal.unitsAt_nil, Direction.abs_toRat_signed, Decimal.unitsAt_cons, add_zero, add_comm,
      amounts]
  obtain ⟨b, hb, -, hValue⟩ := Decimal.sum?_exact hScale (by rw [hUnits]; exact hFits)
  refine ⟨b, total_eq_ok.mpr hb, ?_⟩
  rw [hValue, List.map_append, List.sum_append, sum_effects_eq_exactBalance, List.map_singleton,
    List.sum_singleton]

/-- Two ledgers are alike for a query: the account that it means is the same,
with the same effects. Transactions on other accounts, lists and selections of
lists may differ. -/
structure AlikeFor (query : Option String) (l m : Ledger) : Prop where
  accounts : m.accounts = l.accounts
  selected : m.selectedAccount = l.selectedAccount
  effects : ∀ a, l.resolveAccount query = .ok a → m.effects a.id = l.effects a.id

/-- Which account is meant depends on the accounts and on the selected one. -/
theorem resolveAccount_congr (hAccounts : m.accounts = l.accounts)
    (hSelected : m.selectedAccount = l.selectedAccount) (query : Option String) :
    m.resolveAccount query = l.resolveAccount query := by
  have hCurrent : m.currentAccount? = l.currentAccount? := by
    unfold currentAccount? accountOfId?
    rw [hAccounts, hSelected]
  unfold resolveAccount findAccount?
  rw [hAccounts, hCurrent]

theorem AlikeFor.refl (query : Option String) (l : Ledger) : AlikeFor query l l :=
  ⟨rfl, rfl, fun _ _ => rfl⟩

/-- Being alike goes both ways, since the query means the same account on both
ledgers. -/
theorem AlikeFor.symm (h : AlikeFor query l m) : AlikeFor query m l := by
  refine ⟨h.accounts.symm, h.selected.symm, fun a ha => (h.effects a ?_).symm⟩
  rwa [resolveAccount_congr h.accounts h.selected] at ha

/-- With distinct ids, an entry is the first one of its id. Without them a
lookup might find another one. -/
theorem find?_id_of_mem {α : Type} {id : α → String} {xs : List α}
    (hDistinct : (xs.map id).Nodup) {x : α} (hx : x ∈ xs) : xs.find? (id · == id x) = some x := by
  cases hFound : xs.find? (id · == id x) with
  | none =>
    have hNone := List.find?_eq_none.mp hFound x hx
    simp at hNone
  | some y =>
    have hId : id y = id x := by simpa using List.find?_some hFound
    rw [List.inj_on_of_nodup_map hDistinct (List.mem_of_find?_eq_some hFound) hx hId]

/-- With distinct ids, an account is the one of its id. -/
theorem accountOfId?_of_mem (hDistinct : (l.accounts.map (·.id)).Nodup) {a : Account}
    (ha : a ∈ l.accounts) : l.accountOfId? a.id = some a :=
  find?_id_of_mem hDistinct ha

end Ledger

-- ---------------------------------------------------------------------------
-- Bookings that are computed beforehand
-- ---------------------------------------------------------------------------

namespace Booking

variable {α β γ δ : Type} {l : Ledger} {done : β → α → Ledger → Prop}

/-- A booking on `l` goes as it was computed: `done` holds of what was computed,
of the result and of the ledger then, or the booking ends early for the reason
that was computed. What was computed has no ledger in it, so it can be compared
between ledgers. -/
def Follows (b : Booking α) (l : Ledger) (e : Except Stop β) (done : β → α → Ledger → Prop) :
    Prop :=
  match b.run l, e with
  | .ok a l', .ok x => done x a l'
  | .error stop _, .error stop' => stop = stop'
  | _, _ => False

theorem follows_pure {a : α} {x : β} (h : done x a l) :
    (pure a : Booking α).Follows l (pure x) done := h

/-- Each step goes as it was computed. The computation of the second step may
use what was computed for the first. -/
theorem follows_bind {b : Booking γ} {k : γ → Booking α} {e : Except Stop δ}
    {next : δ → Except Stop β} (h : b.Follows l e fun x a l' => (k a).Follows l' (next x) done) :
    (b >>= k).Follows l (e >>= next) done := by
  show (match EStateM.bind b k l, Except.bind e next with
    | .ok a l', .ok x => done x a l'
    | .error stop _, .error stop' => stop = stop'
    | _, _ => False)
  unfold Follows EStateM.run at h
  unfold EStateM.bind
  cases hb : b l <;> cases e <;> simp only [hb] at h ⊢
  · exact h
  · exact h

/-- A look at the ledger needs no computation. -/
theorem follows_get {k : Ledger → Booking α} {e : Except Stop β} (h : (k l).Follows l e done) :
    (get >>= k).Follows l e done := h

theorem follows_ite {c : Prop} [Decidable c] {b b' : Booking α} {e e' : Except Stop β}
    (h : c → b.Follows l e done) (h' : ¬c → b'.Follows l e' done) :
    (if c then b else b').Follows l (if c then e else e') done := by
  by_cases hc : c
  · simpa [hc] using h hc
  · simpa [hc] using h' hc

theorem follows_found {why : Refusal} {o : Option α} {done : α → α → Ledger → Prop}
    (h : ∀ a, o = some a → done a a l) :
    (found why o).Follows l (o.elim (.error (.refused why)) .ok) done := by
  cases o with
  | none => exact rfl
  | some a => exact h a rfl

/-- A result that may be refused is computed as it is, and so is its refusal. -/
theorem follows_allowed {e : Except Refusal α} {done : α → α → Ledger → Prop}
    (h : ∀ a, e = .ok a → done a a l) : (allowed e).Follows l (e.mapError .refused) done := by
  cases e with
  | error why => exact rfl
  | ok a => exact h a rfl

/-- A result that may be broken is computed as it is, and so is its fault. -/
theorem follows_sound {e : Except Fault α} {done : α → α → Ledger → Prop}
    (h : ∀ a, e = .ok a → done a a l) : (sound e).Follows l (e.mapError .broken) done := by
  cases e with
  | error fault => exact rfl
  | ok a => exact h a rfl

end Booking

-- ---------------------------------------------------------------------------
-- Forecasts
-- ---------------------------------------------------------------------------

/-- Data without the one of a key. -/
def Response.Data.erase (key : String) (d : Response.Data) : Response.Data :=
  ⟨d.members.filter (·.1 ≠ key), d.sorted.filter _⟩

/-- The response without one of its data. -/
def Response.without (key : String) (r : Response) : Response :=
  { r with data := r.data.map (·.erase key) }

/-- The value of one of the data of a response. -/
def Response.datum? (key : String) (r : Response) : Option Json :=
  r.data.bind fun d => Json.lookup? key d.members

/-- What a payment comes to: the account, the amount, the account's balance
afterwards, and how the amount is shown. All that is told to the user is in it,
but for the id of the transaction. -/
structure Forecast where
  account : Account
  amount : Decimal
  balance : Decimal
  shown : String

/-- What is answered to a payment that has been entered under an id. -/
def Forecast.receipt (p : Forecast) (direction : Direction) (id : String) : Response :=
  let done := match direction with
    | .credit => s!"credited {p.shown} to"
    | .debit => s!"debited {p.shown} from"
  (Response.ok s!"Successfully {done} {p.account.name}").withText "amount" p.amount.text
    |>.withText "balance" p.balance.text
    |>.withText "accountName" p.account.name
    |>.withText "transactionId" id

/-- Receipts of the same payment under two ids differ in nothing but the id. -/
theorem Forecast.receipt_without (p : Forecast) (direction : Direction) (id id' : String) :
    (p.receipt direction id).without "transactionId" =
      (p.receipt direction id').without "transactionId" := rfl

theorem Forecast.balance_receipt (p : Forecast) (direction : Direction) (id : String) :
    (p.receipt direction id).datum? "balance" = some (.string p.balance.text) := rfl

/-- What an account that holds some amount has to say against a payment. Only a
payment out of it is looked at; what it holds may itself be a fault. -/
def Account.admits (a : Account) (direction : Direction) (amount : Decimal)
    (held : Except Fault Decimal) : Except Stop Unit :=
  if !amount.isPositive then .error (.refused .notPositive)
  else match direction with
    | .credit => .ok ()
    | .debit =>
      if !a.kind.canDebit then .error (.refused (.cannotDebit a.kind))
      else do
        let old ← held.mapError .broken
        if old.lt amount then .error (.refused (.insufficientFunds a.name)) else .ok ()

namespace Handler

open Booking Ledger

variable {direction : Direction} {s : Setting} {f : Formatting} {c : Command} {l m : Ledger}

/-- What a payment will come to, or why it will not be made. -/
def forecast (direction : Direction) (f : Formatting) (c : Command) (l : Ledger) :
    Except Stop Forecast := do
  let amount ← (paidAmount? c).elim (.error (.refused .invalidAmount)) .ok
  let account ← (l.resolveAccount (paidAccount? c)).mapError .refused
  account.admits direction amount (l.balance account.id)
  let balance ← (total (l.effects account.id ++ [direction.signed amount])).mapError .broken
  let shown ← (f.currency amount).mapError .broken
  return { account, amount, balance, shown }

/-- The transaction that is entered as it is forecast. -/
def foretold (direction : Direction) (s : Setting) (c : Command) (p : Forecast) : Transaction :=
  entry s.stamp direction p.account.id p.amount ((c.namedText? "note").getD "")

/-- A forecast is the same on ledgers that are alike for the account that is
meant. It is computed from no more than what they agree on. -/
theorem forecast_congr (h : AlikeFor (paidAccount? c) l m) :
    forecast direction f c m = forecast direction f c l := by
  unfold forecast
  rw [resolveAccount_congr h.accounts h.selected]
  cases hAccount : l.resolveAccount (paidAccount? c) with
  | error why => rfl
  | ok a =>
    have hBalance : m.balance a.id = l.balance a.id := congrArg total (h.effects a hAccount)
    simp only [Except.mapError, bind, Except.bind, hBalance, h.effects a hAccount]

/-- What is known of a payment that can be made: its amount and its account are
those that the command asks for, and the balance is the total of all the effects
with the one of the payment behind them. -/
theorem forecast_eq_ok {p : Forecast} (h : forecast direction f c l = .ok p) :
    paidAmount? c = some p.amount ∧ l.resolveAccount (paidAccount? c) = .ok p.account ∧
      total (l.effects p.account.id ++ [direction.signed p.amount]) = .ok p.balance := by
  obtain ⟨amount, hAmount, h⟩ := bind_eq_ok.mp h
  obtain ⟨a, hAccount, h⟩ := bind_eq_ok.mp h
  obtain ⟨-, -, h⟩ := bind_eq_ok.mp h
  obtain ⟨new, hNew, h⟩ := bind_eq_ok.mp h
  obtain ⟨shown, -, h⟩ := bind_eq_ok.mp h
  obtain rfl := Except.ok.inj h
  refine ⟨?_, mapError_eq_ok.mp hAccount, mapError_eq_ok.mp hNew⟩
  cases hPaid : paidAmount? c with
  | none => simp [hPaid] at hAmount
  | some amount' => simpa [hPaid] using hAmount

/-- Pays in or out, as `moveMoney` does it. The two directions have an operation
each, and are one here. -/
def pay (direction : Direction) (stamp : Stamp) (accountId : String) (amount : Decimal)
    (note : String) : Booking Transaction :=
  match direction with
  | .credit => credit stamp accountId amount note
  | .debit => debit stamp accountId amount note

/-- A payment is entered if the account has nothing to say against it, and the
refusals come in the order in which the operation checks for them. -/
theorem follows_pay {stamp : Stamp} {a : Account} {amount : Decimal} {note : String}
    {done : Unit → Transaction → Ledger → Prop} (hDistinct : (l.accounts.map (·.id)).Nodup)
    (ha : a ∈ l.accounts) (h : done () (entry stamp direction a.id amount note)
      (l.withEntry (entry stamp direction a.id amount note))) :
    (pay direction stamp a.id amount note).Follows l
      (a.admits direction amount (l.balance a.id)) done := by
  cases direction with
  | credit => exact follows_ite (fun _ => rfl) fun _ => h
  | debit =>
    refine follows_ite (fun _ => rfl) fun _ => follows_get ?_
    rw [accountOfId?_of_mem hDistinct ha]
    refine follows_ite (fun _ => rfl) fun _ => follows_get ?_
    refine follows_bind (follows_sound fun old _ => ?_)
    exact follows_ite (fun _ => rfl) fun _ => h

/-- What a payment does: it finds out the amount and the account, enters the
transaction, and tells the new balance. The handler is written out once in this
form, and not opened again. -/
theorem moveMoney_eq : moveMoney direction s c = (do
    let amount ← found .invalidAmount (paidAmount? c)
    let account ← allowed ((← get).resolveAccount (paidAccount? c))
    let t ← pay direction s.stamp account.id amount ((c.namedText? "note").getD "")
    let balance ← sound ((← get).balance account.id)
    let shown ← sound (s.formatting.currency amount)
    return Forecast.receipt ⟨account, amount, balance, shown⟩ direction t.id) := by
  cases direction <;> rfl

/-- A payment goes as it is forecast, step by step. The forecast takes the new
balance from the effects alone, while the payment is entered first and the
ledger is asked behind it; both are the same total. -/
theorem follows_moveMoney (direction : Direction) (s : Setting) (c : Command)
    (hDistinct : (l.accounts.map (·.id)).Nodup) :
    (moveMoney direction s c).Follows l (forecast direction s.formatting c l) fun p r l' =>
      r = p.receipt direction s.stamp.id ∧ l' = l.withEntry (foretold direction s c p) := by
  rw [moveMoney_eq]
  refine follows_bind (follows_found fun amount _ => ?_)
  refine follows_get (follows_bind (follows_allowed fun a ha => ?_))
  refine follows_bind (follows_pay hDistinct (mem_of_resolveAccount ha) ?_)
  -- the new balance is that of the ledger with the transaction
  refine follows_get ?_
  rw [balance_eq_total, effects_withEntry, if_pos rfl]
  refine follows_bind (follows_sound fun new _ => ?_)
  refine follows_bind (follows_sound fun shown _ => ?_)
  exact follows_pure ⟨rfl, rfl⟩

end Handler

namespace Routes

open Booking Ledger Handler

variable {direction : Direction} {s : Setting} {c : Command} {l : Ledger}

/-- A payment is answered and entered as it is forecast. This is what lets two
payments be compared: their forecasts are computed on one ledger, without
running either of them. -/
theorem execute_forecast (hDistinct : (l.accounts.map (·.id)).Nodup) (hPays : c.Pays direction) :
    standard.execute s c l =
      match forecast direction s.formatting c l with
      | .ok p => .ok (p.receipt direction s.stamp.id, l.withEntry (foretold direction s c p))
      | .error (.refused why) => .ok (Response.failure why.message, l)
      | .error (.broken fault) => .error fault := by
  have hRoute : standard c.subject c.action = some (moveMoney direction) := by
    rw [hPays.subject, hPays.action]
    cases direction <;> rfl
  have hFollows := follows_moveMoney direction s c hDistinct
  unfold Follows at hFollows
  simp only [execute, hRoute]
  -- what the run has done and the forecast agree in each case, and never is it one of the two only
  cases hRun : (moveMoney direction s c).run l with
  | ok r l' =>
    cases hForecast : forecast direction s.formatting c l with
    | ok p =>
      simp only [hRun, hForecast] at hFollows
      obtain ⟨rfl, rfl⟩ := hFollows
      rfl
    | error stop => simp [hRun, hForecast] at hFollows
  | error stop l' =>
    cases hForecast : forecast direction s.formatting c l with
    | ok p => simp [hRun, hForecast] at hFollows
    | error stop' =>
      simp only [hRun, hForecast] at hFollows
      subst hFollows
      cases stop with
      | broken fault => rfl
      | refused why =>
        -- a refused payment has entered nothing on the way
        have hKept : l' = l := (books_of_standard hRoute s c l).of_refused hRun
        simp only [hKept]

-- ---------------------------------------------------------------------------
-- Lines on ledgers that agree on one account
-- ---------------------------------------------------------------------------

/-- A line is answered on a ledger with what is told, up to the id of the
transaction, and with nothing changed but the effects that are entered. What is
told and entered stands apart from the ledger. -/
structure Answered (l : Ledger) (r : Response) (l' : Ledger) (told : Response)
    (entered : String → List Decimal) : Prop where
  response : r.without "transactionId" = told
  accounts : l'.accounts = l.accounts
  selected : l'.selectedAccount = l.selectedAccount
  effects : ∀ id, l'.effects id = l.effects id ++ entered id

theorem Answered.kept (l : Ledger) (r : Response) :
    Answered l r l (r.without "transactionId") fun _ => [] :=
  ⟨rfl, rfl, rfl, fun _ => (List.append_nil _).symm⟩

/-- Where nothing has been entered, the ledger is alike afterwards. So a line
leaves alone what another line on another account will find. -/
theorem Answered.alikeFor {r told : Response} {l' : Ledger} {entered : String → List Decimal}
    {query : Option String} (h : Answered l r l' told entered)
    (hOthers : ∀ a, l.resolveAccount query = .ok a → entered a.id = []) : AlikeFor query l l' := by
  refine ⟨h.accounts, h.selected, fun a ha => ?_⟩
  rw [h.effects, hOthers a ha, List.append_nil]

/-- Whatever the stamp, it is answered alike on all ledgers that are alike for a
query, and nothing is entered but on the account that the query means. This is
the whole of what exchanging two lines needs of each. -/
structure OnAccount (answer : Stamp → Ledger → Except Fault (Response × Ledger))
    (query : Option String) (l : Ledger) (told : Response) (entered : String → List Decimal) :
    Prop where
  others : ∀ id, (∀ a, l.resolveAccount query = .ok a → a.id ≠ id) → entered id = []
  answered : ∀ (stamp : Stamp) (m : Ledger), AlikeFor query l m →
    ∃ r m', answer stamp m = .ok (r, m') ∧ Answered m r m' told entered

/-- A payment is answered as it is forecast, under any stamp and on any ledger
that the forecast is for. -/
theorem answered_forecast (direction : Direction) (s : Setting) (c : Command) (p : Forecast)
    (stamp : Stamp) (m : Ledger) :
    Answered m (p.receipt direction stamp.id)
      (m.withEntry (foretold direction { s with stamp } c p))
      ((p.receipt direction s.stamp.id).without "transactionId")
      fun id => if p.account.id = id then [direction.signed p.amount] else [] :=
  ⟨p.receipt_without direction stamp.id s.stamp.id, rfl, rfl, effects_withEntry m stamp _ _ _ _⟩

/-- A command that pays is answered alike on ledgers that are alike for its
account. A payment that is refused is refused on all of them, and for the same
reason. -/
theorem execute_elsewhere {r : Response} {l' : Ledger}
    (hDistinct : (l.accounts.map (·.id)).Nodup) (hPays : c.Pays direction)
    (h : standard.execute s c l = .ok (r, l')) :
    ∃ told entered, OnAccount (fun stamp m => standard.execute { s with stamp } c m)
      (paidAccount? c) l told entered := by
  have hExecute : ∀ (stamp : Stamp) (m : Ledger), AlikeFor (paidAccount? c) l m →
      standard.execute { s with stamp } c m =
        match forecast direction s.formatting c l with
        | .ok p => .ok (p.receipt direction stamp.id,
            m.withEntry (foretold direction { s with stamp } c p))
        | .error (.refused why) => .ok (Response.failure why.message, m)
        | .error (.broken fault) => .error fault := by
    -- a ledger that is alike for the account has the same forecast
    intro stamp m hAlike
    rw [execute_forecast (hAlike.accounts ▸ hDistinct) hPays, forecast_congr hAlike]
  cases hForecast : forecast direction s.formatting c l with
  | ok p =>
    simp only [hForecast] at hExecute
    refine ⟨_, _, ?_, fun stamp m hAlike =>
      ⟨_, _, hExecute stamp m hAlike, answered_forecast direction s c p stamp m⟩⟩
    intro id hOther
    exact if_neg (hOther p.account (forecast_eq_ok hForecast).2.1)
  | error stop =>
    cases stop with
    | refused why =>
      simp only [hForecast] at hExecute
      exact ⟨_, _, fun _ _ => rfl,
        fun stamp m hAlike => ⟨_, _, hExecute stamp m hAlike, .kept m _⟩⟩
    | broken fault =>
      have hHere := hExecute s.stamp l (.refl _ l)
      simp only [hForecast] at hHere
      exact absurd (h.symm.trans hHere) (by simp)

/-- The same of a line. A line with problems is answered without a look at any
account. -/
theorem submit_elsewhere {line : String} {r : Response} {l' : Ledger}
    (hDistinct : (l.accounts.map (·.id)).Nodup)
    (hRead : Command.read s.formatting s.today line = .ok c) (hPays : c.Pays direction)
    (h : standard.submit s line l = .ok (r, l')) :
    ∃ told entered, Answered l r l' told entered ∧
      OnAccount (fun stamp m => standard.submit { s with stamp } line m) (paidAccount? c) l told
        entered := by
  have hSubmit : ∀ (stamp : Stamp) (m : Ledger), standard.submit { s with stamp } line m =
      if c.problems.isEmpty then standard.execute { s with stamp } c m
      else .ok (Response.failure (Problem.summary c.problems), m) := by
    intro stamp m
    simp only [submit, hRead]
  obtain ⟨told, entered, hOn⟩ : ∃ told entered,
      OnAccount (fun stamp m => standard.submit { s with stamp } line m) (paidAccount? c) l told
        entered := by
    by_cases hProblems : c.problems.isEmpty
    · simp only [hProblems, if_true] at hSubmit
      simp only [hSubmit]
      exact execute_elsewhere hDistinct hPays ((hSubmit s.stamp l).symm.trans h)
    · simp only [hProblems, Bool.false_eq_true, if_false] at hSubmit
      exact ⟨_, _, fun _ _ => rfl, fun stamp m _ => ⟨_, _, hSubmit stamp m, .kept m _⟩⟩
  obtain ⟨r', m', hAnswer, hAnswered⟩ := hOn.answered s.stamp l (.refl _ l)
  obtain ⟨rfl, rfl⟩ := Prod.mk.inj (Except.ok.inj (hAnswer.symm.trans h))
  exact ⟨told, entered, hAnswered, hOn⟩

-- ---------------------------------------------------------------------------
-- What a payment does to balances, and two payments in either order
-- ---------------------------------------------------------------------------

section Paid

variable {r : Response} {l' : Ledger}

/-- A payment that is answered with a success has been forecast, and has been
entered as it was. -/
theorem exists_forecast (hDistinct : (l.accounts.map (·.id)).Nodup) (hPays : c.Pays direction)
    (h : standard.execute s c l = .ok (r, l')) (hSuccess : r.success = true) :
    ∃ p, forecast direction s.formatting c l = .ok p ∧ r = p.receipt direction s.stamp.id ∧
      l' = l.withEntry (foretold direction s c p) := by
  rw [execute_forecast hDistinct hPays] at h
  cases hForecast : forecast direction s.formatting c l with
  | error stop =>
    cases stop with
    | refused why =>
      simp only [hForecast] at h
      obtain ⟨rfl, -⟩ := Prod.mk.inj (Except.ok.inj h)
      exact absurd hSuccess (by simp [Response.failure])
    | broken fault => simp [hForecast] at h
  | ok p =>
    simp only [hForecast] at h
    obtain ⟨hr, hl'⟩ := Prod.mk.inj (Except.ok.inj h)
    exact ⟨p, rfl, hr.symm, hl'.symm⟩

/-- An entry adds one effect to those on its account. -/
theorem effects_foretold (l : Ledger) (p : Forecast) :
    (l.withEntry (foretold direction s c p)).effects p.account.id =
      l.effects p.account.id ++ [direction.signed p.amount] := by
  rw [foretold, effects_withEntry, if_pos rfl]

theorem effects_foretold_other {p : Forecast} {id : String} (hOther : p.account.id ≠ id)
    (l : Ledger) : (l.withEntry (foretold direction s c p)).effects id = l.effects id := by
  rw [foretold, effects_withEntry, if_neg hOther, List.append_nil]

/-- A payment that is answered with a success has been added to the balance of
its account, and that is all. No other account is touched, not even by
rounding. -/
theorem execute_balances (hDistinct : (l.accounts.map (·.id)).Nodup) (hPays : c.Pays direction)
    (h : standard.execute s c l = .ok (r, l')) (hSuccess : r.success = true) :
    ∃ a amount old new, paidAmount? c = some amount ∧
      l.resolveAccount (paidAccount? c) = .ok a ∧ l.balance a.id = .ok old ∧
      old.add? (direction.signed amount) = some new ∧ l'.balance a.id = .ok new ∧
      r.datum? "balance" = some (.string new.text) ∧ l'.accounts = l.accounts ∧
      ∀ id, a.id ≠ id → l'.balance id = l.balance id := by
  obtain ⟨p, hForecast, rfl, rfl⟩ := exists_forecast hDistinct hPays h hSuccess
  obtain ⟨hAmount, hAccount, hNew⟩ := forecast_eq_ok hForecast
  have hSum := total_eq_ok.mp hNew
  rw [Decimal.sum?_append_singleton, Option.bind_eq_some_iff] at hSum
  obtain ⟨old, hOld, hAdd⟩ := hSum
  refine ⟨p.account, p.amount, old, p.balance, hAmount, hAccount, total_eq_ok.mpr hOld, hAdd, ?_,
    p.balance_receipt direction s.stamp.id, rfl, ?_⟩
  · rw [balance_eq_total, effects_foretold, hNew]
  · intro id hOther
    rw [balance_eq_total, effects_foretold_other hOther, balance_eq_total]

/-- Decimal addition may round, so that a balance need not change by just what
is paid. It does if the amounts on the account and the one that is paid fit
together: then the new balance is what all transactions come to, the new one
included, and no other account comes to anything else. -/
theorem execute_exact (hDistinct : (l.accounts.map (·.id)).Nodup) (hPays : c.Pays direction)
    (h : standard.execute s c l = .ok (r, l')) (hSuccess : r.success = true)
    (hFits : ∀ a amount, l.resolveAccount (paidAccount? c) = .ok a → paidAmount? c = some amount →
      Decimal.FitTogether (amount :: l.amounts a.id)) :
    ∃ a amount new, l.resolveAccount (paidAccount? c) = .ok a ∧ paidAmount? c = some amount ∧
      l'.balance a.id = .ok new ∧
      new.toRat = l.exactBalance a.id + (direction.signed amount).toRat ∧
      l'.exactBalance a.id = l.exactBalance a.id + (direction.signed amount).toRat ∧
      ∀ id, a.id ≠ id → l'.exactBalance id = l.exactBalance id := by
  obtain ⟨p, hForecast, rfl, rfl⟩ := exists_forecast hDistinct hPays h hSuccess
  obtain ⟨hAmount, hAccount, hNew⟩ := forecast_eq_ok hForecast
  obtain ⟨b, hb, hValue⟩ :
      ∃ b, total (l.effects p.account.id ++ [direction.signed p.amount]) = .ok b ∧
        b.toRat = l.exactBalance p.account.id + (direction.signed p.amount).toRat :=
    exists_total_effects (hFits p.account p.amount hAccount hAmount)
  obtain rfl : b = p.balance := Except.ok.inj (hb.symm.trans hNew)
  refine ⟨p.account, p.amount, p.balance, hAccount, hAmount, ?_, hValue, ?_, fun id hOther => ?_⟩
  · rw [balance_eq_total, effects_foretold, hNew]
  · rw [← sum_effects_eq_exactBalance, effects_foretold, List.map_append, List.sum_append,
      sum_effects_eq_exactBalance, List.map_singleton, List.sum_singleton]
  · rw [← sum_effects_eq_exactBalance, effects_foretold_other hOther, sum_effects_eq_exactBalance]

end Paid

/-- What is entered by two payments on different accounts is the same in either
order, account by account: at most one of the two has entered anything there. -/
theorem entered_comm {answer₁ answer₂ : Stamp → Ledger → Except Fault (Response × Ledger)}
    {query₁ query₂ : Option String} {m : Ledger} {told₁ told₂ : Response}
    {entered₁ entered₂ : String → List Decimal} (h₁ : OnAccount answer₁ query₁ l told₁ entered₁)
    (h₂ : OnAccount answer₂ query₂ m told₂ entered₂)
    (hApart : ∀ a₁ a₂, l.resolveAccount query₁ = .ok a₁ → m.resolveAccount query₂ = .ok a₂ →
      a₁.id ≠ a₂.id) (id : String) :
    entered₂ id ++ entered₁ id = entered₁ id ++ entered₂ id := by
  by_cases hOther : ∀ a₁, l.resolveAccount query₁ = .ok a₁ → a₁.id ≠ id
  · rw [h₁.others id hOther, List.append_nil, List.nil_append]
  · simp only [not_forall, not_not, exists_prop] at hOther
    obtain ⟨a₁, ha₁, rfl⟩ := hOther
    have hNone := h₂.others a₁.id fun a₂ ha₂ => (hApart a₁ a₂ ha₁ ha₂).symm
    rw [hNone, List.append_nil, List.nil_append]

/-- Two payments on different accounts may change places. The second one is
answered first on a ledger that is alike for its account, and then the first one
on what that has left. -/
theorem submit_exchanged {s₁ s₂ : Setting} {line₁ line₂ : String}
    {direction₁ direction₂ : Direction} {c₁ c₂ : Command} {r₁ r₂ : Response} {m₁ l₁₂ : Ledger}
    (hDistinct : (l.accounts.map (·.id)).Nodup)
    (hRead₁ : Command.read s₁.formatting s₁.today line₁ = .ok c₁) (hPays₁ : c₁.Pays direction₁)
    (hRead₂ : Command.read s₂.formatting s₂.today line₂ = .ok c₂) (hPays₂ : c₂.Pays direction₂)
    (hApart : ∀ a₁ a₂, l.resolveAccount (paidAccount? c₁) = .ok a₁ →
      l.resolveAccount (paidAccount? c₂) = .ok a₂ → a₁.id ≠ a₂.id)
    (hSubmit₁ : standard.submit s₁ line₁ l = .ok (r₁, m₁))
    (hSubmit₂ : standard.submit s₂ line₂ m₁ = .ok (r₂, l₁₂)) (stamp₁ stamp₂ : Stamp) :
    ∃ r₁' r₂' m₂ l₂₁, standard.submit { s₂ with stamp := stamp₂ } line₂ l = .ok (r₂', m₂) ∧
      standard.submit { s₁ with stamp := stamp₁ } line₁ m₂ = .ok (r₁', l₂₁) ∧
      r₁'.without "transactionId" = r₁.without "transactionId" ∧
      r₂'.without "transactionId" = r₂.without "transactionId" ∧
      l₂₁.accounts = l₁₂.accounts ∧ ∀ id, l₂₁.balance id = l₁₂.balance id := by
  obtain ⟨told₁, entered₁, hFirst, hOn₁⟩ := submit_elsewhere hDistinct hRead₁ hPays₁ hSubmit₁
  obtain ⟨told₂, entered₂, hSecond, hOn₂⟩ :=
    submit_elsewhere (hFirst.accounts ▸ hDistinct) hRead₂ hPays₂ hSubmit₂
  have hResolve : m₁.resolveAccount (paidAccount? c₂) = l.resolveAccount (paidAccount? c₂) :=
    resolveAccount_congr hFirst.accounts hFirst.selected _
  -- neither payment has entered anything on the account of the other
  have hAlike₂ : AlikeFor (paidAccount? c₂) l m₁ :=
    hFirst.alikeFor fun a₂ ha₂ => hOn₁.others a₂.id fun a₁ ha₁ => hApart a₁ a₂ ha₁ ha₂
  obtain ⟨r₂', m₂, hSubmit₂', hSecond'⟩ := hOn₂.answered stamp₂ l hAlike₂.symm
  have hAlike₁ : AlikeFor (paidAccount? c₁) l m₂ :=
    hSecond'.alikeFor fun a₁ ha₁ =>
      hOn₂.others a₁.id fun a₂ ha₂ => (hApart a₁ a₂ ha₁ (hResolve ▸ ha₂)).symm
  obtain ⟨r₁', l₂₁, hSubmit₁', hFirst'⟩ := hOn₁.answered stamp₁ m₂ hAlike₁
  refine ⟨r₁', r₂', m₂, l₂₁, hSubmit₂', hSubmit₁', hFirst'.response.trans hFirst.response.symm,
    hSecond'.response.trans hSecond.response.symm, ?_, fun id => ?_⟩
  · rw [hFirst'.accounts, hSecond'.accounts, hSecond.accounts, hFirst.accounts]
  · have hComm := entered_comm hOn₁ hOn₂
      (fun a₁ a₂ ha₁ ha₂ => hApart a₁ a₂ ha₁ (hResolve ▸ ha₂)) id
    rw [balance_eq_total, hFirst'.effects, hSecond'.effects, List.append_assoc, hComm,
      ← List.append_assoc, ← hFirst.effects, ← hSecond.effects, balance_eq_total]

/-- What a payment that succeeds does to the balances, and that two lines with
payments on different accounts may change places, be they answered with a
success or refused: each is answered alike, and every balance is the same. -/
theorem payments_apart (hDistinct : (l.accounts.map (·.id)).Nodup) :
    (∀ (s : Setting) (direction : Direction) (c : Command) (r : Response) (l' : Ledger),
      c.Pays direction → standard.execute s c l = .ok (r, l') → r.success = true →
      ∃ a amount old new, paidAmount? c = some amount ∧
        l.resolveAccount (paidAccount? c) = .ok a ∧ l.balance a.id = .ok old ∧
        old.add? (direction.signed amount) = some new ∧ l'.balance a.id = .ok new ∧
        r.datum? "balance" = some (.string new.text) ∧ l'.accounts = l.accounts ∧
        ∀ a' ∈ l.accounts, a' ≠ a → l'.balance a'.id = l.balance a'.id) ∧
    ∀ (s₁ s₂ : Setting) (line₁ line₂ : String) (direction₁ direction₂ : Direction)
      (c₁ c₂ : Command) (r₁ r₂ : Response) (m₁ l₁₂ : Ledger) (stamp₁ stamp₂ : Stamp),
      Command.read s₁.formatting s₁.today line₁ = .ok c₁ → c₁.Pays direction₁ →
      Command.read s₂.formatting s₂.today line₂ = .ok c₂ → c₂.Pays direction₂ →
      (∀ a₁ a₂, l.resolveAccount (paidAccount? c₁) = .ok a₁ →
        l.resolveAccount (paidAccount? c₂) = .ok a₂ → a₁ ≠ a₂) →
      standard.submit s₁ line₁ l = .ok (r₁, m₁) → standard.submit s₂ line₂ m₁ = .ok (r₂, l₁₂) →
      ∃ r₁' r₂' m₂ l₂₁, standard.submit { s₂ with stamp := stamp₂ } line₂ l = .ok (r₂', m₂) ∧
        standard.submit { s₁ with stamp := stamp₁ } line₁ m₂ = .ok (r₁', l₂₁) ∧
        r₁'.without "transactionId" = r₁.without "transactionId" ∧
        r₂'.without "transactionId" = r₂.without "transactionId" ∧
        l₂₁.accounts = l₁₂.accounts ∧ ∀ id, l₂₁.balance id = l₁₂.balance id := by
  have hIds : ∀ a ∈ l.accounts, ∀ a' ∈ l.accounts, a ≠ a' → a.id ≠ a'.id :=
    fun a ha a' ha' hne hId => hne (List.inj_on_of_nodup_map hDistinct ha ha' hId)
  constructor
  · intro s direction c r l' hPays h hSuccess
    obtain ⟨a, amount, old, new, hAmount, hAccount, hOld, hAdd, hNew, hTold, hAccounts, hOthers⟩ :=
      execute_balances hDistinct hPays h hSuccess
    refine ⟨a, amount, old, new, hAmount, hAccount, hOld, hAdd, hNew, hTold, hAccounts, ?_⟩
    intro a' ha' hne
    exact hOthers a'.id (hIds a (mem_of_resolveAccount hAccount) a' ha' hne.symm)
  · intro s₁ s₂ line₁ line₂ direction₁ direction₂ c₁ c₂ r₁ r₂ m₁ l₁₂ stamp₁ stamp₂ hRead₁ hPays₁
      hRead₂ hPays₂ hne hSubmit₁ hSubmit₂
    refine submit_exchanged hDistinct hRead₁ hPays₁ hRead₂ hPays₂ ?_ hSubmit₁ hSubmit₂ stamp₁ stamp₂
    intro a₁ a₂ ha₁ ha₂
    exact hIds a₁ (mem_of_resolveAccount ha₁) a₂ (mem_of_resolveAccount ha₂) (hne a₁ a₂ ha₁ ha₂)

/-- Some is put into the jar, and more than there is would be taken from the
purse. In the other order, too, the one succeeds and the other is refused. -/
theorem jarAndPurse_exchanged :
    (jarAndPurse.accounts.map (·.id)).Nodup ∧
      ∃ r₁ r₂ m₁ l₁₂,
        standard.submit nextDay "account credit 5 --account Jar" jarAndPurse = .ok (r₁, m₁) ∧
        standard.submit nextDay "account debit 25 --account Purse" m₁ = .ok (r₂, l₁₂) ∧
        [r₁, r₂].map (·.success) = [true, false] ∧
        (∃ a old new, jarAndPurse.balance a = .ok old ∧ m₁.balance a = .ok new ∧
          r₁.datum? "balance" = some (.string new.text)) ∧
        ∃ r₁' r₂' m₂ l₂₁,
          standard.submit nextDay "account debit 25 --account Purse" jarAndPurse = .ok (r₂', m₂) ∧
          standard.submit nextDay "account credit 5 --account Jar" m₂ = .ok (r₁', l₂₁) ∧
          r₁'.without "transactionId" = r₁.without "transactionId" ∧
          r₂'.without "transactionId" = r₂.without "transactionId" ∧
          l₂₁.accounts = l₁₂.accounts ∧ ∀ id, l₂₁.balance id = l₁₂.balance id := by
  have hDistinct : (jarAndPurse.accounts.map (·.id)).Nodup := by decide
  -- both lines are run where they stand, and the second is refused for want of money
  obtain ⟨c₁, hRead₁, hPays₁, ha₁, r₁, m₁, hExecute₁, hSubmit₁, hSuccess₁, r₂, l₁₂, hSubmit₂,
      hSuccess₂⟩ :
      ∃ c₁, Command.read {} nextDay.today "account credit 5 --account Jar" = .ok c₁ ∧
        c₁.Pays .credit ∧ jarAndPurse.resolveAccount (paidAccount? c₁) = .ok
          { id := "j", name := "Jar", kind := .savings, ownerId := "m", currency := "USD" } ∧
        ∃ r₁ m₁, standard.execute nextDay c₁ jarAndPurse = .ok (r₁, m₁) ∧
          standard.submit nextDay "account credit 5 --account Jar" jarAndPurse = .ok (r₁, m₁) ∧
          r₁.success = true ∧
          ∃ r₂ l₁₂, standard.submit nextDay "account debit 25 --account Purse" m₁ =
            .ok (r₂, l₁₂) ∧ r₂.success = false :=
    ⟨_, rfl, ⟨rfl, rfl⟩, rfl, _, _, rfl, rfl, rfl, _, _, rfl, rfl⟩
  obtain ⟨c₂, hRead₂, hPays₂, ha₂⟩ :
      ∃ c₂, Command.read {} nextDay.today "account debit 25 --account Purse" = .ok c₂ ∧
        c₂.Pays .debit ∧ jarAndPurse.resolveAccount (paidAccount? c₂) = .ok
          { id := "p", name := "Purse", kind := .spending, ownerId := "m", currency := "USD" } :=
    ⟨_, rfl, ⟨rfl, rfl⟩, rfl⟩
  obtain ⟨hBalances, hExchanged⟩ := payments_apart hDistinct
  obtain ⟨a, amount, old, new, -, -, hOld, -, hNew, hTold, -⟩ :=
    hBalances nextDay .credit c₁ r₁ m₁ hPays₁ hExecute₁ hSuccess₁
  refine ⟨hDistinct, r₁, r₂, m₁, l₁₂, hSubmit₁, hSubmit₂, by simp [hSuccess₁, hSuccess₂],
    ⟨a.id, old, new, hOld, hNew, hTold⟩, ?_⟩
  refine hExchanged nextDay nextDay _ _ .credit .debit c₁ c₂ r₁ r₂ m₁ l₁₂ nextDay.stamp
    nextDay.stamp hRead₁ hPays₁ hRead₂ hPays₂ ?_ hSubmit₁ hSubmit₂
  intro a₁ a₂ h₁ h₂
  rw [← Except.ok.inj (ha₁.symm.trans h₁), ← Except.ok.inj (ha₂.symm.trans h₂)]
  decide

end Routes

end HomeLedger
