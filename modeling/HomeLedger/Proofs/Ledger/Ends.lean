import HomeLedger.Ledger.Booking

/-!
# HomeLedger — how bookings end

A booking on a ledger ends with a result, with a refusal, or with a fault.
`Booking.Ends` says what holds of the first two: it takes one statement for
the result and the ledger then, and one for the refusal and the ledger then.
After a fault there is nothing left to speak about.

There is one rule for each step that bookings are made of, and one for each
operation of the ledger. Every rule is an equivalence, so that a booking is
understood by rewriting with the rules of its steps in order, and no proof
about a handler has to open an operation again.
-/

namespace HomeLedger

namespace Booking

variable {α β : Type} {l : Ledger} {done : α → Ledger → Prop} {refused : Refusal → Ledger → Prop}

/-- A booking on `l` that has a result satisfies `done` with the ledger then,
and one that is refused satisfies `refused`. The ledger of a refusal is the one
at which it was refused, so it can be said that nothing was written before. -/
def Ends (b : Booking α) (l : Ledger) (done : α → Ledger → Prop)
    (refused : Refusal → Ledger → Prop) : Prop :=
  match b.run l with
  | .ok a l' => done a l'
  | .error (.refused why) l' => refused why l'
  | .error (.broken _) _ => True

-- ---------------------------------------------------------------------------
-- Reading an ending off a run
-- ---------------------------------------------------------------------------

theorem Ends.of_ok {b : Booking α} (h : b.Ends l done refused) {a : α} {l' : Ledger}
    (hRun : b.run l = .ok a l') : done a l' := by
  unfold Ends at h
  rwa [hRun] at h

theorem Ends.of_refused {b : Booking α} (h : b.Ends l done refused) {why : Refusal} {l' : Ledger}
    (hRun : b.run l = .error (.refused why) l') : refused why l' := by
  unfold Ends at h
  rwa [hRun] at h

-- ---------------------------------------------------------------------------
-- Steps
-- ---------------------------------------------------------------------------

theorem ends_pure {a : α} : (pure a : Booking α).Ends l done refused ↔ done a l := Iff.rfl

theorem ends_get {done : Ledger → Ledger → Prop} :
    (get : Booking Ledger).Ends l done refused ↔ done l l := Iff.rfl

theorem ends_modify {change : Ledger → Ledger} {done : Unit → Ledger → Prop} :
    (modify change : Booking Unit).Ends l done refused ↔ done () (change l) := Iff.rfl

theorem ends_refuse {why : Refusal} :
    (refuse why : Booking α).Ends l done refused ↔ refused why l := Iff.rfl

/-- A booking of two steps ends as its second step does on what the first has
left, or with the refusal of the first. This is the rule by which bookings are
taken apart. -/
theorem ends_bind {b : Booking β} {next : β → Booking α} :
    (b >>= next).Ends l done refused ↔
      b.Ends l (fun a l' => (next a).Ends l' done refused) refused := by
  show (match EStateM.bind b next l with
    | .ok a l' => done a l'
    | .error (.refused why) l' => refused why l'
    | .error (.broken _) _ => True) ↔ _
  unfold EStateM.bind Ends EStateM.run
  cases b l with
  | ok a l' => rfl
  | error stop l' => cases stop <;> rfl

theorem ends_found {why : Refusal} {o : Option α} :
    (found why o).Ends l done refused ↔
      (∀ a, o = some a → done a l) ∧ (o = none → refused why l) := by
  cases o with
  | none => simp [found, ends_refuse]
  | some a => simp [found, ends_pure]

theorem ends_allowed {e : Except Refusal α} :
    (allowed e).Ends l done refused ↔
      (∀ a, e = .ok a → done a l) ∧ (∀ why, e = .error why → refused why l) := by
  cases e with
  | error why => simp [allowed, ends_refuse]
  | ok a => simp [allowed, ends_pure]

/-- A result that may be broken is given, and a fault is not spoken about. -/
theorem ends_sound {e : Except Fault α} :
    (sound e).Ends l done refused ↔ ∀ a, e = .ok a → done a l := by
  cases e with
  | error fault =>
    refine ⟨fun _ a ha => ?_, fun _ => trivial⟩
    simp at ha
  | ok a => simp [sound, ends_pure]

theorem ends_ite {c : Prop} [Decidable c] {b b' : Booking α} :
    (if c then b else b').Ends l done refused ↔
      (c → b.Ends l done refused) ∧ (¬c → b'.Ends l done refused) := by
  by_cases hc : c <;> simp [hc]

-- ---------------------------------------------------------------------------
-- Runs
-- ---------------------------------------------------------------------------

/-- A booking goes on with the result of its first step. -/
theorem run_bind_of_ok {b : Booking β} {next : β → Booking α} {a : β} {l' : Ledger}
    (h : b.run l = .ok a l') : (b >>= next).run l = (next a).run l' := by
  show EStateM.bind b next l = next a l'
  rw [EStateM.run] at h
  rw [EStateM.bind, h]

/-- A booking ends with its first step if that ends early. -/
theorem run_bind_of_error {b : Booking β} {next : β → Booking α} {stop : Stop} {l' : Ledger}
    (h : b.run l = .error stop l') : (b >>= next).run l = .error stop l' := by
  show EStateM.bind b next l = .error stop l'
  rw [EStateM.run] at h
  rw [EStateM.bind, h]

theorem run_get : (get : Booking Ledger).run l = .ok l l := rfl

theorem run_allowed_of_ok {e : Except Refusal α} {a : α} (h : e = .ok a) :
    (allowed e).run l = .ok a l := by
  rw [h]
  rfl

theorem run_allowed_of_error {e : Except Refusal α} {why : Refusal} (h : e = .error why) :
    (allowed e).run l = .error (.refused why) l := by
  rw [h]
  rfl

end Booking

namespace Ledger

open Booking

variable {l : Ledger} {refused : Refusal → Ledger → Prop}

-- ---------------------------------------------------------------------------
-- Selections
-- ---------------------------------------------------------------------------

theorem ends_selectMember {query : String} {done : Member → Ledger → Prop} :
    (selectMember query).Ends l done refused ↔
      (∀ m, l.findMember? query = some m →
        done ((l.memberOfId? m.id).getD m) { l with selectedMember := some m.id }) ∧
      (l.findMember? query = none → refused (.noMember query) l) := by
  unfold selectMember
  simp only [ends_bind, ends_get, ends_found, ends_modify, ends_pure]
  rfl

theorem ends_selectAccount {query : String} {done : Account → Ledger → Prop} :
    (selectAccount query).Ends l done refused ↔
      (∀ a, l.findAccount? query = some a →
        done ((l.accountOfId? a.id).getD a) { l with selectedAccount := some a.id }) ∧
      (l.findAccount? query = none → refused (.noAccount query) l) := by
  unfold selectAccount
  simp only [ends_bind, ends_get, ends_found, ends_modify, ends_pure]
  rfl

-- ---------------------------------------------------------------------------
-- Accounts and money
-- ---------------------------------------------------------------------------

/-- A new account is appended if no account has the name, and nothing else is
written. -/
theorem ends_openAccount {id name ownerId currency : String} {kind : AccountKind}
    {done : Account → Ledger → Prop} :
    (openAccount id name kind ownerId currency).Ends l done refused ↔
      (l.findAccount? name = none →
        done { id, name, kind, ownerId, currency }
          { l with accounts := l.accounts ++ [{ id, name, kind, ownerId, currency }] }) ∧
      ((l.findAccount? name).isSome → refused (.accountExists name) l) := by
  unfold openAccount
  simp only [ends_bind, ends_get, ends_ite, ends_refuse, ends_modify, ends_pure]
  simp [and_comm]

/-- The transaction that a payment enters. -/
def entry (stamp : Stamp) (direction : Direction) (accountId : String) (amount : Decimal)
    (note : String) : Transaction :=
  { id := stamp.id, direction, amount, accountId, description := note, createdAt := stamp.time }

/-- The ledger with one more transaction. -/
def withEntry (l : Ledger) (t : Transaction) : Ledger :=
  { l with transactions := l.transactions ++ [t] }

theorem ends_post {stamp : Stamp} {direction : Direction} {accountId note : String}
    {amount : Decimal} {done : Transaction → Ledger → Prop} :
    (post stamp direction accountId amount note).Ends l done refused ↔
      done (entry stamp direction accountId amount note)
        (l.withEntry (entry stamp direction accountId amount note)) := by
  unfold post
  simp only [ends_bind, ends_modify, ends_pure]
  rfl

/-- A credit asks for nothing but a positive amount, and not even for the
account to be there. -/
theorem ends_credit {stamp : Stamp} {accountId note : String} {amount : Decimal}
    {done : Transaction → Ledger → Prop} :
    (credit stamp accountId amount note).Ends l done refused ↔
      (amount.isPositive = true →
        done (entry stamp .credit accountId amount note)
          (l.withEntry (entry stamp .credit accountId amount note))) ∧
      (amount.isPositive = false → refused .notPositive l) := by
  unfold credit
  simp only [ends_bind, ends_ite, ends_refuse, ends_post]
  simp [and_comm]

/-- A debit looks at four things before it writes: the amount, whether there is
such an account, what kind it is of, and what it holds. Each of them has its
refusal, and all come before the entry. -/
theorem ends_debit {stamp : Stamp} {accountId note : String} {amount : Decimal}
    {done : Transaction → Ledger → Prop} :
    (debit stamp accountId amount note).Ends l done refused ↔
      (amount.isPositive = false → refused .notPositive l) ∧
      (amount.isPositive = true →
        (l.accountOfId? accountId = none → refused .unknownAccount l) ∧
        ∀ a, l.accountOfId? accountId = some a →
          (a.kind.canDebit = false → refused (.cannotDebit a.kind) l) ∧
          (a.kind.canDebit = true → ∀ b, l.balance accountId = .ok b →
            (b.lt amount = true → refused (.insufficientFunds a.name) l) ∧
            (b.lt amount = false →
              done (entry stamp .debit accountId amount note)
                (l.withEntry (entry stamp .debit accountId amount note))))) := by
  unfold debit
  simp only [ends_bind, ends_get, ends_ite, ends_refuse, ends_found, ends_sound, ends_post,
    Bool.not_eq_true', Bool.not_eq_false]
  simp only [Bool.not_eq_true]
  constructor
  · rintro ⟨hNeg, hPos⟩
    exact ⟨hNeg, fun hp => ⟨(hPos hp).2, (hPos hp).1⟩⟩
  · rintro ⟨hNeg, hPos⟩
    exact ⟨hNeg, fun hp => ⟨(hPos hp).2, (hPos hp).1⟩⟩

-- ---------------------------------------------------------------------------
-- Lists and items
-- ---------------------------------------------------------------------------

theorem ends_createList {id name : String} {done : TodoList → Ledger → Prop} :
    (createList id name).Ends l done refused ↔
      (l.findList? name = none →
        done { id, name }
          { l with lists := l.lists ++ [{ id, name }], selectedList := some id }) ∧
      ((l.findList? name).isSome → refused (.listExists name) l) := by
  unfold createList
  simp only [ends_bind, ends_get, ends_ite, ends_refuse, ends_modify, ends_pure]
  simp [and_comm]

/-- The ledger with one of its lists changed. -/
def withList (l : Ledger) (i : Nat) (change : TodoList → TodoList) : Ledger :=
  { l with lists := l.lists.modify i change }

/-- A list with one more item. -/
def appendItem (item : Item) (list : TodoList) : TodoList :=
  { list with items := list.items ++ [item] }

/-- A list with one of its items changed. -/
def modifyItem (j : Nat) (change : Item → Item) (list : TodoList) : TodoList :=
  { list with items := list.items.modify j change }

/-- The position of the item that a text means. -/
def itemIndex? (list : TodoList) (text : String) : Option (Fin list.items.length) :=
  list.items.findFinIdx? fun item => Text.equalFold item.text (Text.trimmed text)

/-- An item is appended to the list that is meant, or there is no such list. -/
theorem ends_addItem {query : Option String} {item : Item} {done : TodoList → Ledger → Prop} :
    (addItem query item).Ends l done refused ↔
      (∀ i, l.resolveList query = .ok i →
        done (appendItem item (l.lists.get i)) (l.withList i (appendItem item))) ∧
      (∀ why, l.resolveList query = .error why → refused why l) := by
  unfold addItem changeList
  simp only [ends_bind, ends_get, ends_allowed, ends_modify, ends_pure]
  rfl

/-- An item is changed on the list that is meant, or there is no such list, or
no such item on it. -/
theorem ends_changeItem {query : Option String} {text : String} {change : Item → Item}
    {done : Item → Ledger → Prop} :
    (changeItem query text change).Ends l done refused ↔
      (∀ i, l.resolveList query = .ok i →
        (∀ j, itemIndex? (l.lists.get i) text = some j →
          done (change ((l.lists.get i).items.get j)) (l.withList i (modifyItem j change))) ∧
        (itemIndex? (l.lists.get i) text = none →
          refused (.noItem text (l.lists.get i).name) l)) ∧
      (∀ why, l.resolveList query = .error why → refused why l) := by
  unfold changeItem changeList
  simp only [ends_bind, ends_get, ends_allowed, ends_found, ends_modify, ends_pure]
  rfl

end Ledger

end HomeLedger
