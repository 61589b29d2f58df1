import HomeLedger.Proofs.Ledger.Renaming
import HomeLedger.Proofs.Ledger.Step

/-!
# HomeLedger — ids do not matter

What a ledger does must not depend on which ids were drawn: with other ids in
the same places it does the same, and what it answers has the other ids in it.

Two bookings mirror each other (`Booking.Mirrors`) if they end alike on a
ledger and on the renamed one. There is one rule for each step of a booking,
so that a handler mirrors itself if its steps do.

Main results:

* `mirrors_of_standard` — every handler of the household mirrors itself.
* `submit_renamed` — so a line is answered alike under any ids.
-/

namespace HomeLedger

open Text

variable {ρ : Renaming}

-- ---------------------------------------------------------------------------
-- Bookings that mirror each other
-- ---------------------------------------------------------------------------

namespace Booking

variable {α β γ δ : Type} {l : Ledger}

/-- Two bookings end alike, one on a ledger and the other on the renamed one:
both are stopped for the same reason, or their results satisfy `next`. Either
way the ledgers then are renamed ones again. So the ledgers can be taken for
each other from step to step. -/
def Mirrors (ρ : Renaming) (b : Booking α) (b' : Booking β) (l : Ledger)
    (next : α → β → Ledger → Prop) : Prop :=
  match b.run l, b'.run (l.renamed ρ) with
  | .ok a m, .ok a' m' => m' = m.renamed ρ ∧ next a a' m
  | .error stop m, .error stop' m' => stop' = stop ∧ m' = m.renamed ρ
  | _, _ => False

variable {next : α → β → Ledger → Prop}

theorem mirrors_pure {a : α} {a' : β} (h : next a a' l) :
    (pure a : Booking α).Mirrors ρ (pure a' : Booking β) l next := ⟨rfl, h⟩

theorem mirrors_get {next : Ledger → Ledger → Ledger → Prop} (h : next l (l.renamed ρ) l) :
    (get : Booking Ledger).Mirrors ρ (get : Booking Ledger) l next := ⟨rfl, h⟩

theorem mirrors_modify {change change' : Ledger → Ledger} {next : Unit → Unit → Ledger → Prop}
    (hChange : change' (l.renamed ρ) = (change l).renamed ρ) (h : next () () (change l)) :
    (modify change : Booking Unit).Mirrors ρ (modify change' : Booking Unit) l next := ⟨hChange, h⟩

/-- Two refusals for the same reason end alike, and nothing has changed. -/
theorem mirrors_refuse {why : Refusal} :
    (refuse why : Booking α).Mirrors ρ (refuse why : Booking β) l next := ⟨rfl, rfl⟩

/-- Bookings of two steps end alike if the first steps do and the second ones do
on what those leave. -/
theorem mirrors_bind {b : Booking γ} {b' : Booking δ} {k : γ → Booking α} {k' : δ → Booking β}
    (h : b.Mirrors ρ b' l fun c c' m => (k c).Mirrors ρ (k' c') m next) :
    (b >>= k).Mirrors ρ (b' >>= k') l next := by
  show (match EStateM.bind b k l, EStateM.bind b' k' (l.renamed ρ) with
    | .ok a m, .ok a' m' => m' = m.renamed ρ ∧ next a a' m
    | .error stop m, .error stop' m' => stop' = stop ∧ m' = m.renamed ρ
    | _, _ => False)
  unfold Mirrors EStateM.run at h
  unfold EStateM.bind
  cases hb : b l <;> cases hb' : b' (l.renamed ρ) <;> simp only [hb, hb'] at h ⊢
  · obtain ⟨rfl, h⟩ := h
    exact h
  · exact h

/-- What is looked up under other ids is what was found, with the other ids. -/
theorem mirrors_found {why : Refusal} {o : Option α} {f : α → β}
    (h : ∀ a, o = some a → next a (f a) l) :
    (found why o).Mirrors ρ (found why (o.map f)) l next := by
  cases o with
  | none => exact mirrors_refuse
  | some a => exact mirrors_pure (h a rfl)

/-- A refusal has no ids in it, so it is the same one. -/
theorem mirrors_allowed {e : Except Refusal α} {f : α → β} (h : ∀ a, e = .ok a → next a (f a) l) :
    (allowed e).Mirrors ρ (allowed (e.map f)) l next := by
  cases e with
  | error why => exact mirrors_refuse
  | ok a => exact mirrors_pure (h a rfl)

/-- What does not depend on ids is the same in both. -/
theorem mirrors_found_same {why : Refusal} {o : Option α} {next : α → α → Ledger → Prop}
    (h : ∀ a, o = some a → next a a l) : (found why o).Mirrors ρ (found why o) l next := by
  cases o with
  | none => exact mirrors_refuse
  | some a => exact mirrors_pure (h a rfl)

theorem mirrors_allowed_same {e : Except Refusal α} {next : α → α → Ledger → Prop}
    (h : ∀ a, e = .ok a → next a a l) : (allowed e).Mirrors ρ (allowed e) l next := by
  cases e with
  | error why => exact mirrors_refuse
  | ok a => exact mirrors_pure (h a rfl)

/-- A result that may be broken is the same in both, for a fault has no ids in it
either. -/
theorem mirrors_sound {e : Except Fault α} {next : α → α → Ledger → Prop}
    (h : ∀ a, e = .ok a → next a a l) : (sound e).Mirrors ρ (sound e) l next := by
  cases e with
  | error fault => exact ⟨rfl, rfl⟩
  | ok a => exact mirrors_pure (h a rfl)

theorem mirrors_ite {c : Prop} [Decidable c] {b₁ b₂ : Booking α} {b₁' b₂' : Booking β}
    (h₁ : c → b₁.Mirrors ρ b₁' l next) (h₂ : ¬c → b₂.Mirrors ρ b₂' l next) :
    (if c then b₁ else b₂).Mirrors ρ (if c then b₁' else b₂') l next := by
  by_cases hc : c
  · simpa [hc] using h₁ hc
  · simpa [hc] using h₂ hc

/-- A step whose results differ by their ids. Most steps of handlers are of this
form, and the rest of the booking then gets the renamed result. -/
theorem Mirrors.bind {b : Booking γ} {b' : Booking δ} {k : γ → Booking α} {k' : δ → Booking β}
    {f : γ → δ} (hb : b.Mirrors ρ b' l fun c c' _ => c' = f c)
    (h : ∀ c m, (k c).Mirrors ρ (k' (f c)) m next) :
    (b >>= k).Mirrors ρ (b' >>= k') l next := by
  refine mirrors_bind ?_
  unfold Mirrors at hb ⊢
  split at hb
  · obtain ⟨hm, rfl⟩ := hb
    exact ⟨hm, h _ _⟩
  · exact hb
  · exact hb.elim

end Booking

-- ---------------------------------------------------------------------------
-- Operations
-- ---------------------------------------------------------------------------

namespace Ledger

open Booking

variable {l : Ledger}

/-- Who is selected by a text that the renaming keeps is the same member. -/
theorem mirrors_selectMember {query : String} (h : Keeps ρ query) :
    (selectMember query).Mirrors ρ (selectMember query) l fun m m' _ => m' = m.renamed ρ := by
  unfold selectMember
  refine mirrors_bind (mirrors_get ?_)
  rw [findMember?_renamed h]
  refine mirrors_bind (mirrors_found fun m _ => ?_)
  refine mirrors_bind (mirrors_modify rfl ?_)
  refine mirrors_bind (mirrors_get (mirrors_pure ?_))
  rw [Member.id_renamed, memberOfId?_renamed, Option.getD_map]

theorem mirrors_selectAccount {query : String} (h : Keeps ρ query) :
    (selectAccount query).Mirrors ρ (selectAccount query) l fun a a' _ => a' = a.renamed ρ := by
  unfold selectAccount
  refine mirrors_bind (mirrors_get ?_)
  rw [findAccount?_renamed h]
  refine mirrors_bind (mirrors_found fun a _ => ?_)
  refine mirrors_bind (mirrors_modify rfl ?_)
  refine mirrors_bind (mirrors_get (mirrors_pure ?_))
  rw [Account.id_renamed, accountOfId?_renamed, Option.getD_map]

/-- An account of such a name is opened under both ids, or under neither. -/
theorem mirrors_openAccount {id name ownerId currency : String} {kind : AccountKind}
    (h : Keeps ρ name) :
    (openAccount id name kind ownerId currency).Mirrors ρ
      (openAccount (ρ id) name kind (ρ ownerId) currency) l fun a a' _ => a' = a.renamed ρ := by
  unfold openAccount
  refine mirrors_bind (mirrors_get ?_)
  rw [findAccount?_renamed h, Option.isSome_map]
  refine mirrors_ite (fun _ => mirrors_bind mirrors_refuse) fun _ => ?_
  refine mirrors_bind (mirrors_modify ?_ (mirrors_pure rfl))
  simp only [renamed, List.map_append, List.map_singleton]
  rfl

theorem mirrors_post (stamp : Stamp) (direction : Direction) (accountId : String)
    (amount : Decimal) (note : String) :
    (post stamp direction accountId amount note).Mirrors ρ
      (post (stamp.renamed ρ) direction (ρ accountId) amount note) l
        fun t t' _ => t' = t.renamed ρ := by
  unfold post
  refine mirrors_bind (mirrors_modify ?_ (mirrors_pure rfl))
  exact withEntry_renamed (entry stamp direction accountId amount note)

/-- A credit checks the amount, in which there are no ids. -/
theorem mirrors_credit (stamp : Stamp) (accountId : String) (amount : Decimal) (note : String) :
    (credit stamp accountId amount note).Mirrors ρ
      (credit (stamp.renamed ρ) (ρ accountId) amount note) l fun t t' _ => t' = t.renamed ρ := by
  unfold credit
  refine mirrors_ite (fun _ => mirrors_bind mirrors_refuse) fun _ => ?_
  exact mirrors_post stamp .credit accountId amount note

/-- A debit looks up the account and its balance, which are the same under any
ids. -/
theorem mirrors_debit (stamp : Stamp) (accountId : String) (amount : Decimal) (note : String) :
    (debit stamp accountId amount note).Mirrors ρ
      (debit (stamp.renamed ρ) (ρ accountId) amount note) l fun t t' _ => t' = t.renamed ρ := by
  unfold debit
  refine mirrors_ite (fun _ => mirrors_bind mirrors_refuse) fun _ => ?_
  refine mirrors_bind (mirrors_get ?_)
  rw [accountOfId?_renamed]
  refine mirrors_bind (mirrors_found fun a _ => ?_)
  refine mirrors_ite (fun _ => mirrors_bind mirrors_refuse) fun _ => ?_
  refine mirrors_bind (mirrors_get ?_)
  rw [balance_renamed]
  refine mirrors_bind (mirrors_sound fun b _ => ?_)
  refine mirrors_ite (fun _ => mirrors_bind mirrors_refuse) fun _ => ?_
  exact mirrors_post stamp .debit accountId amount note

/-- A list of such a name is made under both ids, or under neither. -/
theorem mirrors_createList {id name : String} (h : Keeps ρ name) :
    (createList id name).Mirrors ρ (createList (ρ id) name) l
      fun list list' _ => list' = list.renamed ρ := by
  unfold createList
  refine mirrors_bind (mirrors_get ?_)
  rw [findList?_renamed h, Option.isSome_map]
  refine mirrors_ite (fun _ => mirrors_bind mirrors_refuse) fun _ => ?_
  refine mirrors_bind (mirrors_modify ?_ (mirrors_pure rfl))
  simp only [renamed, List.map_append, List.map_singleton]
  rfl

theorem appendItem_renamed (item : Item) (list : TodoList) :
    appendItem (item.renamed ρ) (list.renamed ρ) = (appendItem item list).renamed ρ := by
  simp only [appendItem, TodoList.renamed, List.map_append, List.map_singleton]

theorem mirrors_addItem {query : Option String} (h : ∀ q, query = some q → Keeps ρ q)
    (item : Item) : (addItem query item).Mirrors ρ (addItem query (item.renamed ρ)) l
      fun list list' _ => list' = list.renamed ρ := by
  unfold addItem changeList
  refine mirrors_bind (mirrors_get ?_)
  rw [resolveList_renamed h]
  refine mirrors_bind (mirrors_allowed fun i _ => ?_)
  refine mirrors_bind (mirrors_modify ?_ (mirrors_pure ?_))
  · exact withList_renamed (appendItem_renamed item) i
  · exact (congrArg (appendItem (item.renamed ρ)) (get_lists_renamed i)).trans
      (appendItem_renamed item _)

/-- The item that a text means is at the same place. Items are not meant by
their ids, so nothing has to be kept. -/
theorem itemIndex?_renamed (list : TodoList) (text : String) :
    itemIndex? (list.renamed ρ) text =
      (itemIndex? list text).map (Fin.cast (List.length_map (Item.renamed ρ)).symm) :=
  findFinIdx?_map (Item.renamed ρ) _ list.items

theorem modifyItem_renamed {change : Item → Item}
    (h : ∀ item, change (item.renamed ρ) = (change item).renamed ρ) (j : Nat) (list : TodoList) :
    modifyItem j change (list.renamed ρ) = (modifyItem j change list).renamed ρ := by
  simp only [modifyItem, TodoList.renamed, modify_map h]

/-- Changes an item of a list that has been found at a place. -/
def changeItemAt (i : Nat) (list : TodoList) (text : String) (change : Item → Item) :
    Booking Item := do
  let j ← found (.noItem text list.name) (itemIndex? list text)
  changeList i (modifyItem j change)
  return change (list.items.get j)

theorem changeItem_eq (query : Option String) (text : String) (change : Item → Item) :
    changeItem query text change = (do
      let l ← get
      let i ← allowed (l.resolveList query)
      changeItemAt i (l.lists.get i) text change) := rfl

theorem mirrors_changeItem {query : Option String} (hQuery : ∀ q, query = some q → Keeps ρ q)
    (text : String) {change : Item → Item}
    (h : ∀ item, change (item.renamed ρ) = (change item).renamed ρ) :
    (changeItem query text change).Mirrors ρ (changeItem query text change) l
      fun item item' _ => item' = item.renamed ρ := by
  rw [changeItem_eq]
  refine mirrors_bind (mirrors_get ?_)
  rw [resolveList_renamed hQuery]
  refine mirrors_bind (mirrors_allowed fun i _ => ?_)
  rw [get_lists_renamed]
  unfold changeItemAt changeList
  rw [itemIndex?_renamed]
  refine mirrors_bind (mirrors_found fun j _ => ?_)
  refine mirrors_bind (mirrors_modify ?_ (mirrors_pure ?_))
  · exact withList_renamed (modifyItem_renamed h j) i
  · exact (congrArg change (List.getElem_map _)).trans (h _)

end Ledger

-- ---------------------------------------------------------------------------
-- Commands
-- ---------------------------------------------------------------------------

/-- A renaming leaves alone every text in a command. Otherwise a text that
happens to be an id could mean something else. -/
def Command.KeptBy (c : Command) (ρ : Renaming) : Prop :=
  ∀ p ∈ c.parameters, ∀ t, p.text? = some t → Keeps ρ t

namespace Command.KeptBy

variable {c : Command}

theorem namedText (h : c.KeptBy ρ) (name : String) :
    ∀ t, c.namedText? name = some t → Keeps ρ t := by
  intro t ht
  obtain ⟨p, hp, ht⟩ := Option.bind_eq_some_iff.mp ht
  exact h p (List.mem_of_find?_eq_some hp) t ht

theorem firstText (h : c.KeptBy ρ) (kind : Kind) :
    ∀ t, (c.firstOf? kind).bind (·.text?) = some t → Keeps ρ t := by
  intro t ht
  obtain ⟨p, hp, ht⟩ := Option.bind_eq_some_iff.mp ht
  rw [firstOf?, Option.orElse_eq_orElse, Option.orElse_eq_or, Option.or_eq_some_iff] at hp
  rcases hp with hp | ⟨-, hp⟩ <;> exact h p (List.mem_of_find?_eq_some hp) t ht

theorem orElse {o o' : Option String} (ho : ∀ t, o = some t → Keeps ρ t)
    (ho' : ∀ t, o' = some t → Keeps ρ t) : ∀ t, (o <|> o') = some t → Keeps ρ t := by
  intro t ht
  rw [Option.orElse_eq_orElse, Option.orElse_eq_or, Option.or_eq_some_iff] at ht
  rcases ht with ht | ⟨-, ht⟩
  · exact ho t ht
  · exact ho' t ht

theorem target (h : c.KeptBy ρ) (flag : String) (kind : Kind) :
    ∀ t, c.target? flag kind = some t → Keeps ρ t := by
  refine orElse (h.namedText flag) (orElse (h.firstText kind) ?_)
  intro t ht
  obtain ⟨p, hp, ht⟩ := Option.bind_eq_some_iff.mp ht
  exact h p (List.mem_filter.mp (List.mem_of_head? hp)).1 t ht

theorem requiredText (h : c.KeptBy ρ) : ∀ t, c.requiredText = .ok t → Keeps ρ t := by
  intro t ht
  unfold Command.requiredText at ht
  split at ht
  · next s hs =>
    split at ht
    · simp at ht
    · obtain rfl := Except.ok.inj ht
      exact h.firstText .text _ hs
  · simp at ht

end Command.KeptBy

-- ---------------------------------------------------------------------------
-- Handlers
-- ---------------------------------------------------------------------------

namespace Handler

open Booking Ledger

@[simp] theorem itemLine_renamed (f : Formatting) (item : Item) :
    itemLine f (item.renamed ρ) = itemLine f item := rfl

@[simp] theorem memberLine_renamed (m : Member) : memberLine (m.renamed ρ) = memberLine m := rfl

/-- A handler answers alike under any ids that a command does not name. The
answer may hold ids, and these are the renamed ones. -/
def MirrorsItself (h : Handler) : Prop :=
  ∀ (ρ : Renaming) (s : Setting) (c : Command) (l : Ledger), c.KeptBy ρ →
    (h s c).Mirrors ρ (h (s.renamed ρ) c) l fun r r' _ => r' = r.renamed ρ

theorem mirrors_accountBalance : MirrorsItself accountBalance := by
  intro ρ s c l hc
  unfold accountBalance
  refine mirrors_bind (mirrors_get ?_)
  rw [resolveAccount_renamed (hc.target _ _)]
  refine mirrors_bind (mirrors_allowed fun a _ => ?_)
  rw [Account.id_renamed, balance_renamed]
  refine mirrors_bind (mirrors_sound fun b _ => ?_)
  refine mirrors_bind (mirrors_sound fun shown _ => mirrors_pure ?_)
  simp [idKeys]

theorem activeAccounts_renamed (l : Ledger) : (l.renamed ρ).accounts.filter (·.isActive) =
    (l.accounts.filter (·.isActive)).map (Account.renamed ρ) := List.filter_map

theorem accountRow_renamed (f : Formatting) (l : Ledger) (a : Account) :
    accountRow f (l.renamed ρ) (a.renamed ρ) = accountRow f l a := by
  rw [accountRow, Account.id_renamed, balance_renamed, accountRow]
  rfl

theorem mirrors_accountList : MirrorsItself accountList := by
  intro ρ s c l hc
  have hRows : accountRow s.formatting (l.renamed ρ) ∘ Account.renamed ρ =
      accountRow s.formatting l := funext (accountRow_renamed s.formatting l)
  unfold accountList
  refine mirrors_bind (mirrors_get ?_)
  rw [activeAccounts_renamed]
  cases l.accounts.filter (·.isActive) with
  | nil => exact mirrors_pure rfl
  | cons a as =>
    show Mirrors ρ (sound ((a :: as).mapM (accountRow s.formatting l)) >>= _)
      (sound (((a :: as).map (Account.renamed ρ)).mapM
        (accountRow s.formatting (l.renamed ρ))) >>= _) l _
    rw [List.mapM_map, hRows]
    refine mirrors_bind (mirrors_sound fun rows _ => mirrors_pure ?_)
    simp

/-- A payment mirrors itself. Its answer names the id of the transaction, which
is that of the stamp. -/
theorem mirrors_moveMoney (direction : Direction) : MirrorsItself (moveMoney direction) := by
  intro ρ s c l hc
  unfold moveMoney
  refine mirrors_bind (mirrors_found_same fun amount _ => ?_)
  refine mirrors_bind (mirrors_get ?_)
  rw [resolveAccount_renamed (Command.KeptBy.orElse (hc.namedText _) (hc.firstText _))]
  refine mirrors_bind (mirrors_allowed fun a _ => ?_)
  cases direction
  case' credit => refine Mirrors.bind (mirrors_credit s.stamp a.id amount _) fun t m => ?_
  case' debit => refine Mirrors.bind (mirrors_debit s.stamp a.id amount _) fun t m => ?_
  -- what follows the payment is the same in both directions
  all_goals
    refine mirrors_bind (mirrors_get ?_)
    rw [Account.id_renamed, balance_renamed]
    refine mirrors_bind (mirrors_sound fun b _ => ?_)
    refine mirrors_bind (mirrors_sound fun shown _ => mirrors_pure ?_)
    simp [idKeys]

/-- The owner of a new account is looked up by a text that is kept. -/
theorem askedOwner_renamed {c : Command} (hc : c.KeptBy ρ) (l : Ledger) :
    askedOwner (l.renamed ρ) c = (askedOwner l c).map (Member.renamed ρ) := by
  unfold askedOwner
  have hQuery := Command.KeptBy.orElse (hc.namedText "owner") (hc.namedText "member")
  cases h : c.namedText? "owner" <|> c.namedText? "member" with
  | some query =>
    simp only [findMember?_renamed (hQuery query h)]
    cases l.findMember? query <;> rfl
  | none =>
    have hFirst : ((l.renamed ρ).currentMember? <|> (l.renamed ρ).members.head?) =
        (l.currentMember? <|> l.members.head?).map (Member.renamed ρ) := by
      rw [currentMember?_renamed, show (l.renamed ρ).members.head? =
        l.members.head?.map (Member.renamed ρ) from List.head?_map]
      cases l.currentMember? <;> rfl
    simp only [hFirst]
    cases (l.currentMember? <|> l.members.head?) <;> rfl

/-- The owner's id stands in the new account, and is the renamed one. -/
theorem mirrors_accountNew : MirrorsItself accountNew := by
  intro ρ s c l hc
  unfold accountNew
  refine mirrors_bind (mirrors_allowed_same fun name hName => ?_)
  refine mirrors_bind (mirrors_allowed_same fun kind _ => ?_)
  refine mirrors_bind (mirrors_get ?_)
  rw [askedOwner_renamed hc]
  refine mirrors_bind (mirrors_allowed fun owner _ => ?_)
  refine Mirrors.bind (mirrors_openAccount (hc.requiredText name hName)) fun a m => ?_
  refine mirrors_pure ?_
  simp [idKeys]

theorem mirrors_accountSelect : MirrorsItself accountSelect := by
  intro ρ s c l hc
  unfold accountSelect
  refine mirrors_bind (mirrors_found_same fun query hQuery => ?_)
  refine Mirrors.bind (mirrors_selectAccount (hc.target _ _ query hQuery)) fun a m => ?_
  refine mirrors_pure ?_
  simp [idKeys]

theorem mirrors_listList : MirrorsItself listList := by
  intro ρ s c l hc
  unfold listList
  refine mirrors_bind (mirrors_get ?_)
  rw [show (l.renamed ρ).lists = l.lists.map (TodoList.renamed ρ) from rfl]
  cases l.lists with
  | nil => exact mirrors_pure rfl
  | cons list lists =>
    refine mirrors_pure ?_
    simp [texts, Function.comp_def]

theorem mirrors_listShow : MirrorsItself listShow := by
  intro ρ s c l hc
  unfold listShow
  refine mirrors_bind (mirrors_get ?_)
  rw [resolveList_renamed (hc.target _ _)]
  refine mirrors_bind (mirrors_allowed fun i _ => mirrors_pure ?_)
  rw [get_lists_renamed]
  simp [texts, idKeys, Function.comp_def]

theorem mirrors_listCreate : MirrorsItself listCreate := by
  intro ρ s c l hc
  unfold listCreate
  refine mirrors_bind (mirrors_allowed_same fun name hName => ?_)
  refine Mirrors.bind (mirrors_createList (hc.requiredText name hName)) fun list m => ?_
  refine mirrors_pure ?_
  simp [idKeys]

theorem mirrors_itemAdd : MirrorsItself itemAdd := by
  intro ρ s c l hc
  unfold itemAdd
  refine mirrors_bind (mirrors_allowed_same fun text _ => ?_)
  refine mirrors_bind (mirrors_allowed_same fun due _ => ?_)
  refine Mirrors.bind (mirrors_addItem (hc.namedText _) _) fun list m => ?_
  refine mirrors_pure ?_
  simp [idKeys]

theorem mirrors_itemComplete : MirrorsItself itemComplete := by
  intro ρ s c l hc
  unfold itemComplete completeItem
  refine mirrors_bind (mirrors_found_same fun text _ => ?_)
  refine Mirrors.bind (mirrors_changeItem (hc.namedText _) text fun _ => rfl) fun item m => ?_
  refine mirrors_pure ?_
  simp [idKeys]

theorem mirrors_itemDue : MirrorsItself itemDue := by
  intro ρ s c l hc
  unfold itemDue setItemDue
  refine mirrors_bind (mirrors_found_same fun due _ => ?_)
  refine mirrors_bind (mirrors_found_same fun text _ => ?_)
  refine Mirrors.bind (mirrors_changeItem (hc.namedText _) text fun _ => rfl) fun item m => ?_
  refine mirrors_pure ?_
  simp [idKeys]

theorem mirrors_itemOccurs : MirrorsItself itemOccurs := by
  intro ρ s c l hc
  unfold itemOccurs setItemSchedule
  refine mirrors_bind (mirrors_allowed_same fun schedule _ => ?_)
  refine mirrors_bind (mirrors_found_same fun text _ => ?_)
  refine Mirrors.bind (mirrors_changeItem (hc.namedText _) text fun _ => rfl) fun item m => ?_
  refine mirrors_pure ?_
  simp [idKeys]

theorem mirrors_itemList : MirrorsItself itemList := by
  intro ρ s c l hc
  unfold itemList
  refine mirrors_bind (mirrors_get ?_)
  rw [resolveList_renamed (hc.namedText _)]
  refine mirrors_bind (mirrors_allowed fun i _ => ?_)
  rw [get_lists_renamed]
  have hItems : (if c.hasFlag "all" then ((l.lists.get i).renamed ρ).items
      else ((l.lists.get i).renamed ρ).openItems) =
        (if c.hasFlag "all" then (l.lists.get i).items
          else (l.lists.get i).openItems).map (Item.renamed ρ) := by
    split <;> simp
  simp only [hItems]
  cases (if c.hasFlag "all" then (l.lists.get i).items else (l.lists.get i).openItems) with
  | nil => exact mirrors_pure (by simp [texts])
  | cons item items => exact mirrors_pure (by simp [texts, idKeys, Function.comp_def])

/-- A member is asked for by a text that is kept, or is the one that is
selected. -/
theorem askedMember_renamed {c : Command} (hc : c.KeptBy ρ) (l : Ledger) (unnamed : Refusal) :
    askedMember (l.renamed ρ) c unnamed = (askedMember l c unnamed).map (Member.renamed ρ) := by
  unfold askedMember
  cases h : c.target? "member" .member with
  | some query =>
    simp only [findMember?_renamed (hc.target _ _ query h)]
    cases l.findMember? query <;> rfl
  | none =>
    simp only [currentMember?_renamed]
    cases l.currentMember? <;> rfl

theorem activeMembers_renamed (l : Ledger) : (l.renamed ρ).members.filter (·.isActive) =
    (l.members.filter (·.isActive)).map (Member.renamed ρ) := List.filter_map

theorem mirrors_memberList : MirrorsItself memberList := by
  intro ρ s c l hc
  unfold memberList
  refine mirrors_bind (mirrors_get ?_)
  rw [activeMembers_renamed]
  cases l.members.filter (·.isActive) with
  | nil => exact mirrors_pure rfl
  | cons m ms =>
    refine mirrors_pure ?_
    simp [Function.comp_def]

theorem mirrors_memberShow : MirrorsItself memberShow := by
  intro ρ s c l hc
  unfold memberShow
  refine mirrors_bind (mirrors_get ?_)
  rw [askedMember_renamed hc]
  refine mirrors_bind (mirrors_allowed fun m _ => ?_)
  rw [Member.id_renamed, accountsOf_renamed]
  -- a line of the answer holds the name and the balance of an account, and not its id
  have hLine : (fun a : Account => do
      let balance ← (l.renamed ρ).balance a.id
      let shown ← s.formatting.currency balance
      return s!"  {a.name}: {shown}") ∘ Account.renamed ρ = fun a : Account => do
        let balance ← l.balance a.id
        let shown ← s.formatting.currency balance
        return s!"  {a.name}: {shown}" := by
    funext a
    simp only [Function.comp_apply, Account.id_renamed, balance_renamed, Account.name_renamed]
  simp only [Setting.formatting_renamed]
  rw [List.mapM_map, hLine]
  refine mirrors_bind (mirrors_sound fun lines _ => mirrors_pure ?_)
  simp [idKeys]

/-- Selecting a member mirrors itself, as the operation does. -/
theorem mirrors_memberSelect : MirrorsItself memberSelect := by
  intro ρ s c l hc
  unfold memberSelect
  refine mirrors_bind (mirrors_found_same fun query hQuery => ?_)
  refine Mirrors.bind (mirrors_selectMember (hc.target _ _ query hQuery)) fun m l' => ?_
  refine mirrors_pure ?_
  simp [idKeys]

theorem mirrors_memberBalance : MirrorsItself Handler.memberBalance := by
  intro ρ s c l hc
  unfold Handler.memberBalance
  refine mirrors_bind (mirrors_get ?_)
  rw [askedMember_renamed hc]
  refine mirrors_bind (mirrors_allowed fun m _ => ?_)
  rw [Member.id_renamed, memberBalance_renamed]
  refine mirrors_bind (mirrors_sound fun total _ => ?_)
  refine mirrors_bind (mirrors_sound fun shown _ => mirrors_pure ?_)
  simp [idKeys]

end Handler

-- ---------------------------------------------------------------------------
-- Lines
-- ---------------------------------------------------------------------------

namespace Routes

open Booking Handler

variable {s : Setting} {l : Ledger}

/-- Every handler of the household mirrors itself. -/
theorem mirrors_of_standard {subject : Subject} {action : Action} {handler : Handler}
    (h : standard subject action = some handler) : MirrorsItself handler := by
  unfold standard at h
  -- one case for each route, in the order of the table
  split at h <;> cases h
  · exact mirrors_accountBalance
  · exact mirrors_moveMoney .credit
  · exact mirrors_moveMoney .debit
  · exact mirrors_accountNew
  · exact mirrors_accountSelect
  · exact mirrors_accountList
  · exact mirrors_listList
  · exact mirrors_listShow
  · exact mirrors_listCreate
  · exact mirrors_listCreate
  · exact mirrors_itemAdd
  · exact mirrors_memberList
  · exact mirrors_memberShow
  · exact mirrors_memberSelect
  · exact mirrors_memberBalance
  · exact mirrors_itemAdd
  · exact mirrors_itemComplete
  · exact mirrors_itemDue
  · exact mirrors_itemOccurs
  · exact mirrors_itemList

/-- An answer and the ledger then, with other ids. -/
def renamedAnswer (ρ : Renaming) (answer : Response × Ledger) : Response × Ledger :=
  (answer.1.renamed ρ, answer.2.renamed ρ)

/-- A command is answered alike under any ids that it does not name, be it with
a success, a refusal or a fault. -/
theorem execute_renamed {c : Command} (hc : c.KeptBy ρ) :
    standard.execute (s.renamed ρ) c (l.renamed ρ) =
      (standard.execute s c l).map (renamedAnswer ρ) := by
  unfold execute
  cases hRoute : standard c.subject c.action with
  | none => rfl
  | some handler =>
    have hMirrors := mirrors_of_standard hRoute ρ s c l hc
    unfold Mirrors at hMirrors
    simp only
    split at hMirrors
    · next hRun hRun' =>
      obtain ⟨rfl, rfl⟩ := hMirrors
      rw [hRun, hRun']
      rfl
    · next stop _ hRun hRun' =>
      obtain ⟨rfl, rfl⟩ := hMirrors
      rw [hRun, hRun']
      cases stop <;> rfl
    · exact hMirrors.elim

/-- A line is answered alike under any ids that it does not name. Reading it
knows nothing of ids. -/
theorem submit_renamed {line : String}
    (h : ∀ c, Command.read s.formatting s.today line = .ok c → c.KeptBy ρ) :
    standard.submit (s.renamed ρ) line (l.renamed ρ) =
      (standard.submit s line l).map (renamedAnswer ρ) := by
  unfold submit
  rw [show (s.renamed ρ).today = s.today from rfl, Setting.formatting_renamed]
  cases hRead : Command.read s.formatting s.today line with
  | error problem => rfl
  | ok c =>
    by_cases hProblems : c.problems.isEmpty = true
    · simp only [hProblems, if_true]
      exact execute_renamed (h c hRead)
    · simp only [hProblems, Bool.false_eq_true, if_false]
      rfl

end Routes

end HomeLedger
