import HomeLedger.Proofs.Ledger.Effect

/-!
# HomeLedger — what a line does to the ledger

A line that succeeds does one thing to the ledger, or nothing. `Ledger.Step`
is the list of these things, each with what has been looked at before it was
done. A line that fails does nothing at all.

Handlers are many, but they share one law (`Handler.Books`): a result is a
success, the ledger has taken a step, and the step is what the command is for
(`Ledger.Effect`); a refusal comes before the first change. What is said of
all lines is then proved by cases on the step or on the effect, and no later
proof looks at a handler.

Main results:

* `books_of_standard` — every handler of the household keeps the law.
* `execute_standard` / `submit_standard` — so does every command and line.
* `effect_of_execute` — a command that succeeds does what it is for.
* `run_append` — a run of lines is made up of runs.
-/

namespace HomeLedger

-- ---------------------------------------------------------------------------
-- Steps
-- ---------------------------------------------------------------------------

namespace Ledger

/-- What a command may do to a ledger. New entries have the id of the command's
stamp. Each case holds what was looked at before the change, so that no proof
has to go back to the handler. -/
inductive Step (stamp : Stamp) (l : Ledger) : Ledger → Prop
  | kept : Step stamp l l
  | memberSelected (m : Member) (hMember : m ∈ l.members) :
      Step stamp l { l with selectedMember := some m.id }
  | accountSelected (a : Account) (hAccount : a ∈ l.accounts) :
      Step stamp l { l with selectedAccount := some a.id }
  | accountOpened (a : Account) (hId : a.id = stamp.id) (hName : l.findAccount? a.name = none)
      (hOwner : ∃ m ∈ l.members, m.id = a.ownerId) :
      Step stamp l { l with accounts := l.accounts ++ [a] }
  | credited (a : Account) (amount new : Decimal) (note : String) (hAccount : a ∈ l.accounts)
      (hPositive : amount.isPositive = true)
      (hNew : (l.withEntry (entry stamp .credit a.id amount note)).balance a.id = .ok new) :
      Step stamp l (l.withEntry (entry stamp .credit a.id amount note))
  | debited (a : Account) (amount old new : Decimal) (note : String)
      (hAccount : l.accountOfId? a.id = some a) (hPositive : amount.isPositive = true)
      (hKind : a.kind.canDebit = true) (hOld : l.balance a.id = .ok old)
      (hFunds : old.lt amount = false)
      (hNew : (l.withEntry (entry stamp .debit a.id amount note)).balance a.id = .ok new) :
      Step stamp l (l.withEntry (entry stamp .debit a.id amount note))
  | listCreated (list : TodoList) (hId : list.id = stamp.id)
      (hName : l.findList? list.name = none) (hItems : list.items = []) :
      Step stamp l { l with lists := l.lists ++ [list], selectedList := some list.id }
  | itemAdded (i : Fin l.lists.length) (item : Item) (hId : item.id = stamp.id) :
      Step stamp l (l.withList i (appendItem item))
  | itemChanged (i : Fin l.lists.length) (j : Nat) (change : Item → Item)
      (hKept : ∀ item, (change item).id = item.id ∧ (change item).text = item.text) :
      Step stamp l (l.withList i (modifyItem j change))

theorem mem_of_findMember? {l : Ledger} {query : String} {m : Member}
    (h : l.findMember? query = some m) : m ∈ l.members :=
  List.mem_of_find?_eq_some h

theorem mem_of_findAccount? {l : Ledger} {query : String} {a : Account}
    (h : l.findAccount? query = some a) : a ∈ l.accounts :=
  List.mem_of_find?_eq_some h

theorem mem_of_currentAccount? {l : Ledger} {a : Account} (h : l.currentAccount? = some a) :
    a ∈ l.accounts := by
  obtain ⟨id, -, hId⟩ := Option.bind_eq_some_iff.mp h
  exact List.mem_of_find?_eq_some hId

theorem mem_of_currentMember? {l : Ledger} {m : Member} (h : l.currentMember? = some m) :
    m ∈ l.members := by
  obtain ⟨id, -, hId⟩ := Option.bind_eq_some_iff.mp h
  exact List.mem_of_find?_eq_some hId

/-- The account that is meant is one of the ledger, be it named or selected.
Each of the three ways to it ends in a search in the accounts: by name, by the
id that is selected, and as the only one. -/
theorem mem_of_resolveAccount {l : Ledger} {query : Option String} {a : Account}
    (h : l.resolveAccount query = .ok a) : a ∈ l.accounts := by
  unfold resolveAccount at h
  split at h
  · split at h
    · next hFound =>
      obtain rfl := Except.ok.inj h
      exact mem_of_findAccount? hFound
    · simp at h
  · split at h
    · next hCurrent =>
      obtain rfl := Except.ok.inj h
      exact mem_of_currentAccount? hCurrent
    · next hOnly =>
      obtain rfl := Except.ok.inj h
      simp [hOnly]
    · simp at h
    · simp at h

/-- The account of an id has that id. -/
theorem id_of_accountOfId? {l : Ledger} {id : String} {a : Account}
    (h : l.accountOfId? id = some a) : a.id = id := by
  simpa using List.find?_some h

theorem mem_of_accountOfId? {l : Ledger} {id : String} {a : Account}
    (h : l.accountOfId? id = some a) : a ∈ l.accounts :=
  List.mem_of_find?_eq_some h

end Ledger

-- ---------------------------------------------------------------------------
-- Responses
-- ---------------------------------------------------------------------------

@[simp] theorem Response.success_ok (message : String) : (Response.ok message).success = true := rfl

@[simp] theorem Response.success_withData (r : Response) (key : String) (value : Json) :
    (r.withData key value).success = r.success := rfl

@[simp] theorem Response.success_withText (r : Response) (key value : String) :
    (r.withText key value).success = r.success := rfl

-- ---------------------------------------------------------------------------
-- Handlers
-- ---------------------------------------------------------------------------

namespace Handler

open Booking Ledger

/-- The law of handlers: a result is a success, and the ledger has taken a
step which is what the command is for; after a refusal the ledger is what it
was. -/
def Books (h : Handler) (effect : Effect) : Prop :=
  ∀ (s : Setting) (c : Command) (l : Ledger),
    (h s c).Ends l (fun r l' => r.success = true ∧ l.Step s.stamp l' ∧ effect c l l')
      (fun _ l' => l' = l)

theorem books_accountBalance : Books accountBalance .keeps := by
  intro s c l
  simp only [accountBalance, ends_bind, ends_get, ends_allowed, ends_sound, ends_pure,
    implies_true, and_true]
  intro a _ balance _ shown _
  exact ⟨rfl, .kept, rfl⟩

theorem books_accountList : Books accountList .keeps := by
  intro s c l
  simp only [accountList, ends_bind, ends_get]
  split
  · exact ends_pure.mpr ⟨rfl, .kept, rfl⟩
  · simp only [ends_bind, ends_sound, ends_pure]
    intro rows _
    exact ⟨rfl, .kept, rfl⟩

/-- A payment that is answered has been entered, for a positive amount and on
the account that is meant. -/
theorem books_credit : Books (moveMoney .credit) (.pays .credit) := by
  intro s c l
  simp only [moveMoney, ends_bind, ends_get, ends_found, ends_allowed, ends_credit, ends_sound,
    ends_pure, implies_true, and_true]
  intro amount hAmount a ha hPos new hNew _ _
  exact ⟨rfl, .credited a amount new _ (mem_of_resolveAccount ha) hPos hNew,
    _, ⟨rfl, hAmount, ⟨a, ha, rfl⟩, rfl, rfl⟩, rfl⟩

/-- A payment out has been compared with the balance before it was entered. -/
theorem books_debit : Books (moveMoney .debit) (.pays .debit) := by
  intro s c l
  simp only [moveMoney, ends_bind, ends_get, ends_found, ends_allowed, ends_debit, ends_sound,
    ends_pure, implies_true, and_true, true_and]
  intro amount hAmount a ha hPos a' ha' hKind old hOld hFunds new hNew _ _
  refine ⟨rfl, ?_, _, ⟨rfl, hAmount, ⟨a, ha, rfl⟩, rfl, rfl⟩, rfl⟩
  -- the account that is looked at again has the id of the one that was meant
  have hId : a'.id = a.id := id_of_accountOfId? ha'
  rw [← hId] at ha' hOld hNew ⊢
  exact .debited a' amount old new _ ha' hPos hKind hOld hFunds hNew

/-- The owner of a new account is a member, whether it is named, selected, or
the first of all. -/
theorem mem_of_askedOwner {l : Ledger} {c : Command} {m : Member} (h : askedOwner l c = .ok m) :
    m ∈ l.members := by
  unfold askedOwner at h
  split at h
  · split at h
    · next hFound =>
      obtain rfl := Except.ok.inj h
      exact mem_of_findMember? hFound
    · simp at h
  · split at h
    · next hFound =>
      obtain rfl := Except.ok.inj h
      rw [Option.orElse_eq_orElse, Option.orElse_eq_or, Option.or_eq_some_iff] at hFound
      rcases hFound with hCurrent | ⟨-, hHead⟩
      · exact mem_of_currentMember? hCurrent
      · exact List.mem_of_head? hHead
    · simp at h

/-- A new account is of the required name, and belongs to a member. -/
theorem books_accountNew : Books accountNew .opensAccount := by
  intro s c l
  simp only [accountNew, ends_bind, ends_get, ends_allowed, ends_openAccount, ends_pure,
    implies_true, and_true]
  intro name hText kind _ owner hOwner hName
  exact ⟨rfl, .accountOpened _ rfl hName ⟨owner, mem_of_askedOwner hOwner, rfl⟩, _, hText, rfl⟩

theorem books_accountSelect : Books accountSelect .selectsAccount := by
  intro s c l
  simp only [accountSelect, ends_bind, ends_found, ends_selectAccount, ends_pure, implies_true,
    and_true]
  intro query hQuery a ha
  exact ⟨rfl, .accountSelected a (mem_of_findAccount? ha), query, a, hQuery, ha, rfl⟩

theorem books_listList : Books listList .keeps := by
  intro s c l
  simp only [listList, ends_bind, ends_get]
  split <;> exact ends_pure.mpr ⟨rfl, .kept, rfl⟩

theorem books_listShow : Books listShow .keeps := by
  intro s c l
  simp only [listShow, ends_bind, ends_get, ends_allowed, ends_pure, implies_true, and_true]
  intro i _
  exact ⟨rfl, .kept, rfl⟩

theorem books_listCreate : Books listCreate .createsList := by
  intro s c l
  simp only [listCreate, ends_bind, ends_allowed, ends_createList, ends_pure, implies_true,
    and_true]
  intro name hText hName
  exact ⟨rfl, .listCreated _ rfl hName rfl, _, hText, rfl, rfl⟩

theorem books_itemAdd : Books itemAdd .addsItem := by
  intro s c l
  simp only [itemAdd, ends_bind, ends_allowed, ends_addItem, ends_pure, implies_true, and_true]
  intro text hText due _ i hi
  exact ⟨rfl, .itemAdded i _ rfl, i, _, hi, hText, rfl, rfl⟩

theorem books_itemComplete : Books itemComplete .completesItem := by
  intro s c l
  simp only [itemComplete, completeItem, ends_bind, ends_found, ends_changeItem, ends_pure,
    implies_true, and_true]
  intro text hText i hi j hj
  exact ⟨rfl, .itemChanged i j _ fun _ => ⟨rfl, rfl⟩, i, j, text, hi, hText, hj, rfl⟩

theorem books_itemDue : Books itemDue .setsDue := by
  intro s c l
  simp only [itemDue, setItemDue, ends_bind, ends_found, ends_changeItem, ends_pure, implies_true,
    and_true]
  intro due hDue text hText i hi j hj
  exact ⟨rfl, .itemChanged i j _ fun _ => ⟨rfl, rfl⟩, due, hDue, i, j, text, hi, hText, hj, rfl⟩

theorem books_itemOccurs : Books itemOccurs .setsSchedule := by
  intro s c l
  simp only [itemOccurs, setItemSchedule, ends_bind, ends_found, ends_allowed, ends_changeItem,
    ends_pure, implies_true, and_true]
  intro schedule hSchedule text hText i hi j hj
  exact ⟨rfl, .itemChanged i j _ fun _ => ⟨rfl, rfl⟩, schedule, hSchedule, i, j, text, hi, hText,
    hj, rfl⟩

theorem books_itemList : Books itemList .keeps := by
  intro s c l
  simp only [itemList, ends_bind, ends_get, ends_allowed, implies_true, and_true]
  intro i _
  split <;> exact ends_pure.mpr ⟨rfl, .kept, rfl⟩

theorem books_memberList : Books memberList .keeps := by
  intro s c l
  simp only [memberList, ends_bind, ends_get]
  split <;> exact ends_pure.mpr ⟨rfl, .kept, rfl⟩

theorem books_memberShow : Books memberShow .keeps := by
  intro s c l
  simp only [memberShow, ends_bind, ends_get, ends_allowed, ends_sound, ends_pure, implies_true,
    and_true]
  intro m _ lines _
  exact ⟨rfl, .kept, rfl⟩

theorem books_memberSelect : Books memberSelect .selectsMember := by
  intro s c l
  simp only [memberSelect, ends_bind, ends_found, ends_selectMember, ends_pure, implies_true,
    and_true]
  intro query hQuery m hm
  exact ⟨rfl, .memberSelected m (mem_of_findMember? hm), query, m, hQuery, hm, rfl⟩

theorem books_memberBalance : Books memberBalance .keeps := by
  intro s c l
  simp only [memberBalance, ends_bind, ends_get, ends_allowed, ends_sound, ends_pure, implies_true,
    and_true]
  intro m _ total _ shown _
  exact ⟨rfl, .kept, rfl⟩

end Handler

-- ---------------------------------------------------------------------------
-- Commands, lines and runs
-- ---------------------------------------------------------------------------

namespace Routes

open Handler

/-- Every handler of the household keeps the law of handlers, and does what its
commands are for. The table of handlers is gone through once, and each entry has
its lemma. -/
theorem books_of_standard {subject : Subject} {action : Action} {handler : Handler}
    (h : standard subject action = some handler) :
    Books handler (Ledger.Effect.ofCommand subject action) := by
  unfold standard at h
  -- one case for each route, in the order of the table
  split at h <;> cases h
  · exact books_accountBalance
  · exact books_credit
  · exact books_debit
  · exact books_accountNew
  · exact books_accountSelect
  · exact books_accountList
  · exact books_listList
  · exact books_listShow
  · exact books_listCreate
  · exact books_listCreate
  · exact books_itemAdd
  · exact books_memberList
  · exact books_memberShow
  · exact books_memberSelect
  · exact books_memberBalance
  · exact books_itemAdd
  · exact books_itemComplete
  · exact books_itemDue
  · exact books_itemOccurs
  · exact books_itemList

/-- A command that is answered by a handler is answered as the handler ends:
with its result, or with the reason of its refusal. -/
theorem execute_eq_ok {routes : Routes} {s : Setting} {c : Command} {l l' : Ledger} {r : Response}
    {handler : Handler} {done : Response → Ledger → Prop} {refused : Refusal → Ledger → Prop}
    (hRoute : routes c.subject c.action = some handler) (hEnds : (handler s c).Ends l done refused)
    (h : routes.execute s c l = .ok (r, l')) :
    done r l' ∨ ∃ why, r = Response.failure why.message ∧ refused why l' := by
  unfold execute at h
  rw [hRoute] at h
  simp only at h
  split at h
  · next hRun =>
    obtain ⟨rfl, rfl⟩ := Prod.mk.inj (Except.ok.inj h)
    exact Or.inl (hEnds.of_ok hRun)
  · next hRun =>
    obtain ⟨rfl, rfl⟩ := Prod.mk.inj (Except.ok.inj h)
    exact Or.inr ⟨_, rfl, hEnds.of_refused hRun⟩
  · simp at h

/-- A command that is answered succeeds with a step which is what it is for, or
fails and changes nothing. Without a handler there is only the second case. -/
theorem execute_cases {s : Setting} {c : Command} {l l' : Ledger} {r : Response}
    (h : standard.execute s c l = .ok (r, l')) :
    (r.success = true ∧ l.Step s.stamp l' ∧ Ledger.Effect.ofCommand c.subject c.action c l l') ∨
      (r.success = false ∧ l' = l) := by
  cases hRoute : standard c.subject c.action with
  | none =>
    unfold execute at h
    rw [hRoute] at h
    obtain ⟨rfl, rfl⟩ := Prod.mk.inj (Except.ok.inj h)
    exact Or.inr ⟨rfl, rfl⟩
  | some handler =>
    rcases execute_eq_ok hRoute (books_of_standard hRoute s c l) h with hDone | ⟨why, rfl, hKept⟩
    · exact Or.inl hDone
    · exact Or.inr ⟨rfl, hKept⟩

/-- A command that is answered takes a step and succeeds, or changes
nothing. -/
theorem execute_standard {s : Setting} {c : Command} {l l' : Ledger} {r : Response}
    (h : standard.execute s c l = .ok (r, l')) :
    (r.success = true ∧ l.Step s.stamp l') ∨ l' = l := by
  rcases execute_cases h with ⟨hSuccess, hStep, -⟩ | ⟨-, hKept⟩
  · exact Or.inl ⟨hSuccess, hStep⟩
  · exact Or.inr hKept

/-- A command that succeeds does what it is for. -/
theorem effect_of_execute {s : Setting} {c : Command} {l l' : Ledger} {r : Response}
    (h : standard.execute s c l = .ok (r, l')) (hSuccess : r.success = true) :
    Ledger.Effect.ofCommand c.subject c.action c l l' := by
  rcases execute_cases h with ⟨-, -, hEffect⟩ | ⟨hFailure, -⟩
  · exact hEffect
  · rw [hSuccess] at hFailure
    exact absurd hFailure (by decide)

/-- The same of a line. What is wrong with it is told before any handler is
asked. -/
theorem submit_standard {s : Setting} {line : String} {l l' : Ledger} {r : Response}
    (h : standard.submit s line l = .ok (r, l')) :
    (r.success = true ∧ l.Step s.stamp l') ∨ l' = l := by
  unfold submit at h
  split at h
  · obtain ⟨-, rfl⟩ := Prod.mk.inj (Except.ok.inj h)
    exact Or.inr rfl
  · split at h
    · exact execute_standard h
    · obtain ⟨-, rfl⟩ := Prod.mk.inj (Except.ok.inj h)
      exact Or.inr rfl

/-- A line that is answered takes a step, if only the one that changes
nothing. -/
theorem step_of_submit {s : Setting} {line : String} {l l' : Ledger} {r : Response}
    (h : standard.submit s line l = .ok (r, l')) : l.Step s.stamp l' := by
  rcases submit_standard h with ⟨-, hStep⟩ | rfl
  · exact hStep
  · exact .kept

/-- A run starts with its first line. -/
theorem run_cons {routes : Routes} {s : Setting} {line : String} {rest : List (Setting × String)}
    {l l' : Ledger} {rs : List Response} (h : routes.run ((s, line) :: rest) l = .ok (rs, l')) :
    ∃ r m rs', routes.submit s line l = .ok (r, m) ∧ routes.run rest m = .ok (rs', l') ∧
      rs = r :: rs' := by
  rw [run] at h
  cases hSubmit : routes.submit s line l with
  | error fault => simp [hSubmit, bind, Except.bind] at h
  | ok first =>
    obtain ⟨r, m⟩ := first
    cases hRest : routes.run rest m with
    | error fault => simp [hSubmit, hRest, bind, Except.bind] at h
    | ok last =>
      obtain ⟨rs', m'⟩ := last
      simp only [hSubmit, hRest, bind, Except.bind, pure, Except.pure, Except.ok.injEq,
        Prod.mk.injEq] at h
      obtain ⟨rfl, rfl⟩ := h
      exact ⟨r, m, rs', rfl, hRest, rfl⟩

/-- A run goes on behind its first line. -/
theorem run_cons_eq {routes : Routes} {s : Setting} {line : String} {rest : List (Setting × String)}
    {l m l' : Ledger} {r : Response} {rs : List Response}
    (hSubmit : routes.submit s line l = .ok (r, m)) (hRest : routes.run rest m = .ok (rs, l')) :
    routes.run ((s, line) :: rest) l = .ok (r :: rs, l') := by
  simp [run, hSubmit, hRest, bind, Except.bind, pure, Except.pure]

/-- A run is made up of the run of its first lines and the run of the
others. -/
theorem run_append {routes : Routes} {before after : List (Setting × String)} {l l' : Ledger}
    {rs : List Response} (h : routes.run (before ++ after) l = .ok (rs, l')) :
    ∃ rs₁ m rs₂, routes.run before l = .ok (rs₁, m) ∧ routes.run after m = .ok (rs₂, l') ∧
      rs = rs₁ ++ rs₂ := by
  induction before generalizing l rs with
  | nil => exact ⟨[], l, rs, rfl, h, rfl⟩
  | cons first before ih =>
    obtain ⟨s, line⟩ := first
    obtain ⟨r, m, rs', hSubmit, hRest, rfl⟩ := run_cons h
    obtain ⟨rs₁, m', rs₂, hBefore, hAfter, rfl⟩ := ih hRest
    exact ⟨r :: rs₁, m', rs₂, run_cons_eq hSubmit hBefore, hAfter, rfl⟩

end Routes

end HomeLedger
