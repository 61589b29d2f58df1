import HomeLedger.Proofs.Ledger.Exchange
import HomeLedger.Proofs.Ledger.History
import HomeLedger.Proofs.Ledger.Recording

/-!
# HomeLedger — what is selected stays selected

A selection is an id, and what is selected is looked up by that id whenever a
command names nothing. So a selection could come to mean another entry in two
ways: the id is written again, or the search for it ends elsewhere.

Neither happens behind the user's back. Each of the three ids is written by
the commands of one kind only, which is read off what commands are for
(`Ledger.Effect`). And the search ends where it did, because entries keep
their ids and places, and new ones come last (`Ledger.Persists`). Distinct ids
are needed at the beginning only, where the entry that was found by a name has
to be the one of its id.

Main results:

* `selections_of_effect` — which commands write which selection.
* `run_invariant` — what lines of a kind cannot break, a run without their
  successes cannot break.
* `selections_stick` — an account, a list or a member stays selected until the
  next one is, and payments go there.
-/

namespace HomeLedger

-- ---------------------------------------------------------------------------
-- Commands that select
-- ---------------------------------------------------------------------------

namespace Command

/-- A command is for selecting an account. -/
def SelectsAccount (c : Command) : Prop := c.subject = .account ∧ c.action = .select

/-- A command is for selecting a member. -/
def SelectsMember (c : Command) : Prop := c.subject = .member ∧ c.action = .select

/-- A command is for making a list, which is then selected. -/
def CreatesList (c : Command) : Prop :=
  c.subject = .list ∧ (c.action = .create ∨ c.action = .new)

instance : DecidablePred SelectsAccount := fun _ => inferInstanceAs (Decidable (_ ∧ _))

instance : DecidablePred SelectsMember := fun _ => inferInstanceAs (Decidable (_ ∧ _))

instance : DecidablePred CreatesList := fun _ => inferInstanceAs (Decidable (_ ∧ _))

end Command

namespace Ledger

variable {l l' : Ledger} {c : Command}

/-- Each selection is written by the commands that are for it and by no others.
This is read off the effects, one case for each command. -/
theorem selections_of_effect {subject : Subject} {action : Action}
    (h : Effect.ofCommand subject action c l l') :
    (¬(subject = .account ∧ action = .select) → l'.selectedAccount = l.selectedAccount) ∧
    (¬(subject = .member ∧ action = .select) → l'.selectedMember = l.selectedMember) ∧
    (¬(subject = .list ∧ (action = .create ∨ action = .new)) →
      l'.selectedList = l.selectedList) := by
  unfold Effect.ofCommand at h
  -- one case for each effect, of which three select something
  split at h
  · obtain ⟨t, -, rfl⟩ := h
    exact ⟨fun _ => rfl, fun _ => rfl, fun _ => rfl⟩
  · obtain ⟨t, -, rfl⟩ := h
    exact ⟨fun _ => rfl, fun _ => rfl, fun _ => rfl⟩
  · obtain ⟨a, -, rfl⟩ := h
    exact ⟨fun _ => rfl, fun _ => rfl, fun _ => rfl⟩
  · obtain ⟨query, a, -, -, rfl⟩ := h
    exact ⟨fun hNot => absurd ⟨rfl, rfl⟩ hNot, fun _ => rfl, fun _ => rfl⟩
  · obtain ⟨query, m, -, -, rfl⟩ := h
    exact ⟨fun _ => rfl, fun hNot => absurd ⟨rfl, rfl⟩ hNot, fun _ => rfl⟩
  · obtain ⟨list, -, -, rfl⟩ := h
    exact ⟨fun _ => rfl, fun _ => rfl, fun hNot => absurd ⟨rfl, .inl rfl⟩ hNot⟩
  · obtain ⟨list, -, -, rfl⟩ := h
    exact ⟨fun _ => rfl, fun _ => rfl, fun hNot => absurd ⟨rfl, .inr rfl⟩ hNot⟩
  · obtain ⟨i, item, -, -, -, rfl⟩ := h
    exact ⟨fun _ => rfl, fun _ => rfl, fun _ => rfl⟩
  · obtain ⟨i, item, -, -, -, rfl⟩ := h
    exact ⟨fun _ => rfl, fun _ => rfl, fun _ => rfl⟩
  · obtain ⟨i, j, text, -, -, -, rfl⟩ := h
    exact ⟨fun _ => rfl, fun _ => rfl, fun _ => rfl⟩
  · obtain ⟨due, -, i, j, text, -, -, -, rfl⟩ := h
    exact ⟨fun _ => rfl, fun _ => rfl, fun _ => rfl⟩
  · obtain ⟨schedule, -, i, j, text, -, -, -, rfl⟩ := h
    exact ⟨fun _ => rfl, fun _ => rfl, fun _ => rfl⟩
  · obtain rfl : l' = l := h
    exact ⟨fun _ => rfl, fun _ => rfl, fun _ => rfl⟩

-- ---------------------------------------------------------------------------
-- Where a search for an id ends
-- ---------------------------------------------------------------------------

/-- An account that is current stays so where nothing is lost and the selection
is kept. New accounts come behind it, so the search ends where it did. -/
theorem currentAccount?_of_persists {a : Account} (h : l.Persists l')
    (hSelected : l'.selectedAccount = l.selectedAccount) (ha : l.currentAccount? = some a) :
    l'.currentAccount? = some a := by
  obtain ⟨id, hId, hFind⟩ := Option.bind_eq_some_iff.mp ha
  refine Option.bind_eq_some_iff.mpr ⟨id, hSelected.trans hId, ?_⟩
  exact h.accounts.find?_eq_some hFind

/-- A member that is current stays so, as members never change. -/
theorem currentMember?_of_persists {m : Member} (h : l.Persists l')
    (hSelected : l'.selectedMember = l.selectedMember) (hm : l.currentMember? = some m) :
    l'.currentMember? = some m := by
  obtain ⟨id, hId, hFind⟩ := Option.bind_eq_some_iff.mp hm
  refine Option.bind_eq_some_iff.mpr ⟨id, hSelected.trans hId, ?_⟩
  rwa [memberOfId?, h.members]

/-- The selected list stands at a place, and is still a given one. Its items may
have changed since. -/
def ListSelected (k : Nat) (list : TodoList) (l : Ledger) : Prop :=
  ∃ i, l.currentList? = some i ∧ i.val = k ∧ list.Persists (l.lists.get i)

/-- A search for an id ends at a place if the list there has the id and no
list in front of it has. -/
theorem currentList?_eq_some_iff {i : Fin l.lists.length} : l.currentList? = some i ↔
    ∃ id, l.selectedList = some id ∧ (l.lists.get i).id = id ∧
      ∀ j < i, (l.lists.get j).id ≠ id := by
  unfold currentList?
  rw [Option.bind_eq_some_iff]
  simp only [List.findFinIdx?_eq_some_iff, beq_iff_eq]
  rfl

/-- A list that is current stays so, in its place, though it may have got
items. -/
theorem listSelected_of_persists {k : Nat} {list : TodoList} (h : l.Persists l')
    (hSelected : l'.selectedList = l.selectedList) (hl : l.ListSelected k list) :
    l'.ListSelected k list := by
  obtain ⟨i, hi, rfl, hList⟩ := hl
  obtain ⟨id, hId, hFound, hFront⟩ := currentList?_eq_some_iff.mp hi
  -- at every place there was, the list has still the id that it had
  have hPlace : ∀ j : Fin l.lists.length, ∃ hj : j.val < l'.lists.length,
      (l.lists.get j).Persists (l'.lists.get ⟨j, hj⟩) := by
    intro j
    obtain ⟨after, hAfter, hSame⟩ := h.lists j _ (List.getElem?_eq_getElem j.isLt)
    obtain ⟨hj, rfl⟩ := List.getElem?_eq_some_iff.mp hAfter
    exact ⟨hj, hSame⟩
  obtain ⟨hlt, hSame⟩ := hPlace i
  refine ⟨⟨i, hlt⟩, currentList?_eq_some_iff.mpr ⟨id, hSelected.trans hId, ?_, ?_⟩, rfl,
    hList.trans hSame⟩
  · rw [hSame.id, hFound]
  · intro j hj
    have hj' : j.val < i.val := hj
    obtain ⟨hlt', hSame'⟩ := hPlace ⟨j, hj'.trans i.isLt⟩
    rw [show j = ⟨j, hlt'⟩ from rfl, hSame'.id]
    exact hFront ⟨j, hj'.trans i.isLt⟩ hj'

/-- With distinct ids, a member is the one of its id, so that it does not matter
by which name it was found. -/
theorem memberOfId?_of_mem (hDistinct : (l.members.map (·.id)).Nodup) {m : Member}
    (hm : m ∈ l.members) : l.memberOfId? m.id = some m :=
  find?_id_of_mem hDistinct hm

/-- A list that is appended under a new id and selected is the selected one.
Were the id not new, the search for it would end earlier. -/
theorem listSelected_created {id : String} (hFresh : id ∉ l.lists.map (·.id)) (name : String) :
    Ledger.ListSelected l.lists.length { id, name }
      { l with lists := l.lists ++ [{ id, name }], selectedList := some id } := by
  have hLast : l.lists.length < (l.lists ++ [({ id, name } : TodoList)]).length := by simp
  refine ⟨⟨l.lists.length, hLast⟩, currentList?_eq_some_iff.mpr ⟨id, rfl, ?_, ?_⟩, rfl, ?_⟩
  · simp
  · intro j hj hId
    have hj' : j.val < l.lists.length := hj
    rw [List.get_eq_getElem, List.getElem_append_left hj'] at hId
    exact hFresh (List.mem_map.mpr ⟨_, List.getElem_mem hj', hId⟩)
  · rw [List.get_eq_getElem, List.getElem_concat_length rfl]
    exact .refl _

theorem resolveAccount_of_current {a : Account} (h : l.currentAccount? = some a) :
    l.resolveAccount none = .ok a := by
  unfold resolveAccount
  rw [h]

theorem resolveList_of_current {i : Fin l.lists.length} (h : l.currentList? = some i) :
    l.resolveList none = .ok i := by
  unfold resolveList
  rw [h]

end Ledger

-- ---------------------------------------------------------------------------
-- Runs without a kind of success
-- ---------------------------------------------------------------------------

namespace Routes

open Ledger

variable {s : Setting} {line : String} {l l' : Ledger} {r : Response} {p : Command → Prop}

/-- A line is a command of a kind, and is answered with success. A line that is
refused selects nothing, whatever it says. -/
def Achieves (p : Command → Prop) (s : Setting) (line : String) (r : Response) : Prop :=
  r.success = true ∧ ∃ c ∈ (Command.read s.formatting s.today line).toOption, p c

/-- Whether a line achieves it can be looked up from the line and its
response. -/
instance [DecidablePred p] : Decidable (Achieves p s line r) := inferInstanceAs (Decidable (_ ∧ _))

/-- No line of a run is a command of a kind that is answered with success. -/
def Without (p : Command → Prop) (lines : List (Setting × String)) (rs : List Response) : Prop :=
  ∀ answered ∈ lines.zip rs, ¬Achieves p answered.1.1 answered.1.2 answered.2

instance [DecidablePred p] {lines : List (Setting × String)} {rs : List Response} :
    Decidable (Without p lines rs) :=
  inferInstanceAs (Decidable (∀ answered ∈ lines.zip rs, _))

/-- What no line breaks that is answered, successful commands of a kind apart, a
run without these does not break. The induction is on the lines, and the
responses go along with them. -/
theorem run_invariant (holds : Ledger → Prop) {lines : List (Setting × String)}
    {rs : List Response}
    (hLine : ∀ s line l r l', standard.submit s line l = .ok (r, l') → ¬Achieves p s line r →
      holds l → holds l')
    (hRun : standard.run lines l = .ok (rs, l')) (hWithout : Without p lines rs)
    (h : holds l) : holds l' := by
  induction lines generalizing l rs with
  | nil =>
    obtain ⟨-, rfl⟩ := Prod.mk.inj (Except.ok.inj hRun)
    exact h
  | cons first rest ih =>
    obtain ⟨s, line⟩ := first
    obtain ⟨r, m, rs', hSubmit, hRest, rfl⟩ := run_cons hRun
    obtain ⟨hFirst, hOthers⟩ := List.forall_mem_cons.mp hWithout
    exact ih hRest hOthers (hLine s line l r m hSubmit hFirst h)

/-- A line that is answered has either achieved what it is for or changed
nothing, and writes no selection that is not for it. -/
theorem selections_of_submit (h : standard.submit s line l = .ok (r, l')) :
    (¬Achieves Command.SelectsAccount s line r → l'.selectedAccount = l.selectedAccount) ∧
    (¬Achieves Command.SelectsMember s line r → l'.selectedMember = l.selectedMember) ∧
    (¬Achieves Command.CreatesList s line r → l'.selectedList = l.selectedList) := by
  cases hSuccess : r.success with
  | false =>
    obtain rfl := eq_of_submit_failure h hSuccess
    exact ⟨fun _ => rfl, fun _ => rfl, fun _ => rfl⟩
  | true =>
    obtain ⟨c, hRead, -, hEffect⟩ := effect_of_submit h hSuccess
    have hAchieves : ∀ p : Command → Prop, p c → Achieves p s line r := fun p hp =>
      ⟨hSuccess, c, by rw [hRead]; rfl, hp⟩
    obtain ⟨hAccount, hMember, hList⟩ := selections_of_effect hEffect
    exact ⟨fun hNot => hAccount (mt (hAchieves Command.SelectsAccount) hNot),
      fun hNot => hMember (mt (hAchieves Command.SelectsMember) hNot),
      fun hNot => hList (mt (hAchieves Command.CreatesList) hNot)⟩

theorem persists_of_submit (h : standard.submit s line l = .ok (r, l')) : l.Persists l' :=
  persists_of_step (step_of_submit h)

variable {later : List (Setting × String)} {rs : List Response}

/-- An account stays current through a run in which no other is selected. -/
theorem currentAccount?_of_run {a : Account} (hRun : standard.run later l = .ok (rs, l'))
    (hWithout : Without Command.SelectsAccount later rs) (h : l.currentAccount? = some a) :
    l'.currentAccount? = some a := by
  refine run_invariant (fun l => l.currentAccount? = some a) ?_ hRun hWithout h
  intro s line l r l' hSubmit hNot ha
  exact currentAccount?_of_persists (persists_of_submit hSubmit)
    ((selections_of_submit hSubmit).1 hNot) ha

theorem currentMember?_of_run {m : Member} (hRun : standard.run later l = .ok (rs, l'))
    (hWithout : Without Command.SelectsMember later rs) (h : l.currentMember? = some m) :
    l'.currentMember? = some m := by
  refine run_invariant (fun l => l.currentMember? = some m) ?_ hRun hWithout h
  intro s line l r l' hSubmit hNot hm
  exact currentMember?_of_persists (persists_of_submit hSubmit)
    ((selections_of_submit hSubmit).2.1 hNot) hm

/-- The list stays selected through a run in which none is made. -/
theorem listSelected_of_run {k : Nat} {list : TodoList}
    (hRun : standard.run later l = .ok (rs, l'))
    (hWithout : Without Command.CreatesList later rs) (h : l.ListSelected k list) :
    l'.ListSelected k list := by
  refine run_invariant (ListSelected k list) ?_ hRun hWithout h
  intro s line l r l' hSubmit hNot hList
  exact listSelected_of_persists (persists_of_submit hSubmit)
    ((selections_of_submit hSubmit).2.2 hNot) hList

-- ---------------------------------------------------------------------------
-- Payments that name no account
-- ---------------------------------------------------------------------------

/-- Every payment that names no account is entered on the given one, if it is
answered with success. -/
def PaysUnnamed (l : Ledger) (a : Account) : Prop :=
  ∀ (s : Setting) (line : String) (c : Command) (direction : Direction) (r : Response)
    (l' : Ledger), Command.read s.formatting s.today line = .ok c → c.Pays direction →
    c.namedText? "account" = .none → standard.submit s line l = .ok (r, l') → r.success = true →
    ∃ t, IsPayment direction c l t ∧ t.accountId = a.id ∧ l' = l.withEntry t

theorem paysUnnamed_of_current {a : Account} (ha : l.currentAccount? = some a) :
    PaysUnnamed l a := by
  intro s line c direction r l' hRead hPays hUnnamed hSubmit hSuccess
  obtain ⟨c', hRead', -, hEffect⟩ := effect_of_submit hSubmit hSuccess
  obtain rfl := Except.ok.inj (hRead.symm.trans hRead')
  rw [hPays.subject, hPays.action] at hEffect
  obtain ⟨t, hPayment, rfl⟩ : Effect.pays direction c l l' := by cases direction <;> exact hEffect
  refine ⟨t, hPayment, ?_, rfl⟩
  obtain ⟨a', ha', hId⟩ := hPayment.account
  have hFirst : c.firstOf? .account = .none := by
    refine Command.firstOf?_eq_none_of_read hRead ?_ (by decide) (by decide)
    rw [hPays.action]
    cases direction <;> decide
  rw [hUnnamed, hFirst] at ha'
  have hSame : l.resolveAccount .none = .ok a' := ha'
  rw [resolveAccount_of_current ha] at hSame
  rw [hId, Except.ok.inj hSame]

-- ---------------------------------------------------------------------------
-- Selections
-- ---------------------------------------------------------------------------

/-- The list that is made is empty, has the id of the stamp, and is selected.
Nothing else in the ledger is changed. -/
theorem created_of_submit {c : Command} (hRead : Command.read s.formatting s.today line = .ok c)
    (hCreates : c.CreatesList) (h : standard.submit s line l = .ok (r, l'))
    (hSuccess : r.success = true) :
    ∃ name, c.requiredText = .ok name ∧
      l' = { l with lists := l.lists ++ [{ id := s.stamp.id, name }],
                    selectedList := some s.stamp.id } := by
  obtain ⟨c', hRead', -, hExecute⟩ := execute_of_submit h hSuccess
  obtain rfl := Except.ok.inj (hRead.symm.trans hRead')
  have hRoute : standard c.subject c.action = some Handler.listCreate := by
    rcases hCreates with ⟨hSubject, hAction | hAction⟩ <;> rw [hSubject, hAction] <;> rfl
  have hEnds : (Handler.listCreate s c).Ends l (fun _ l' => ∃ name, c.requiredText = .ok name ∧
      l' = { l with lists := l.lists ++ [{ id := s.stamp.id, name }],
                    selectedList := some s.stamp.id }) fun _ _ => True := by
    simp only [Handler.listCreate, Booking.ends_bind, Booking.ends_allowed, ends_createList,
      Booking.ends_pure, implies_true, and_true]
    exact fun name hText _ => ⟨name, hText, rfl⟩
  rcases execute_eq_ok hRoute hEnds hExecute with hDone | ⟨why, rfl, -⟩
  · exact hDone
  · exact absurd hSuccess Bool.false_ne_true

/-- What was selected with success stays selected through all lines that
follow, until a line selects again with success. An account takes the payments
that name none; a list that was made is the one that is meant if none is
named; and a member is the current one. -/
theorem selections_stick {c : Command} (hRead : Command.read s.formatting s.today line = .ok c)
    (hSubmit : standard.submit s line l = .ok (r, l')) (hSuccess : r.success = true) :
    (c.SelectsAccount → (l.accounts.map (·.id)).Nodup →
      ∃ query a, c.target? "account" .account = some query ∧ l.findAccount? query = some a ∧
        l'.currentAccount? = some a ∧
        ∀ later rs l'', standard.run later l' = .ok (rs, l'') →
          Without Command.SelectsAccount later rs →
          l''.resolveAccount .none = .ok a ∧ PaysUnnamed l'' a) ∧
    (c.CreatesList → s.stamp.id ∉ l.lists.map (·.id) →
      ∃ list : TodoList, c.requiredText = .ok list.name ∧ l'.lists = l.lists ++ [list] ∧
        ∀ later rs l'', standard.run later l' = .ok (rs, l'') →
          Without Command.CreatesList later rs →
          ∃ i, l''.resolveList .none = .ok i ∧ i.val = l.lists.length ∧
            list.Persists (l''.lists.get i)) ∧
    (c.SelectsMember → (l.members.map (·.id)).Nodup →
      ∃ query m, c.target? "member" .member = some query ∧ l.findMember? query = some m ∧
        l'.currentMember? = some m ∧
        ∀ later rs l'', standard.run later l' = .ok (rs, l'') →
          Without Command.SelectsMember later rs → l''.currentMember? = some m) := by
  obtain ⟨c', hRead', -, hEffect⟩ := effect_of_submit hSubmit hSuccess
  obtain rfl := Except.ok.inj (hRead.symm.trans hRead')
  refine ⟨?_, ?_, ?_⟩
  · rintro ⟨hSubject, hAction⟩ hDistinct
    rw [hSubject, hAction] at hEffect
    obtain ⟨query, a, hQuery, ha, rfl⟩ := hEffect
    -- the account that was found is the one with its id, as ids are distinct
    have hCurrent : Ledger.currentAccount? { l with selectedAccount := some a.id } = some a :=
      accountOfId?_of_mem hDistinct (mem_of_findAccount? ha)
    refine ⟨query, a, hQuery, ha, hCurrent, fun later rs l'' hRun hWithout => ?_⟩
    have hStill := currentAccount?_of_run hRun hWithout hCurrent
    exact ⟨resolveAccount_of_current hStill, paysUnnamed_of_current hStill⟩
  · intro hCreates hFresh
    obtain ⟨name, hText, rfl⟩ := created_of_submit hRead hCreates hSubmit hSuccess
    refine ⟨_, hText, rfl, fun later rs l'' hRun hWithout => ?_⟩
    -- the list was put at the end, where later entries do not move it
    obtain ⟨i, hi, hPlace, hList⟩ :=
      listSelected_of_run hRun hWithout (listSelected_created hFresh name)
    exact ⟨i, resolveList_of_current hi, hPlace, hList⟩
  · rintro ⟨hSubject, hAction⟩ hDistinct
    rw [hSubject, hAction] at hEffect
    obtain ⟨query, m, hQuery, hm, rfl⟩ := hEffect
    have hCurrent : Ledger.currentMember? { l with selectedMember := some m.id } = some m :=
      memberOfId?_of_mem hDistinct (mem_of_findMember? hm)
    exact ⟨query, m, hQuery, hm, hCurrent, fun later rs l'' hRun hWithout =>
      currentMember?_of_run hRun hWithout hCurrent⟩

/-- Whether a line succeeds and a run behind it is without a kind of success can
be checked at once. The run is taken once, and both are read off its
responses. -/
theorem exists_run_of_checked (p : Command → Prop) [DecidablePred p] (s : Setting) (line : String)
    (later : List (Setting × String)) (l : Ledger) (h : (standard.run ((s, line) :: later) l).map
      (fun answer => (answer.1.head?.map (·.success), decide (Without p later answer.1.tail))) =
        .ok (some true, true)) :
    ∃ r m rs l', standard.submit s line l = .ok (r, m) ∧ r.success = true ∧
      standard.run later m = .ok (rs, l') ∧ Without p later rs := by
  obtain ⟨⟨_, l'⟩, hRun, hFacts⟩ := exists_of_map_eq_ok h
  obtain ⟨r, m, rs, hSubmit, hRest, rfl⟩ := run_cons hRun
  obtain ⟨hSuccess, hWithout⟩ := Prod.mk.inj hFacts
  exact ⟨r, m, rs, l', hSubmit, Option.some.inj hSuccess, hRest, of_decide_eq_true hWithout⟩

/-- A line that selects an account. -/
def checkingLine : String := "account select \"family checking\""

/-- Lines among which are three selections that are refused. -/
def restlessLines : List (Setting × String) :=
  let setting (id : String) : Setting := { nextDay with stamp := ⟨id, nextDay.stamp.time⟩ }
  [(setting "a", "account new Jar"), (setting "b", "account select purse"),
    (setting "c", "list create chores"), (setting "d", "member select nobody"),
    (setting "e", "item add Rope"), (setting "f", "account credit 2")]

theorem selections_stick_restless :
    (numbered.accounts.map (·.id)).Nodup ∧ (numbered.members.map (·.id)).Nodup ∧
    nextDay.stamp.id ∉ numbered.lists.map (·.id) ∧
    (∃ r l rs l' a, standard.submit nextDay checkingLine numbered = .ok (r, l) ∧
      r.success = true ∧ standard.run restlessLines l = .ok (rs, l') ∧
      Without Command.SelectsAccount restlessLines rs ∧
      numbered.findAccount? "family checking" = some a ∧ l'.resolveAccount .none = .ok a ∧
      PaysUnnamed l' a) ∧
    (∃ r l rs l' i, standard.submit nextDay "list new Camping" numbered = .ok (r, l) ∧
      r.success = true ∧ standard.run restlessLines l = .ok (rs, l') ∧
      Without Command.CreatesList restlessLines rs ∧ l'.resolveList .none = .ok i ∧
      (l'.lists.get i).name = "Camping") ∧
    ∃ r l rs l' m, standard.submit nextDay "member select pat" numbered = .ok (r, l) ∧
      r.success = true ∧ standard.run restlessLines l = .ok (rs, l') ∧
      Without Command.SelectsMember restlessLines rs ∧
      numbered.findMember? "pat" = some m ∧ l'.currentMember? = some m := by
  have hAccounts : (numbered.accounts.map (·.id)).Nodup := by decide +kernel
  have hMembers : (numbered.members.map (·.id)).Nodup := by decide +kernel
  have hFresh : nextDay.stamp.id ∉ numbered.lists.map (·.id) := by decide +kernel
  refine ⟨hAccounts, hMembers, hFresh, ?_, ?_, ?_⟩
  · have hLine : (Command.read nextDay.formatting nextDay.today checkingLine).map
        (fun c => (decide c.SelectsAccount, c.target? "account" .account)) =
          .ok (true, some "family checking") := by decide +kernel
    obtain ⟨c, hRead, hFacts⟩ := exists_of_map_eq_ok hLine
    obtain ⟨hSelects, hTarget⟩ := Prod.mk.inj hFacts
    obtain ⟨r, l, rs, l', hSubmit, hSuccess, hRun, hWithout⟩ :=
      exists_run_of_checked Command.SelectsAccount nextDay checkingLine restlessLines numbered
        (by decide +kernel)
    obtain ⟨query, a, hQuery, ha, -, hLater⟩ := (selections_stick hRead hSubmit hSuccess).1
      (of_decide_eq_true hSelects) hAccounts
    obtain rfl := Option.some.inj (hQuery.symm.trans hTarget)
    obtain ⟨hResolve, hPays⟩ := hLater restlessLines rs l' hRun hWithout
    exact ⟨r, l, rs, l', a, hSubmit, hSuccess, hRun, hWithout, ha, hResolve, hPays⟩
  · have hLine : (Command.read nextDay.formatting nextDay.today "list new Camping").map
        (fun c => (decide c.CreatesList, c.requiredText)) = .ok (true, .ok "Camping") := by
      decide +kernel
    obtain ⟨c, hRead, hFacts⟩ := exists_of_map_eq_ok hLine
    obtain ⟨hCreates, hText⟩ := Prod.mk.inj hFacts
    obtain ⟨r, l, rs, l', hSubmit, hSuccess, hRun, hWithout⟩ :=
      exists_run_of_checked Command.CreatesList nextDay "list new Camping" restlessLines numbered
        (by decide +kernel)
    obtain ⟨list, hName, -, hLater⟩ := (selections_stick hRead hSubmit hSuccess).2.1
      (of_decide_eq_true hCreates) hFresh
    obtain ⟨i, hi, -, hList⟩ := hLater restlessLines rs l' hRun hWithout
    refine ⟨r, l, rs, l', i, hSubmit, hSuccess, hRun, hWithout, hi, ?_⟩
    rw [hList.name, ← Except.ok.inj (hText.symm.trans hName)]
  · have hLine : (Command.read nextDay.formatting nextDay.today "member select pat").map
        (fun c => (decide c.SelectsMember, c.target? "member" .member)) =
          .ok (true, some "pat") := by decide +kernel
    obtain ⟨c, hRead, hFacts⟩ := exists_of_map_eq_ok hLine
    obtain ⟨hSelects, hTarget⟩ := Prod.mk.inj hFacts
    obtain ⟨r, l, rs, l', hSubmit, hSuccess, hRun, hWithout⟩ :=
      exists_run_of_checked Command.SelectsMember nextDay "member select pat" restlessLines numbered
        (by decide +kernel)
    obtain ⟨query, m, hQuery, hm, -, hLater⟩ := (selections_stick hRead hSubmit hSuccess).2.2
      (of_decide_eq_true hSelects) hMembers
    obtain rfl := Option.some.inj (hQuery.symm.trans hTarget)
    exact ⟨r, l, rs, l', m, hSubmit, hSuccess, hRun, hWithout, hm,
      hLater restlessLines rs l' hRun hWithout⟩

end Routes

end HomeLedger
