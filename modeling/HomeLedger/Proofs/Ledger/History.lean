import HomeLedger.Proofs.Ledger.Request

/-!
# HomeLedger — history is never rewritten

A command that succeeds does the one thing that it is for, and no more
(`Ledger.Effect`). Most commands append, some write a field, and none takes
anything away. So whatever a household is asked for, the ledger before is
still to be found in the ledger afterwards, every entry in its place and under
its name (`Ledger.Persists`). What may differ are the selections, whether an
item is done, when it is due and when it comes up again.

Main results:

* `persists_of_step` — a step takes nothing away.
* `persists_after` — nor does a run of requests.
* `effect_and_persistence` — what a command does, and what a run leaves alone.
-/

namespace HomeLedger

-- ---------------------------------------------------------------------------
-- Entries in their places
-- ---------------------------------------------------------------------------

/-- Every entry of a list is still in its place afterwards, as far as `Same`
tells. New ones may stand behind. What is appended and what is changed in place
are both of this form. -/
def InPlace {α : Type} (Same : α → α → Prop) (before after : List α) : Prop :=
  ∀ (i : Nat) (x : α), before[i]? = some x → ∃ y, after[i]? = some y ∧ Same x y

namespace InPlace

variable {α : Type} {Same : α → α → Prop} {before middle after : List α}

/-- Every list is in its place, if every entry is the same as itself. -/
theorem refl (hRefl : ∀ x, Same x x) (xs : List α) : InPlace Same xs xs :=
  fun _ x hx => ⟨x, hx, hRefl x⟩

/-- What has stayed in its place twice has stayed there, if being the same can
be passed on. -/
theorem trans (hTrans : ∀ x y z, Same x y → Same y z → Same x z)
    (h : InPlace Same before middle) (h' : InPlace Same middle after) :
    InPlace Same before after := by
  intro i x hx
  obtain ⟨y, hy, hxy⟩ := h i x hx
  obtain ⟨z, hz, hyz⟩ := h' i y hy
  exact ⟨z, hz, hTrans x y z hxy hyz⟩

theorem append (hRefl : ∀ x, Same x x) (xs new : List α) : InPlace Same xs (xs ++ new) := by
  intro i x hx
  have hi : i < xs.length := (List.getElem?_eq_some_iff.mp hx).1
  exact ⟨x, by rw [List.getElem?_append_left hi, hx], hRefl x⟩

/-- Changing one entry leaves all in their places, if it is the same one after
the change. -/
theorem modify (hRefl : ∀ x, Same x x) {change : α → α} (hChange : ∀ x, Same x (change x))
    (j : Nat) (xs : List α) : InPlace Same xs (xs.modify j change) := by
  intro i x hx
  rw [List.getElem?_modify, hx]
  by_cases hij : j = i
  · exact ⟨change x, by simp [hij], hChange x⟩
  · exact ⟨x, by simp [hij], hRefl x⟩

end InPlace

-- ---------------------------------------------------------------------------
-- What persists
-- ---------------------------------------------------------------------------

/-- An item is still the same one: its id and its text are kept. Whether it is
done, when it is due and when it comes up again may change. -/
structure Item.Persists (i i' : Item) : Prop where
  id : i'.id = i.id
  text : i'.text = i.text

/-- A list is still the same one, and so are its items. -/
structure TodoList.Persists (l l' : TodoList) : Prop where
  id : l'.id = l.id
  name : l'.name = l.name
  sharedWith : l'.sharedWith = l.sharedWith
  items : InPlace Item.Persists l.items l'.items

/-- Everything in a ledger is still there. Accounts and transactions are kept as
they are, and lists are still the same in their places. -/
structure Ledger.Persists (l l' : Ledger) : Prop where
  members : l'.members = l.members
  accounts : l.accounts <+: l'.accounts
  transactions : l.transactions <+: l'.transactions
  lists : InPlace TodoList.Persists l.lists l'.lists

theorem Item.Persists.refl (i : Item) : i.Persists i := ⟨rfl, rfl⟩

theorem Item.Persists.trans {i i' i'' : Item} (h : i.Persists i') (h' : i'.Persists i'') :
    i.Persists i'' :=
  ⟨h'.id.trans h.id, h'.text.trans h.text⟩

namespace TodoList.Persists

theorem refl (l : TodoList) : l.Persists l :=
  ⟨rfl, rfl, rfl, .refl Item.Persists.refl l.items⟩

theorem trans {l l' l'' : TodoList} (h : l.Persists l') (h' : l'.Persists l'') :
    l.Persists l'' where
  id := h'.id.trans h.id
  name := h'.name.trans h.name
  sharedWith := h'.sharedWith.trans h.sharedWith
  items := h.items.trans (fun _ _ _ => Item.Persists.trans) h'.items

theorem appendItem (item : Item) (l : TodoList) : l.Persists (Ledger.appendItem item l) :=
  ⟨rfl, rfl, rfl, .append Item.Persists.refl l.items [item]⟩

/-- A change of an item that keeps its id and its text keeps the list. -/
theorem modifyItem {change : Item → Item} (hKept : ∀ item : Item, item.Persists (change item))
    (j : Nat) (l : TodoList) : l.Persists (Ledger.modifyItem j change l) :=
  ⟨rfl, rfl, rfl, .modify Item.Persists.refl hKept j l.items⟩

end TodoList.Persists

namespace Ledger

variable {stamp : Stamp} {l l' l'' : Ledger}

theorem Persists.refl (l : Ledger) : l.Persists l :=
  ⟨rfl, List.prefix_rfl, List.prefix_rfl, .refl TodoList.Persists.refl l.lists⟩

/-- What persists twice persists, so that a run is the sum of its steps. -/
theorem Persists.trans (h : l.Persists l') (h' : l'.Persists l'') : l.Persists l'' where
  members := h'.members.trans h.members
  accounts := h.accounts.trans h'.accounts
  transactions := h.transactions.trans h'.transactions
  lists := h.lists.trans (fun _ _ _ => TodoList.Persists.trans) h'.lists

theorem persists_withEntry (l : Ledger) (t : Transaction) : l.Persists (l.withEntry t) :=
  { Persists.refl l with transactions := List.prefix_append _ _ }

/-- Changing one list so that it is still the same keeps the ledger. -/
theorem persists_withList {change : TodoList → TodoList}
    (hKept : ∀ list : TodoList, list.Persists (change list)) (l : Ledger) (i : Nat) :
    l.Persists (l.withList i change) :=
  { Persists.refl l with lists := .modify TodoList.Persists.refl hKept i l.lists }

/-- A step takes nothing away. There is one case for each thing that a step can
do, and most of them append. -/
theorem persists_of_step (hStep : l.Step stamp l') : l.Persists l' := by
  cases hStep with
  | kept => exact .refl l
  | memberSelected m hMember => exact { Persists.refl l with }
  | accountSelected a hAccount => exact { Persists.refl l with }
  | accountOpened a hId hName hOwner =>
    exact { Persists.refl l with accounts := List.prefix_append _ _ }
  | credited a amount new note hAccount hPositive hNew => exact persists_withEntry l _
  | debited a amount old new note hAccount hPositive hKind hOld hFunds hNew =>
    exact persists_withEntry l _
  | listCreated list hId hName hItems =>
    exact { Persists.refl l with lists := .append TodoList.Persists.refl l.lists [list] }
  | itemAdded i item hId => exact persists_withList (TodoList.Persists.appendItem item) l i
  | itemChanged i j change hKept =>
    have hItem : ∀ item : Item, item.Persists (change item) := fun item =>
      ⟨(hKept item).1, (hKept item).2⟩
    exact persists_withList (TodoList.Persists.modifyItem hItem j) l i

end Ledger

-- ---------------------------------------------------------------------------
-- Commands and runs
-- ---------------------------------------------------------------------------

namespace Routes

variable {l l' : Ledger}

/-- Nor does a run of requests, by induction on the requests. A refused one has
kept the ledger. -/
theorem persists_after {requests : List (Setting × Request)}
    (h : standard.after requests l = .ok l') : l.Persists l' := by
  induction requests generalizing l with
  | nil =>
    obtain rfl := Except.ok.inj h
    exact .refl l
  | cons first rest ih =>
    obtain ⟨s, q⟩ := first
    obtain ⟨r, m, hAnswer, hRest⟩ := after_cons h
    have hStep : l.Step s.stamp m := step_of_answer hAnswer
    exact (Ledger.persists_of_step hStep).trans (ih hRest)

/-- A command that succeeds does what it is for and nothing else, and along
any run of requests nothing is removed, put elsewhere or renamed. -/
theorem effect_and_persistence (l : Ledger) :
    (∀ s c r l', standard.execute s c l = .ok (r, l') → r.success = true →
      Ledger.Effect.ofCommand c.subject c.action c l l') ∧
    ∀ requests l', standard.after requests l = .ok l' → l.Persists l' :=
  ⟨fun _ _ _ _ h hSuccess => effect_of_execute h hSuccess, fun _ _ h => persists_after h⟩

/-- A bill is paid, the milk is bought, and there will be a party. -/
def afternoon : List (Setting × Request) :=
  let setting (id : String) : Setting := { nextDay with stamp := ⟨id, nextDay.stamp.time⟩ }
  [(setting "a", .line "account debit 7.25 --note \"ice cream\""),
    (setting "b", .line "item complete MILK --list groceries"),
    (setting "c", .line "list create Party"), (setting "d", .line "item add Cake --due tomorrow")]

/-- The bill is the fourth transaction, the list is new, and all that was there
is there. -/
theorem afternoon_persists :
    (∃ r l', standard.execute nextDay ⟨.item, .complete, [.flag "item" "MILK"], ""⟩ numbered =
        .ok (r, l') ∧ r.success = true ∧
      Ledger.Effect.completesItem ⟨.item, .complete, [.flag "item" "MILK"], ""⟩ numbered l') ∧
    ∃ l', standard.after afternoon numbered = .ok l' ∧
      (l'.transactions.length, l'.lists.map (·.items.length)) = (4, [2, 1, 1]) ∧
      numbered.Persists l' := by
  obtain ⟨hEffect, hRun⟩ := effect_and_persistence numbered
  constructor
  · refine ⟨_, _, rfl, rfl, ?_⟩
    exact hEffect nextDay ⟨.item, .complete, [.flag "item" "MILK"], ""⟩ _ _ rfl rfl
  · have hCounts : (standard.after afternoon numbered).toOption.map
        (fun l => (l.transactions.length, l.lists.map (·.items.length))) =
          some (4, [2, 1, 1]) := by decide +kernel
    cases hAfter : standard.after afternoon numbered with
    | error fault => simp [hAfter, Except.toOption] at hCounts
    | ok l' =>
      rw [hAfter] at hCounts
      exact ⟨l', rfl, Option.some.inj hCounts, hRun afternoon l' hAfter⟩

end Routes

end HomeLedger
