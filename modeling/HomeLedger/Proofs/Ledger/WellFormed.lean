import HomeLedger.Proofs.Ledger.Request
import HomeLedger.Shell.Prompt

/-!
# HomeLedger — ledgers stay well formed

The entries of a ledger refer to one another by ids. In a well-formed ledger
every reference has an entry behind it and every id stands for one entry of
its sort, and nothing but positive amounts has been entered.

That is so of the ledger to begin with, and every request keeps it so, as
long as the ids that requests bring along are new. What is new is said of all
ids at once (`Ledger.ids`), since a request does not know what sort of entry
it will make.

Main results:

* `wellFormed_sample` — the ledger to begin with is well formed.
* `wellFormed_of_step` — a step keeps a ledger well formed.
* `wellFormed_after_requests` — so does a run of requests, at every point.
-/

namespace HomeLedger

namespace Ledger

-- ---------------------------------------------------------------------------
-- Ids
-- ---------------------------------------------------------------------------

/-- The ids of a list and of its items. -/
def listIds (list : TodoList) : List String := list.id :: list.items.map (·.id)

/-- The ids of all entries, whatever their sort. References are not among them,
since they stand for entries that are. -/
def ids (l : Ledger) : List String :=
  l.members.map (·.id) ++ l.accounts.map (·.id) ++ l.transactions.map (·.id)
    ++ l.lists.flatMap listIds

/-- An id is that of an entry of one of the four sorts, where items belong to
their lists. -/
theorem mem_ids {l : Ledger} {id : String} : id ∈ l.ids ↔
    id ∈ l.members.map (·.id) ∨ id ∈ l.accounts.map (·.id) ∨ id ∈ l.transactions.map (·.id) ∨
      ∃ list ∈ l.lists, id ∈ listIds list := by
  simp only [ids, List.mem_append, List.mem_flatMap, or_assoc]

theorem mem_ids_of_account {l : Ledger} {a : Account} (h : a ∈ l.accounts) : a.id ∈ l.ids :=
  mem_ids.mpr (.inr (.inl (List.mem_map_of_mem h)))

theorem mem_ids_of_transaction {l : Ledger} {t : Transaction} (h : t ∈ l.transactions) :
    t.id ∈ l.ids :=
  mem_ids.mpr (.inr (.inr (.inl (List.mem_map_of_mem h))))

theorem mem_ids_of_list {l : Ledger} {list : TodoList} (h : list ∈ l.lists) {id : String}
    (hId : id ∈ listIds list) : id ∈ l.ids :=
  mem_ids.mpr (.inr (.inr (.inr ⟨list, h, hId⟩)))

/-- One more transaction brings no id but its own. -/
theorem mem_ids_withEntry {l : Ledger} {t : Transaction} {id : String}
    (h : id ∈ (l.withEntry t).ids) : id ∈ l.ids ∨ id = t.id := by
  rw [mem_ids] at h ⊢
  simp only [withEntry, List.map_append, List.mem_append, List.map_singleton,
    List.mem_singleton] at h
  grind

/-- A list that was changed in place is one of the old ones or the changed
one. -/
theorem mem_withList {l : Ledger} {i : Nat} {change : TodoList → TodoList} {list : TodoList}
    (h : list ∈ (l.withList i change).lists) :
    list ∈ l.lists ∨ ∃ old ∈ l.lists, list = change old := by
  obtain ⟨j, hj, rfl⟩ := List.mem_iff_getElem.mp h
  rw [withList, List.length_modify] at hj
  simp only [withList, List.getElem_modify]
  split
  · exact Or.inr ⟨_, List.getElem_mem hj, rfl⟩
  · exact Or.inl (List.getElem_mem hj)

/-- A list that was changed in place brings no ids but those that the change
brings. -/
theorem mem_ids_withList {l : Ledger} {i : Nat} {change : TodoList → TodoList} {id new : String}
    (hChange : ∀ list, id ∈ listIds (change list) → id ∈ listIds list ∨ id = new)
    (h : id ∈ (l.withList i change).ids) : id ∈ l.ids ∨ id = new := by
  rcases mem_ids.mp h with hm | ha | ht | ⟨list, hList, hId⟩
  · exact Or.inl (mem_ids.mpr (.inl hm))
  · exact Or.inl (mem_ids.mpr (.inr (.inl ha)))
  · exact Or.inl (mem_ids.mpr (.inr (.inr (.inl ht))))
  · rcases mem_withList hList with hOld | ⟨old, hOld, rfl⟩
    · exact Or.inl (mem_ids_of_list hOld hId)
    · rcases hChange old hId with hBefore | hNew
      · exact Or.inl (mem_ids_of_list hOld hBefore)
      · exact Or.inr hNew

/-- Changing items in place keeps their ids, if the change does. -/
theorem itemIds_modifyItem {change : Item → Item} (hKept : ∀ item, (change item).id = item.id)
    (j : Nat) (list : TodoList) :
    (modifyItem j change list).items.map (·.id) = list.items.map (·.id) := by
  refine List.ext_getElem (by simp [modifyItem]) fun k hk hk' => ?_
  simp only [modifyItem, List.getElem_map, List.getElem_modify]
  split
  · rw [hKept]
  · rfl

-- ---------------------------------------------------------------------------
-- Well-formed ledgers
-- ---------------------------------------------------------------------------

/-- Whether every reference has an entry behind it, ids stand for one entry of a
sort, and only positive amounts were entered. This is the invariant of the whole
household. -/
structure WellFormed (l : Ledger) : Prop where
  positive : ∀ t ∈ l.transactions, t.amount.isPositive = true
  posted : ∀ t ∈ l.transactions, ∃ a ∈ l.accounts, a.id = t.accountId
  owned : ∀ a ∈ l.accounts, ∃ m ∈ l.members, m.id = a.ownerId
  account : ∀ id, l.selectedAccount = some id → ∃ a ∈ l.accounts, a.id = id
  member : ∀ id, l.selectedMember = some id → ∃ m ∈ l.members, m.id = id
  list : ∀ id, l.selectedList = some id → ∃ list ∈ l.lists, list.id = id
  members : (l.members.map (·.id)).Nodup
  accounts : (l.accounts.map (·.id)).Nodup
  transactions : (l.transactions.map (·.id)).Nodup
  lists : (l.lists.map (·.id)).Nodup
  items : ∀ list ∈ l.lists, (list.items.map (·.id)).Nodup

/-- The ledger to begin with is well formed, if its ids are distinct. -/
theorem wellFormed_sample {ids : Nat → String} (h : ((List.range sampleIds).map ids).Nodup)
    (now : Instant) : (sample ids now).WellFormed := by
  have hSome : ∀ ns : List Nat, ns.Sublist (List.range sampleIds) → (ns.map ids).Nodup :=
    fun ns hns => h.sublist (hns.map ids)
  exact {
    positive := by
      simp only [sample, List.forall_mem_cons]
      exact ⟨by decide, by decide, by decide, by simp⟩
    posted := by simp [sample]
    owned := by simp [sample]
    account := by simp [sample]
    member := by simp [sample]
    list := by simp [sample]
    members := hSome [0, 1] (by decide)
    accounts := hSome [2, 3, 4] (by decide)
    transactions := hSome [5, 6, 7] (by decide)
    lists := hSome [8, 11] (by decide)
    items := by
      simp only [sample, List.forall_mem_cons]
      exact ⟨hSome [9, 10] (by decide), hSome [12] (by decide), by simp⟩ }

variable {stamp : Stamp} {l l' : Ledger}

/-- One more id that no entry has leaves ids distinct. -/
theorem nodup_concat {α : Type} {id : α → String} {xs : List α} {x : α}
    (h : (xs.map id).Nodup) (hNew : ∀ y ∈ xs, id y ≠ id x) : ((xs ++ [x]).map id).Nodup := by
  rw [List.map_append, List.map_singleton, List.nodup_append]
  refine ⟨h, by simp, ?_⟩
  simpa using hNew

/-- One more transaction keeps a ledger well formed, if its id is new, its
amount positive, and its account there. -/
theorem WellFormed.withEntry (h : l.WellFormed) {t : Transaction} (hNew : t.id ∉ l.ids)
    (hPositive : t.amount.isPositive = true) (hPosted : ∃ a ∈ l.accounts, a.id = t.accountId) :
    (l.withEntry t).WellFormed where
  positive := by
    intro t' ht'
    rcases List.mem_append.mp ht' with hMem | hMem
    · exact h.positive t' hMem
    · rwa [List.mem_singleton.mp hMem]
  posted := by
    intro t' ht'
    rcases List.mem_append.mp ht' with hMem | hMem
    · exact h.posted t' hMem
    · rwa [List.mem_singleton.mp hMem]
  owned := h.owned
  account := h.account
  member := h.member
  list := h.list
  members := h.members
  accounts := h.accounts
  transactions := nodup_concat h.transactions fun t' ht' hId =>
    hNew (hId ▸ mem_ids_of_transaction ht')
  lists := h.lists
  items := h.items

/-- Changing a list in place keeps a ledger well formed, if the ids of its
items stay distinct and the list keeps its own. -/
theorem WellFormed.withList (h : l.WellFormed) {i : Nat} {change : TodoList → TodoList}
    (hId : ∀ list, (change list).id = list.id)
    (hItems : ∀ list ∈ l.lists, ((change list).items.map (·.id)).Nodup) :
    (l.withList i change).WellFormed := by
  have hLists : (l.withList i change).lists.map (·.id) = l.lists.map (·.id) := by
    refine List.ext_getElem (by simp [Ledger.withList]) fun k hk hk' => ?_
    simp only [Ledger.withList, List.getElem_map, List.getElem_modify]
    split
    · rw [hId]
    · rfl
  refine { h with list := ?_, lists := hLists ▸ h.lists, items := ?_ }
  · intro id hSelected
    rw [← List.mem_map, hLists, List.mem_map]
    exact h.list id hSelected
  · intro list hMem
    rcases mem_withList hMem with hOld | ⟨old, hOld, rfl⟩
    · exact h.items list hOld
    · exact hItems old hOld

/-- A step keeps a ledger well formed, if its id is new. There is one case for
each step, and each looks only at the parts that it writes. -/
theorem wellFormed_of_step (hStep : l.Step stamp l') (h : l.WellFormed)
    (hFresh : stamp.id ∉ l.ids) : l'.WellFormed := by
  cases hStep with
  | kept => exact h
  | memberSelected m hMember =>
    refine { h with member := ?_ }
    rintro _ ⟨⟩
    exact ⟨m, hMember, rfl⟩
  | accountSelected a hAccount =>
    refine { h with account := ?_ }
    rintro _ ⟨⟩
    exact ⟨a, hAccount, rfl⟩
  -- the new account is owned, its id is new, and whatever belonged to another account still does
  | accountOpened a hId hName hOwner =>
    refine { h with posted := ?_, owned := ?_, account := ?_, accounts := ?_ }
    · intro t ht
      obtain ⟨a', ha', hSameId⟩ := h.posted t ht
      exact ⟨a', List.mem_append_left _ ha', hSameId⟩
    · intro a' ha'
      rcases List.mem_append.mp ha' with hMem | hMem
      · exact h.owned a' hMem
      · rwa [List.mem_singleton.mp hMem]
    · intro id hSelected
      obtain ⟨a', ha', hSameId⟩ := h.account id hSelected
      exact ⟨a', List.mem_append_left _ ha', hSameId⟩
    · refine nodup_concat h.accounts fun a' ha' hSameId => hFresh ?_
      rw [← hId, ← hSameId]
      exact mem_ids_of_account ha'
  | credited a amount new note hAccount hPositive hNew =>
    exact h.withEntry (t := entry stamp .credit a.id amount note) hFresh hPositive
      ⟨a, hAccount, rfl⟩
  | debited a amount old new note hAccount hPositive hKind hOld hFunds hNew =>
    exact h.withEntry (t := entry stamp .debit a.id amount note) hFresh hPositive
      ⟨a, mem_of_accountOfId? hAccount, rfl⟩
  | listCreated list hId hName hItems =>
    refine { h with list := ?_, lists := ?_, items := ?_ }
    · rintro _ ⟨⟩
      exact ⟨list, List.mem_append_right _ (List.mem_singleton_self _), rfl⟩
    · refine nodup_concat h.lists fun list' hList' hSameId => hFresh ?_
      rw [← hId, ← hSameId]
      exact mem_ids_of_list hList' List.mem_cons_self
    · intro list' hList'
      rcases List.mem_append.mp hList' with hMem | hMem
      · exact h.items list' hMem
      · obtain rfl := List.mem_singleton.mp hMem
        simp [hItems]
  | itemAdded i item hId =>
    refine h.withList (fun _ => rfl) fun list hList => ?_
    refine nodup_concat (h.items list hList) fun item' hItem' hSameId => hFresh ?_
    rw [← hId, ← hSameId]
    exact mem_ids_of_list hList (List.mem_cons_of_mem _ (List.mem_map_of_mem hItem'))
  | itemChanged i j change hKept =>
    refine h.withList (fun _ => rfl) fun list hList => ?_
    rw [itemIds_modifyItem fun item => (hKept item).1]
    exact h.items list hList

/-- An id after a step was there before, or is that of the step. With ids that
are fresh in each step, this is what keeps all of them distinct. -/
theorem mem_ids_of_step (hStep : l.Step stamp l') {id : String} (h : id ∈ l'.ids) :
    id ∈ l.ids ∨ id = stamp.id := by
  cases hStep with
  | kept => exact Or.inl h
  | memberSelected m hMember => exact Or.inl h
  | accountSelected a hAccount => exact Or.inl h
  | accountOpened a hId hName hOwner =>
    rw [mem_ids] at h ⊢
    -- the new id is looked for in each part of the ledger
    simp only [List.map_append, List.mem_append, List.map_singleton, List.mem_singleton, hId] at h
    grind
  | credited a amount new note hAccount hPositive hNew => exact mem_ids_withEntry h
  | debited a amount old new note hAccount hPositive hKind hOld hFunds hNew =>
    exact mem_ids_withEntry h
  | listCreated list hId hName hItems =>
    have hList : listIds list = [stamp.id] := by simp [listIds, hId, hItems]
    rw [mem_ids] at h ⊢
    simp only [List.mem_append, List.mem_singleton, or_and_right, exists_or, exists_eq_left,
      hList] at h
    grind
  | itemAdded i item hId =>
    refine mem_ids_withList (fun list hMem => ?_) h
    simp only [listIds, appendItem, List.map_append, List.mem_cons, List.mem_append,
      List.map_singleton, List.not_mem_nil, or_false, hId] at hMem ⊢
    grind
  | itemChanged i j change hKept =>
    refine mem_ids_withList (fun list hMem => Or.inl ?_) h
    rwa [listIds, itemIds_modifyItem fun item => (hKept item).1] at hMem

end Ledger

-- ---------------------------------------------------------------------------
-- Requests
-- ---------------------------------------------------------------------------

namespace Routes

open Ledger

variable {l l' : Ledger}

/-- The requests bring ids that no entry has yet, each one of its own. -/
structure FreshRequests (requests : List (Setting × Request)) (l : Ledger) : Prop where
  distinct : (requests.map (·.1.stamp.id)).Nodup
  unused : ∀ request ∈ requests, request.1.stamp.id ∉ l.ids

/-- After the first request the ids of the others are still fresh. -/
theorem FreshRequests.tail {s : Setting} {q : Request} {rest : List (Setting × Request)}
    (h : FreshRequests ((s, q) :: rest) l) (hStep : l.Step s.stamp l') : FreshRequests rest l' := by
  obtain ⟨hNotin, hNodup⟩ := List.nodup_cons.mp h.distinct
  refine ⟨hNodup, ?_⟩
  intro request hMem hId
  rcases mem_ids_of_step hStep hId with hBefore | hSame
  · exact h.unused request (List.mem_cons_of_mem _ hMem) hBefore
  · exact hNotin (List.mem_map.mpr ⟨request, hMem, hSame⟩)

/-- The ledger to begin with is well formed, and requests that bring fresh ids
lead from a well-formed ledger to well-formed ones only, however many of them
are answered. -/
theorem wellFormed_after_requests :
    (∀ (ids : Nat → String) (now : Instant), ((List.range sampleIds).map ids).Nodup →
      (sample ids now).WellFormed) ∧
    ∀ (before later : List (Setting × Request)) (l l' : Ledger), l.WellFormed →
      FreshRequests (before ++ later) l → standard.after before l = .ok l' →
      l'.WellFormed ∧ FreshRequests later l' := by
  refine ⟨fun ids now h => wellFormed_sample h now, ?_⟩
  intro before later
  induction before with
  | nil =>
    intro l l' hl hFresh hAfter
    obtain rfl := Except.ok.inj hAfter
    exact ⟨hl, hFresh⟩
  | cons first rest ih =>
    intro l l' hl hFresh hAfter
    obtain ⟨s, q⟩ := first
    obtain ⟨r, m, hAnswer, hRest⟩ := after_cons hAfter
    have hStep := step_of_answer hAnswer
    exact ih m l' (wellFormed_of_step hStep hl (hFresh.unused _ List.mem_cons_self))
      (hFresh.tail hStep) hRest

/-- A jar is opened and filled, more is taken out than goes, and a list is
made and put an item on by a command that no line is read as. -/
def errands : List (Setting × Request) :=
  let setting (id : String) : Setting := { nextDay with stamp := ⟨id, nextDay.stamp.time⟩ }
  [(setting "a", .line "account new Jar --kind savings --owner pat"),
    (setting "b", .line "account select jar"), (setting "c", .line "account credit 5"),
    (setting "d", .line "account debit 1"), (setting "e", .line "list create Party"),
    (setting "f", .command ⟨.list, .add, [.flag "TEXT" "Cake"], ""⟩)]

/-- Five of the requests succeed and one is refused, and the ledger is well
formed all along. -/
theorem errands_well_formed :
    numbered.WellFormed ∧ FreshRequests errands numbered ∧
      ∃ l', standard.after errands numbered = .ok l' ∧ l'.selectedAccount = some "a" ∧
        l'.selectedList = some "e" ∧ l'.transactions.length = 4 ∧ l'.WellFormed := by
  obtain ⟨hSample, hRequests⟩ := wellFormed_after_requests
  have hNumbered : numbered.WellFormed := hSample _ _ (by decide +kernel)
  have hFresh : FreshRequests errands numbered :=
    ⟨by decide +kernel, by decide +kernel⟩
  have hRun : (standard.after errands numbered).toOption.map
      (fun l => (l.selectedAccount, l.selectedList, l.transactions.length)) =
        some (some "a", some "e", 4) := by decide +kernel
  cases hAfter : standard.after errands numbered with
  | error fault => simp [hAfter, Except.toOption] at hRun
  | ok l' =>
    simp only [hAfter, Except.toOption, Option.map_some, Option.some.injEq, Prod.mk.injEq] at hRun
    obtain ⟨hAccount, hList, hCount⟩ := hRun
    refine ⟨hNumbered, hFresh, l', rfl, hAccount, hList, hCount, ?_⟩
    exact (hRequests errands [] _ _ hNumbered (by rwa [List.append_nil]) hAfter).1

end Routes

end HomeLedger
