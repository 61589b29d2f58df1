import HomeLedger.Handler.Basic
import HomeLedger.Proofs.Ledger.Ends
import Mathlib.Logic.Equiv.Basic

/-!
# HomeLedger — other ids

Ids are drawn when entries are made, and nobody chooses them. A renaming puts
other ids in their places: it is a permutation of all texts that is applied to
ids only, in ledgers (`Ledger.renamed`) and in the data of responses
(`Response.renamed`).

Looking something up commutes with a renaming, if the renaming leaves alone
what the query says (`Keeps`), because a query may also be an id.

Main results:

* `resolveAccount_renamed`, `resolveList_renamed` — the same entry is meant.
* `balance_renamed` — and it holds the same.
* `exists_renaming` — ids can be had for other ids, and all else is left alone.
-/

namespace HomeLedger

open Text

-- ---------------------------------------------------------------------------
-- Renaming ids
-- ---------------------------------------------------------------------------

/-- Another id for each id. It is a permutation of all texts, so that ids which
were told apart still are, and every renaming can be taken back. -/
abbrev Renaming := Equiv.Perm String

variable (ρ : Renaming)

/-- The member under another id; its names stay. -/
def Member.renamed (m : Member) : Member := { m with id := ρ m.id }

/-- The account under another id, with its owner's other id. -/
def Account.renamed (a : Account) : Account := { a with id := ρ a.id, ownerId := ρ a.ownerId }

/-- The transaction under another id, on the account of the other id. -/
def Transaction.renamed (t : Transaction) : Transaction :=
  { t with id := ρ t.id, accountId := ρ t.accountId }

/-- The item under another id; its text stays. -/
def Item.renamed (i : Item) : Item := { i with id := ρ i.id }

/-- The list under another id, with its items under theirs. -/
def TodoList.renamed (list : TodoList) : TodoList :=
  { list with id := ρ list.id, items := list.items.map (Item.renamed ρ) }

/-- The ledger with other ids, and with the references to match. -/
def Ledger.renamed (l : Ledger) : Ledger where
  members := l.members.map (Member.renamed ρ)
  accounts := l.accounts.map (Account.renamed ρ)
  transactions := l.transactions.map (Transaction.renamed ρ)
  lists := l.lists.map (TodoList.renamed ρ)
  selectedAccount := l.selectedAccount.map ρ
  selectedMember := l.selectedMember.map ρ
  selectedList := l.selectedList.map ρ

/-- The stamp with another id and the same time. -/
def Stamp.renamed (stamp : Stamp) : Stamp := { stamp with id := ρ stamp.id }

/-- The setting with another stamp. Nothing else in it is an id. -/
def Setting.renamed (s : Setting) : Setting := { s with stamp := s.stamp.renamed ρ }

/-- The keys of the data in a response that are ids. Whatever stands behind
other keys is left alone, even if it reads like an id. -/
def idKeys : List String := ["accountId", "transactionId"]

/-- The value of a datum with another id, if it is one. -/
def renamedValue (key : String) (value : Json) : Json :=
  match value with
  | .string id => .string (if key ∈ idKeys then ρ id else id)
  | value => value

/-- The response with other ids in its data. -/
def Response.renamed (r : Response) : Response :=
  { r with data := r.data.map (·.mapValues (renamedValue ρ)) }

-- ---------------------------------------------------------------------------
-- Responses
-- ---------------------------------------------------------------------------

variable {ρ}

@[simp] theorem Member.id_renamed (m : Member) : (m.renamed ρ).id = ρ m.id := rfl

@[simp] theorem Member.fullName_renamed (m : Member) : (m.renamed ρ).fullName = m.fullName := rfl

@[simp] theorem Member.role_renamed (m : Member) : (m.renamed ρ).role = m.role := rfl

@[simp] theorem Account.id_renamed (a : Account) : (a.renamed ρ).id = ρ a.id := rfl

@[simp] theorem Account.name_renamed (a : Account) : (a.renamed ρ).name = a.name := rfl

@[simp] theorem Account.kind_renamed (a : Account) : (a.renamed ρ).kind = a.kind := rfl

@[simp] theorem Transaction.id_renamed (t : Transaction) : (t.renamed ρ).id = ρ t.id := rfl

@[simp] theorem Item.text_renamed (i : Item) : (i.renamed ρ).text = i.text := rfl

@[simp] theorem Item.box_renamed (i : Item) : (i.renamed ρ).box = i.box := rfl

@[simp] theorem TodoList.name_renamed (list : TodoList) : (list.renamed ρ).name = list.name := rfl

@[simp] theorem TodoList.items_renamed (list : TodoList) :
    (list.renamed ρ).items = list.items.map (Item.renamed ρ) := rfl

@[simp] theorem TodoList.openItems_renamed (list : TodoList) :
    (list.renamed ρ).openItems = list.openItems.map (Item.renamed ρ) := List.filter_map

@[simp] theorem Setting.formatting_renamed (s : Setting) :
    (s.renamed ρ).formatting = s.formatting := rfl

namespace Response

/-- Values are changed one by one, so it makes no difference whether a datum is
put in before or afterwards. -/
theorem Data.mapValues_insert (change : String → Json → Json) (key : String) (value : Json)
    (d : Data) :
    (d.insert key value).mapValues change = (d.mapValues change).insert key (change key value) := by
  obtain ⟨members, hSorted⟩ := d
  refine Data.ext ?_
  show (Json.insert key value members).map (fun m => (m.1, change m.1 m.2)) =
    Json.insert key (change key value) (members.map fun m => (m.1, change m.1 m.2))
  clear hSorted
  induction members with
  | nil => rfl
  | cons m rest ih =>
    obtain ⟨k, v⟩ := m
    rw [List.map_cons, Json.insert, Json.insert]
    split
    · rfl
    · split
      · rfl
      · rw [List.map_cons, ih]

@[simp] theorem renamed_ok (message : String) : (ok message).renamed ρ = ok message := rfl

theorem renamed_withData (r : Response) (key : String) (value : Json) :
    (r.withData key value).renamed ρ =
      (r.renamed ρ).withData key (renamedValue ρ key value) := by
  obtain ⟨success, message, data⟩ := r
  cases data with
  | none => rfl
  | some d =>
    show Response.mk success message (some ((d.insert key value).mapValues (renamedValue ρ))) = _
    rw [Data.mapValues_insert]
    rfl

/-- An array is no id, and no id stands in one: what is listed for a user are
texts. -/
@[simp] theorem renamed_withArray (r : Response) (key : String) (items : List Json) :
    (r.withData key (.array items)).renamed ρ = (r.renamed ρ).withData key (.array items) :=
  renamed_withData r key _

@[simp] theorem renamed_withText (r : Response) (key value : String) :
    (r.withText key value).renamed ρ =
      (r.renamed ρ).withText key (if key ∈ idKeys then ρ value else value) :=
  renamed_withData r key _

end Response

-- ---------------------------------------------------------------------------
-- Looking up
-- ---------------------------------------------------------------------------

/-- A renaming leaves alone what a query may be the id of. Without this a query
could mean another entry under other ids. -/
def Keeps (ρ : Renaming) (query : String) : Prop := ρ (trimmed query) = trimmed query

/-- Ids are told apart under other ids as well. This is where it is used that a
renaming is a permutation. -/
theorem beq_renamed (id id' : String) : (ρ id == ρ id') = (id == id') := by
  by_cases h : id = id'
  · simp [h]
  · rw [beq_eq_false_iff_ne.mpr h, beq_eq_false_iff_ne.mpr (ρ.injective.ne h)]

theorem Keeps.beq {query : String} (h : Keeps ρ query) (id : String) :
    (ρ id == trimmed query) = (id == trimmed query) := by
  have hBeq : (ρ id == ρ (trimmed query)) = (id == trimmed query) := beq_renamed id _
  rwa [h] at hBeq

/-- The first entry with a property is at the same place in a list of what the
entries are mapped to. Lists of the household are meant by their place. -/
theorem findFinIdx?_map {α β : Type} (f : α → β) (p : β → Bool) (xs : List α) :
    (xs.map f).findFinIdx? p =
      (xs.findFinIdx? (p ∘ f)).map (Fin.cast (List.length_map f).symm) := by
  cases h : xs.findFinIdx? (p ∘ f) with
  | none =>
    rw [List.findFinIdx?_eq_none_iff] at h
    rw [Option.map_none, List.findFinIdx?_eq_none_iff]
    simpa using h
  | some i =>
    rw [List.findFinIdx?_eq_some_iff] at h
    rw [Option.map_some, List.findFinIdx?_eq_some_iff]
    obtain ⟨hi, hBefore⟩ := h
    refine ⟨by simpa using hi, fun j hj => ?_⟩
    have hj' := hBefore ⟨j, by simpa using j.isLt⟩ hj
    simpa using hj'

/-- A change that commutes with a map may be made before it or behind it. -/
theorem modify_map {α β : Type} {f : α → β} {change : α → α} {change' : β → β}
    (h : ∀ a, change' (f a) = f (change a)) (xs : List α) (i : Nat) :
    (xs.map f).modify i change' = (xs.modify i change).map f := by
  refine List.ext_getElem (by simp) fun j hj hj' => ?_
  simp only [List.getElem_modify, List.getElem_map]
  split
  · exact h _
  · rfl

namespace Ledger

variable {l : Ledger}

theorem findMember?_renamed {query : String} (h : Keeps ρ query) :
    (l.renamed ρ).findMember? query = (l.findMember? query).map (Member.renamed ρ) := by
  have hCalled : (Member.isCalled · query) ∘ Member.renamed ρ = (Member.isCalled · query) := by
    funext m
    simp only [Function.comp_apply, Member.isCalled, Member.renamed, h.beq]
    rfl
  rw [findMember?, renamed, List.find?_map, hCalled, findMember?]

theorem findAccount?_renamed {query : String} (h : Keeps ρ query) :
    (l.renamed ρ).findAccount? query = (l.findAccount? query).map (Account.renamed ρ) := by
  have hCalled : (Account.isCalled · query) ∘ Account.renamed ρ = (Account.isCalled · query) := by
    funext a
    simp only [Function.comp_apply, Account.isCalled, Account.renamed, h.beq]
  rw [findAccount?, renamed, List.find?_map, hCalled, findAccount?]

/-- Whether a query that is kept means a list does not depend on ids. -/
theorem isCalled_comp_renamed {query : String} (h : Keeps ρ query) :
    (TodoList.isCalled · query) ∘ TodoList.renamed ρ = (TodoList.isCalled · query) := by
  funext list
  simp only [Function.comp_apply, TodoList.isCalled, TodoList.renamed, h.beq]

theorem findList?_renamed {query : String} (h : Keeps ρ query) :
    (l.renamed ρ).findList? query = (l.findList? query).map (TodoList.renamed ρ) := by
  rw [findList?, renamed, List.find?_map, isCalled_comp_renamed h, findList?]

theorem memberOfId?_renamed (id : String) :
    (l.renamed ρ).memberOfId? (ρ id) = (l.memberOfId? id).map (Member.renamed ρ) := by
  have hId : (fun m : Member => m.id == ρ id) ∘ Member.renamed ρ = (·.id == id) :=
    funext fun m => beq_renamed m.id id
  rw [memberOfId?, renamed, List.find?_map, hId, memberOfId?]

theorem accountOfId?_renamed (id : String) :
    (l.renamed ρ).accountOfId? (ρ id) = (l.accountOfId? id).map (Account.renamed ρ) := by
  have hId : (fun a : Account => a.id == ρ id) ∘ Account.renamed ρ = (·.id == id) :=
    funext fun a => beq_renamed a.id id
  rw [accountOfId?, renamed, List.find?_map, hId, accountOfId?]

/-- Who is selected is the same member, as the selection is renamed along. -/
theorem currentMember?_renamed :
    (l.renamed ρ).currentMember? = l.currentMember?.map (Member.renamed ρ) := by
  cases h : l.selectedMember with
  | none => simp [currentMember?, renamed, h]
  | some id =>
    have hRenamed : (l.renamed ρ).selectedMember = some (ρ id) := by simp [renamed, h]
    rw [currentMember?, hRenamed, Option.bind_some, memberOfId?_renamed, currentMember?, h,
      Option.bind_some]

theorem currentAccount?_renamed :
    (l.renamed ρ).currentAccount? = l.currentAccount?.map (Account.renamed ρ) := by
  cases h : l.selectedAccount with
  | none => simp [currentAccount?, renamed, h]
  | some id =>
    have hRenamed : (l.renamed ρ).selectedAccount = some (ρ id) := by simp [renamed, h]
    rw [currentAccount?, hRenamed, Option.bind_some, accountOfId?_renamed, currentAccount?, h,
      Option.bind_some]

theorem accountsOf_renamed (id : String) :
    (l.renamed ρ).accountsOf (ρ id) = (l.accountsOf id).map (Account.renamed ρ) := by
  have hOwner : (fun a : Account => a.ownerId == ρ id && a.isActive) ∘ Account.renamed ρ =
      fun a => a.ownerId == id && a.isActive := by
    funext a
    simp only [Function.comp_apply, Account.renamed, beq_renamed]
  rw [accountsOf, renamed, List.filter_map, hOwner, accountsOf]

theorem settled_renamed (id : String) :
    (l.renamed ρ).settled (ρ id) = (l.settled id).map (Transaction.renamed ρ) := by
  have hAccount : (fun t : Transaction => t.accountId == ρ id && t.status == .completed) ∘
      Transaction.renamed ρ = fun t => t.accountId == id && t.status == .completed := by
    funext t
    simp only [Function.comp_apply, Transaction.renamed, beq_renamed]
  rw [settled, renamed, List.filter_map, hAccount, settled]

/-- What an account holds does not depend on its id, nor on those of its
transactions. -/
theorem balance_renamed (id : String) : (l.renamed ρ).balance (ρ id) = l.balance id := by
  rw [balance, settled_renamed, List.map_map]
  rfl

theorem memberBalance_renamed (id : String) :
    (l.renamed ρ).memberBalance (ρ id) = l.memberBalance id := by
  have hStep : (fun a : Account => (l.renamed ρ).balance a.id) ∘ Account.renamed ρ =
      fun a => l.balance a.id := funext fun a => balance_renamed a.id
  rw [memberBalance, accountsOf_renamed, List.mapM_map, hStep, memberBalance]

/-- The account that is meant is the same one, be it named or selected. What is
typed is kept by the renaming, be it a name or an id, while what is selected is
an id and is renamed with the accounts. -/
theorem resolveAccount_renamed {query : Option String} (h : ∀ q, query = some q → Keeps ρ q) :
    (l.renamed ρ).resolveAccount query = (l.resolveAccount query).map (Account.renamed ρ) := by
  cases query with
  | some q =>
    rw [resolveAccount, findAccount?_renamed (h q rfl), resolveAccount]
    cases l.findAccount? q <;> rfl
  | none =>
    simp only [resolveAccount, currentAccount?_renamed]
    cases l.currentAccount? with
    | some a => rfl
    | none =>
      match hAccounts : l.accounts with
      | [] => simp [renamed, hAccounts]; rfl
      | [a] => simp [renamed, hAccounts]; rfl
      | _ :: _ :: _ => simp [renamed, hAccounts]; rfl

theorem length_lists_renamed : l.lists.length = (l.renamed ρ).lists.length :=
  (List.length_map _).symm

theorem currentList?_renamed :
    (l.renamed ρ).currentList? = l.currentList?.map (Fin.cast length_lists_renamed) := by
  cases h : l.selectedList with
  | none => simp [currentList?, renamed, h]
  | some id =>
    have hRenamed : (l.renamed ρ).selectedList = some (ρ id) := by simp [renamed, h]
    have hId : (fun list : TodoList => list.id == ρ id) ∘ TodoList.renamed ρ =
        fun list => list.id == id := funext fun list => beq_renamed list.id id
    have hMap := findFinIdx?_map (TodoList.renamed ρ) (·.id == ρ id) l.lists
    rw [hId] at hMap
    rw [currentList?, hRenamed, Option.bind_some, currentList?, h, Option.bind_some]
    exact hMap

/-- The list that is meant is at the same place. -/
theorem resolveList_renamed {query : Option String} (h : ∀ q, query = some q → Keeps ρ q) :
    (l.renamed ρ).resolveList query =
      (l.resolveList query).map (Fin.cast length_lists_renamed) := by
  cases query with
  | some q =>
    have hFind : (l.renamed ρ).lists.findFinIdx? (·.isCalled q) =
        (l.lists.findFinIdx? (·.isCalled q)).map (Fin.cast length_lists_renamed) := by
      have hMap := findFinIdx?_map (TodoList.renamed ρ) (·.isCalled q) l.lists
      rw [isCalled_comp_renamed (h q rfl)] at hMap
      exact hMap
    rw [resolveList, hFind, resolveList]
    cases l.lists.findFinIdx? (·.isCalled q) <;> rfl
  | none =>
    rw [resolveList, currentList?_renamed, resolveList]
    -- without a list that is selected it depends on how many there are
    cases l.currentList? with
    | some i => rfl
    | none =>
      have hLength : (l.renamed ρ).lists.length = l.lists.length := length_lists_renamed.symm
      simp only [Option.map_none, hLength]
      split
      · rfl
      · split <;> rfl

theorem get_lists_renamed (i : Fin l.lists.length) :
    (l.renamed ρ).lists.get (Fin.cast length_lists_renamed i) = (l.lists.get i).renamed ρ :=
  List.getElem_map _

/-- A change to a list that does not look at ids is the same change under other
ids. -/
theorem withList_renamed {change change' : TodoList → TodoList}
    (h : ∀ list, change' (list.renamed ρ) = (change list).renamed ρ) (i : Nat) :
    (l.renamed ρ).withList i change' = (l.withList i change).renamed ρ := by
  simp only [withList, renamed, modify_map h]

theorem withEntry_renamed (t : Transaction) :
    (l.renamed ρ).withEntry (t.renamed ρ) = (l.withEntry t).renamed ρ := by
  simp only [withEntry, renamed, List.map_append, List.map_singleton]

end Ledger

-- ---------------------------------------------------------------------------
-- Renamings that there are
-- ---------------------------------------------------------------------------

/-- Ids that are drawn anew can be had for other ids, and all else is left
alone. Two draws are two lists of distinct ids, and a permutation leads from one
to the other, whether they overlap or not. -/
theorem exists_renaming {ids ids' : List String} (hLength : ids.length = ids'.length)
    (h : ids.Nodup) (h' : ids'.Nodup) :
    ∃ ρ : Renaming, ids.map ρ = ids' ∧ ∀ id, id ∉ ids → id ∉ ids' → ρ id = id := by
  induction ids generalizing ids' with
  | nil =>
    obtain rfl := List.length_eq_zero_iff.mp hLength.symm
    exact ⟨Equiv.refl _, rfl, fun _ _ _ => rfl⟩
  | cons id ids ih =>
    obtain _ | ⟨id', ids'⟩ := ids'
    · simp at hLength
    obtain ⟨hNotin, hNodup⟩ := List.nodup_cons.mp h
    obtain ⟨hNotin', hNodup'⟩ := List.nodup_cons.mp h'
    obtain ⟨ρ, hMap, hOthers⟩ := ih (Nat.succ.inj hLength) hNodup hNodup'
    -- what the first id is renamed to changes places with what it should be renamed to
    refine ⟨ρ.trans (Equiv.swap (ρ id) id'), ?_, ?_⟩
    · have hRest : ∀ x ∈ ids, Equiv.swap (ρ id) id' (ρ x) = ρ x := by
        intro x hx
        refine Equiv.swap_apply_of_ne_of_ne ?_ ?_
        · exact fun hEq => hNotin (ρ.injective hEq ▸ hx)
        · exact fun hEq => hNotin' (hEq ▸ hMap ▸ List.mem_map_of_mem hx)
      rw [List.map_cons, Equiv.trans_apply, Equiv.swap_apply_left, ← hMap]
      exact congrArg (id' :: ·) (List.map_congr_left hRest)
    · intro x hx hx'
      obtain ⟨hne, hOut⟩ := not_or.mp (mt List.mem_cons.mpr hx)
      obtain ⟨hne', hOut'⟩ := not_or.mp (mt List.mem_cons.mpr hx')
      have hx : ρ x = x := hOthers x hOut hOut'
      rw [Equiv.trans_apply, hx]
      refine Equiv.swap_apply_of_ne_of_ne ?_ hne'
      exact fun hEq => hne (ρ.injective (hx.trans hEq))

namespace Ledger

/-- The ids in a ledger, of entries and in references. -/
def mentions (l : Ledger) : List String :=
  l.members.map (·.id) ++ l.accounts.flatMap (fun a => [a.id, a.ownerId])
    ++ l.transactions.flatMap (fun t => [t.id, t.accountId])
    ++ l.lists.flatMap (fun list => list.id :: list.items.map (·.id))
    ++ l.selectedAccount.toList ++ l.selectedMember.toList ++ l.selectedList.toList

/-- A renaming that leaves alone the ids in a ledger leaves alone the
ledger. -/
theorem renamed_eq_self {l : Ledger} (h : ∀ id ∈ l.mentions, ρ id = id) : l.renamed ρ = l := by
  simp only [mentions, List.mem_append, or_imp, forall_and, List.forall_mem_map,
    List.forall_mem_flatMap, List.forall_mem_cons, Option.mem_toList] at h
  obtain ⟨⟨⟨⟨⟨⟨hMembers, hAccounts⟩, hTransactions⟩, hLists⟩, hAccount⟩, hMember⟩, hList⟩ := h
  -- an id that is left alone stays wherever it stands
  have hSelected : ∀ o : Option String, (∀ id, o = some id → ρ id = id) → o.map ρ = o := by
    intro o ho
    cases o with
    | none => rfl
    | some id => rw [Option.map_some, ho id rfl]
  have hMap : ∀ {α : Type} (f : α → α) (xs : List α), (∀ x ∈ xs, f x = x) → xs.map f = xs :=
    fun f xs hf => (List.map_congr_left hf).trans (List.map_id xs)
  have hItems : ∀ list ∈ l.lists, list.items.map (Item.renamed ρ) = list.items := by
    intro list hMem
    refine hMap _ _ fun item hItem => ?_
    rw [Item.renamed, hLists.2 list hMem item hItem]
  rw [renamed, hSelected _ hAccount, hSelected _ hMember, hSelected _ hList,
    hMap (Member.renamed ρ), hMap (Account.renamed ρ), hMap (Transaction.renamed ρ),
    hMap (TodoList.renamed ρ)]
  · intro list hMem
    rw [TodoList.renamed, hItems list hMem, hLists.1 list hMem]
  · intro t ht
    rw [Transaction.renamed, hTransactions.1 t ht, hTransactions.2.1 t ht]
  · intro a ha
    rw [Account.renamed, hAccounts.1 a ha, hAccounts.2.1 a ha]
  · intro m hm
    rw [Member.renamed, hMembers m hm]

end Ledger

end HomeLedger
