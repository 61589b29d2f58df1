import HomeLedger.Proofs.Ledger.Request
import Mathlib.Data.List.Basic

/-!
# HomeLedger — ticking items off

A list may hold several items of one text, and some of them may be done. A
text means the first of them, done or not. So to tick a text off is to tick
off one and the same item however often it is done: the second time changes
nothing, and open items of that text that come later stay open.

Main results:

* `length_filter_ticked` — what ticking one item off takes from a count.
* `resolveList_withList` — a list that is changed in place is meant as before.
* `completeItem_repeated` — what is ticked off, once and again.
* `later_item_stays_open` — an open item that no repetition reaches.
-/

namespace HomeLedger

-- ---------------------------------------------------------------------------
-- Items
-- ---------------------------------------------------------------------------

/-- Whether a text means an item. -/
def Item.isMeant (item : Item) (text : String) : Bool :=
  Text.equalFold item.text (Text.trimmed text)

/-- The item with its box ticked. -/
def Item.ticked (item : Item) : Item := { item with completed := true }

@[simp] theorem Item.ticked_ticked (item : Item) : item.ticked.ticked = item.ticked := rfl

/-- What an item is meant by is its text, which a tick does not change. -/
@[simp] theorem Item.isMeant_ticked (item : Item) (text : String) :
    item.ticked.isMeant text = item.isMeant text := rfl

/-- The open items of a text. -/
def TodoList.openOf (list : TodoList) (text : String) : List Item :=
  list.openItems.filter (·.isMeant text)

/-- Ticking off an item that has a property of open items makes the items with
the property one less. It is stated as a sum, so that an item without the
property is no case of its own. -/
theorem length_filter_ticked {p : Item → Bool} (hp : ∀ item : Item, p item.ticked = false)
    (items : List Item) (j : Fin items.length) :
    ((items.modify j Item.ticked).filter p).length + (if p (items.get j) then 1 else 0) =
      (items.filter p).length := by
  have hSplit : items = items.take j ++ items.get j :: items.drop (j + 1) := by
    rw [List.get_eq_getElem, List.getElem_cons_drop, List.take_append_drop]
  have hModify : items.modify j Item.ticked =
      items.take j ++ (items.get j).ticked :: items.drop (j + 1) :=
    List.modify_eq_take_cons_drop j.isLt
  have hLength := congrArg (fun items => (items.filter p).length) hSplit
  simp only [List.filter_append, List.length_append, List.filter_cons] at hLength
  simp only [hModify, hLength, List.filter_append, List.length_append, List.filter_cons, hp,
    Bool.false_eq_true, if_false]
  split
  · rw [List.length_cons, Nat.add_assoc]
  · rfl

namespace Ledger

open Booking

variable {l : Ledger} {query : Option String} {text : String} {i : Fin l.lists.length}

-- ---------------------------------------------------------------------------
-- Lists that are changed in place
-- ---------------------------------------------------------------------------

/-- A change in place that does not matter for a search does not matter for
where it ends. -/
theorem findFinIdx?_modify {α : Type} {change : α → α} {p : α → Bool}
    (hp : ∀ a, p (change a) = p a) (xs : List α) (k : Nat) :
    (xs.modify k change).findFinIdx? p =
      (xs.findFinIdx? p).map (Fin.cast (List.length_modify ..).symm) := by
  -- the change is not seen by the test, so the first place where it holds is the same
  have hSame : ∀ (m : Nat) (hm : m < xs.length) (hm' : m < (xs.modify k change).length),
      p (xs.modify k change)[m] = p xs[m] := by
    intro m hm hm'
    rw [List.getElem_modify]
    split
    · exact hp _
    · rfl
  cases h : xs.findFinIdx? p with
  | none =>
    rw [List.findFinIdx?_eq_none_iff] at h
    rw [Option.map_none, List.findFinIdx?_eq_none_iff]
    intro a ha
    obtain ⟨m, hm, rfl⟩ := List.mem_iff_getElem.mp ha
    have hm' : m < xs.length := by rwa [List.length_modify] at hm
    rw [hSame m hm' hm]
    exact h _ (List.getElem_mem hm')
  | some i =>
    rw [List.findFinIdx?_eq_some_iff] at h
    rw [Option.map_some, List.findFinIdx?_eq_some_iff]
    refine ⟨(hSame i i.isLt _).trans h.1, fun j hj => ?_⟩
    have hj' : j.val < xs.length := by simpa using j.isLt
    rw [Fin.getElem_fin, hSame j hj' j.isLt]
    exact h.2 ⟨j, hj'⟩ hj

theorem length_lists_withList (l : Ledger) (k : Nat) (change : TodoList → TodoList) :
    l.lists.length = (l.withList k change).lists.length :=
  (List.length_modify ..).symm

theorem get_lists_withList (l : Ledger) (i : Fin l.lists.length) (change : TodoList → TodoList) :
    (l.withList i change).lists.get (i.cast (length_lists_withList l i change)) =
      change (l.lists.get i) := by
  rw [List.get_eq_getElem, List.get_eq_getElem]
  exact List.getElem_modify_eq ..

/-- The list that is meant is at the same place when a list was changed that
has kept its id and its name. -/
theorem resolveList_withList {change : TodoList → TodoList}
    (hChange : ∀ list, (change list).id = list.id ∧ (change list).name = list.name)
    (l : Ledger) (k : Nat) (query : Option String) :
    (l.withList k change).resolveList query =
      (l.resolveList query).map (Fin.cast (length_lists_withList l k change)) := by
  have hCalled : ∀ (q : String) (list : TodoList), (change list).isCalled q = list.isCalled q := by
    intro q list
    rw [TodoList.isCalled, (hChange list).1, (hChange list).2, TodoList.isCalled]
  cases query with
  | some q =>
    have hFind : (l.withList k change).lists.findFinIdx? (·.isCalled q) =
        (l.lists.findFinIdx? (·.isCalled q)).map (Fin.cast (length_lists_withList l k change)) :=
      findFinIdx?_modify (hCalled q) l.lists k
    rw [resolveList, hFind, resolveList]
    cases l.lists.findFinIdx? (·.isCalled q) <;> rfl
  | none =>
    have hCurrent : (l.withList k change).currentList? =
        l.currentList?.map (Fin.cast (length_lists_withList l k change)) := by
      -- lists are looked up by id where one is selected, and the change keeps the id
      have hFind : ∀ id : String, (l.withList k change).lists.findFinIdx? (·.id == id) =
          (l.lists.findFinIdx? (·.id == id)).map (Fin.cast (length_lists_withList l k change)) :=
        fun id => findFinIdx?_modify (fun list => by rw [(hChange list).1]) l.lists k
      cases hSelected : l.selectedList with
      | none => simp [currentList?, withList, hSelected]
      | some id =>
        have hSelected' : (l.withList k change).selectedList = some id := hSelected
        rw [currentList?, hSelected', Option.bind_some, hFind, currentList?, hSelected,
          Option.bind_some]
    rw [resolveList, hCurrent, resolveList]
    cases l.currentList? with
    | some i => rfl
    | none =>
      have hLength : (l.withList k change).lists.length = l.lists.length :=
        (length_lists_withList l k change).symm
      simp only [Option.map_none, hLength]
      split
      · rfl
      · split <;> rfl

-- ---------------------------------------------------------------------------
-- Ticking off
-- ---------------------------------------------------------------------------

/-- A change of an item that is there is made, and the answer is the changed
item. -/
theorem run_changeItem {change : Item → Item} {j : Fin (l.lists.get i).items.length}
    (hList : l.resolveList query = .ok i) (hItem : itemIndex? (l.lists.get i) text = some j) :
    (changeItem query text change).run l =
      .ok (change ((l.lists.get i).items.get j)) (l.withList i (modifyItem j change)) := by
  have hFound : (found (.noItem text (l.lists.get i).name)
      (itemIndex? (l.lists.get i) text)).run l = .ok j l := by
    rw [hItem]
    rfl
  rw [changeItem, run_bind_of_ok run_get, run_bind_of_ok (run_allowed_of_ok hList)]
  exact run_bind_of_ok hFound

/-- The items that ticking a text off gives when it is done so many times. Each
time starts from the ledger that the time before has left. -/
def completeTimes (query : Option String) (text : String) : Nat → Booking (List Item)
  | 0 => pure []
  | n + 1 => do
    let item ← completeItem query text
    return item :: (← completeTimes query text n)

/-- The item that a text means is the first one of that text, done or not. So an
item in front hides all behind it. -/
theorem itemIndex?_eq_some_iff {list : TodoList} {j : Fin list.items.length} :
    itemIndex? list text = some j ↔ (list.items.get j).isMeant text = true ∧
      ∀ k < j, (list.items.get k).isMeant text = false := by
  simp only [itemIndex?, List.findFinIdx?_eq_some_iff, Bool.not_eq_true]
  rfl

/-- A text that some item has means an item. -/
theorem exists_itemIndex? {list : TodoList} {item : Item} (hMem : item ∈ list.items)
    (hMeant : item.isMeant text = true) : ∃ j, itemIndex? list text = some j := by
  cases h : itemIndex? list text with
  | some j => exact ⟨j, rfl⟩
  | none =>
    have hNone := List.findFinIdx?_eq_none_iff.mp h item hMem
    rw [Item.isMeant] at hMeant
    rw [hMeant] at hNone
    exact absurd rfl hNone

/-- When an item has been ticked off, the same text means it again, because the
search looks at texts only. -/
theorem itemIndex?_ticked {list : TodoList} {j : Fin list.items.length} (k : Nat)
    (h : itemIndex? list text = some j) :
    itemIndex? (modifyItem k Item.ticked list) text =
      some (j.cast (List.length_modify ..).symm) := by
  have hModify : (list.items.modify k Item.ticked).findFinIdx? (·.isMeant text) =
      (list.items.findFinIdx? (·.isMeant text)).map (Fin.cast (List.length_modify ..).symm) :=
    findFinIdx?_modify (fun item => item.isMeant_ticked text) list.items k
  have hFind : list.items.findFinIdx? (·.isMeant text) = some j := h
  rw [hFind] at hModify
  exact hModify

/-- The ledger with an item ticked off. -/
def withTicked (l : Ledger) (i j : Nat) : Ledger := l.withList i (modifyItem j Item.ticked)

/-- An item is ticked off once and for all. -/
theorem withTicked_withTicked (l : Ledger) (i j : Nat) :
    (l.withTicked i j).withTicked i j = l.withTicked i j := by
  have hList : modifyItem j Item.ticked ∘ modifyItem j Item.ticked = modifyItem j Item.ticked := by
    funext list
    simp only [Function.comp_apply, modifyItem, List.modify_modify_eq]
    rfl
  simp only [withTicked, withList, List.modify_modify_eq, hList]

/-- The text that has ticked an item off ticks the same item off again, and
that changes nothing. -/
theorem run_completeItem_again {j : Fin (l.lists.get i).items.length}
    (hList : l.resolveList query = .ok i) (hItem : itemIndex? (l.lists.get i) text = some j) :
    (completeItem query text).run (l.withTicked i j) =
      .ok ((l.lists.get i).items.get j).ticked (l.withTicked i j) := by
  -- the item is found again in the list that was changed, at the same place
  have hChanged : ∀ list, list = modifyItem j Item.ticked (l.lists.get i) →
      ∃ j' : Fin list.items.length, itemIndex? list text = some j' ∧ j'.val = j.val ∧
        list.items.get j' = ((l.lists.get i).items.get j).ticked := by
    rintro _ rfl
    refine ⟨_, itemIndex?_ticked j hItem, rfl, ?_⟩
    simp [modifyItem]
  have hSame : ∀ list, (modifyItem j Item.ticked list).id = list.id ∧
      (modifyItem j Item.ticked list).name = list.name := fun _ => ⟨rfl, rfl⟩
  have hList' : (l.withTicked i j).resolveList query =
      .ok (i.cast (length_lists_withList l i (modifyItem j Item.ticked))) :=
    (resolveList_withList hSame l i query).trans (by rw [hList]; rfl)
  obtain ⟨j', hItem', hj', hGet⟩ := hChanged
    ((l.withTicked i j).lists.get (i.cast (length_lists_withList l i _)))
    (get_lists_withList l i (modifyItem j Item.ticked))
  have hRun : (completeItem query text).run (l.withTicked i j) = .ok
      (((l.withTicked i j).lists.get _).items.get j').ticked ((l.withTicked i j).withTicked _ j') :=
    run_changeItem hList' hItem'
  -- the item is ticked already, so ticking it again changes nothing
  rw [hGet, hj', Item.ticked_ticked] at hRun
  exact hRun.trans (congrArg _ (withTicked_withTicked l i j))

/-- Ticking a text off once more is doing so first and then the other times. -/
theorem run_completeTimes_succ {n : Nat} {item : Item} {items : List Item} {m m' : Ledger}
    (hFirst : (completeItem query text).run l = .ok item m)
    (hRest : (completeTimes query text n).run m = .ok items m') :
    (completeTimes query text (n + 1)).run l = .ok (item :: items) m' := by
  rw [completeTimes, run_bind_of_ok hFirst, run_bind_of_ok hRest]
  rfl

/-- Ticking a text off again and again gives the same item every time, and the
ledger is as it was after the first time. By induction on how often it is
done. -/
theorem run_completeTimes {j : Fin (l.lists.get i).items.length}
    (hList : l.resolveList query = .ok i) (hItem : itemIndex? (l.lists.get i) text = some j)
    (n : Nat) :
    (completeTimes query text (n + 1)).run l =
      .ok (List.replicate (n + 1) ((l.lists.get i).items.get j).ticked) (l.withTicked i j) := by
  have hAgain : ∀ n, (completeTimes query text n).run (l.withTicked i j) =
      .ok (List.replicate n ((l.lists.get i).items.get j).ticked) (l.withTicked i j) := by
    intro n
    induction n with
    | zero => rfl
    | succ n ih => exact run_completeTimes_succ (run_completeItem_again hList hItem) ih
  exact run_completeTimes_succ (run_changeItem hList hItem) (hAgain n)

-- ---------------------------------------------------------------------------
-- What stays open
-- ---------------------------------------------------------------------------

/-- Ticking off an item that is done changes nothing. -/
theorem modifyItem_ticked_of_completed {list : TodoList} {j : Fin list.items.length}
    (h : (list.items.get j).completed = true) : modifyItem j Item.ticked list = list := by
  have hTicked : (list.items.get j).ticked = list.items.get j := by
    rw [Item.ticked, ← h]
  have hItems : list.items.modify j Item.ticked = list.items := by
    refine List.ext_getElem (List.length_modify ..) fun k hk hk' => ?_
    rw [List.getElem_modify]
    split
    · next hEq =>
      subst hEq
      exact hTicked
    · rfl
  rw [modifyItem, hItems]

/-- How many items are open after one was ticked off, and how many of them a
text means that means this one. Both are one less, or the same if the item was
done. -/
theorem length_open_ticked {list : TodoList} {j : Fin list.items.length}
    (h : (list.items.get j).isMeant text = true) :
    (modifyItem j Item.ticked list).openItems.length +
        (if (list.items.get j).completed then 0 else 1) = list.openItems.length ∧
      ((modifyItem j Item.ticked list).openOf text).length +
        (if (list.items.get j).completed then 0 else 1) = (list.openOf text).length := by
  have hOpen := length_filter_ticked (p := fun item => !item.completed) (fun _ => rfl) list.items j
  have hOpenOf := length_filter_ticked (p := fun item => item.isMeant text && !item.completed)
    (fun _ => Bool.and_false _) list.items j
  rw [h, Bool.true_and] at hOpenOf
  simp only [TodoList.openOf, TodoList.openItems, modifyItem, List.filter_filter]
  cases hDone : (list.items.get j).completed with
  | true =>
    rw [hDone] at hOpen hOpenOf
    exact ⟨hOpen, hOpenOf⟩
  | false =>
    rw [hDone] at hOpen hOpenOf
    exact ⟨hOpen, hOpenOf⟩

/-- Nothing of a text is left open once an item was ticked off that it means,
just if that item was open and no other item of the text was. -/
theorem openOf_ticked_eq_nil_iff {list : TodoList} {j : Fin list.items.length}
    (h : (list.items.get j).isMeant text = true) (hOpen : list.openOf text ≠ []) :
    (modifyItem j Item.ticked list).openOf text = [] ↔ list.openOf text = [list.items.get j] := by
  have hLength := (length_open_ticked h).2
  have hSome : 0 < (list.openOf text).length := List.length_pos_of_ne_nil hOpen
  -- an item that was done before is none of the open ones, and any other one was the last of them
  cases hDone : (list.items.get j).completed with
  | true =>
    have hKept : modifyItem j Item.ticked list = list := modifyItem_ticked_of_completed hDone
    have hNot : list.items.get j ∉ list.openOf text := fun hMem => by
      have hItem := (List.mem_filter.mp (List.mem_of_mem_filter hMem)).2
      rw [hDone] at hItem
      exact Bool.false_ne_true hItem
    rw [hKept]
    refine ⟨fun hNil => absurd hNil hOpen, fun hOnly => absurd ?_ hNot⟩
    rw [hOnly]
    exact List.mem_singleton_self _
  | false =>
    have hMem : list.items.get j ∈ list.openOf text :=
      List.mem_filter.mpr ⟨List.mem_filter.mpr ⟨List.get_mem .., by rw [hDone]; rfl⟩, h⟩
    rw [hDone, if_neg (by decide)] at hLength
    rw [← List.length_eq_zero_iff]
    constructor
    · intro hZero
      obtain ⟨only, hOnly⟩ := List.length_eq_one_iff.mp (hLength.symm.trans (by rw [hZero]))
      rw [hOnly] at hMem
      rw [hOnly, List.mem_singleton.mp hMem]
    · intro hOnly
      rw [hOnly, List.length_singleton] at hLength
      omega

/-- On a list that is meant, a text with an open item ticks off the first item
of that text, and this succeeds however often it is done, with the same item
and the same ledger every time. The open items are one less if that item was
open, and as many as before if it was done; and nothing of the text is left
open just if that item was the only open one. -/
theorem completeItem_repeated (hList : l.resolveList query = .ok i)
    (hOpen : ∃ item ∈ (l.lists.get i).openItems, item.isMeant text = true) :
    ∃ j : Fin (l.lists.get i).items.length,
      ((l.lists.get i).items.get j).isMeant text = true ∧
      (∀ k < j, ((l.lists.get i).items.get k).isMeant text = false) ∧
      (completeItem query text).run l =
        .ok ((l.lists.get i).items.get j).ticked (l.withTicked i j) ∧
      (∀ n, (completeTimes query text (n + 1)).run l =
        .ok (List.replicate (n + 1) ((l.lists.get i).items.get j).ticked) (l.withTicked i j)) ∧
      (modifyItem j Item.ticked (l.lists.get i)).openItems.length +
        (if ((l.lists.get i).items.get j).completed then 0 else 1) =
          (l.lists.get i).openItems.length ∧
      ((modifyItem j Item.ticked (l.lists.get i)).openOf text = [] ↔
        (l.lists.get i).openOf text = [(l.lists.get i).items.get j]) := by
  obtain ⟨item, hMem, hMeant⟩ := hOpen
  have hSome : (l.lists.get i).openOf text ≠ [] :=
    List.ne_nil_of_mem (List.mem_filter.mpr ⟨hMem, hMeant⟩)
  obtain ⟨j, hItem⟩ := exists_itemIndex? (List.mem_of_mem_filter hMem) hMeant
  obtain ⟨hFirst, hBefore⟩ := itemIndex?_eq_some_iff.mp hItem
  exact ⟨j, hFirst, hBefore, run_changeItem hList hItem, run_completeTimes hList hItem,
    (length_open_ticked hFirst).1, openOf_ticked_eq_nil_iff hFirst hSome⟩

/-- A list with two open items of one text and an item between them. -/
def twoMilks : Ledger :=
  let items : List Item := [{ id := "a", text := "Milk" }, { id := "b", text := "Eggs" },
    { id := "c", text := "milk" }]
  { lists := [{ id := "list", name := "Groceries", items }] }

/-- The first of them is ticked off every time, and the last one stays open. -/
theorem twoMilks_ticked_again :
    twoMilks.resolveList none = .ok ⟨0, by decide⟩ ∧
      (∃ item ∈ (twoMilks.lists.get ⟨0, by decide⟩).openItems, item.isMeant " MILK " = true) ∧
      ∃ item : Item, item.id = "a" ∧ ∀ n, (completeTimes none " MILK " (n + 1)).run twoMilks =
        .ok (List.replicate (n + 1) item) (twoMilks.withTicked 0 0) := by
  have hList : twoMilks.resolveList none = .ok ⟨0, by decide⟩ := by decide
  have hOpen : ∃ item ∈ (twoMilks.lists.get ⟨0, by decide⟩).openItems,
      item.isMeant " MILK " = true := by decide
  obtain ⟨j, hFirst, hBefore, -, hRun, -, -⟩ := completeItem_repeated hList hOpen
  have hj : itemIndex? (twoMilks.lists.get ⟨0, by decide⟩) " MILK " = some j :=
    itemIndex?_eq_some_iff.mpr ⟨hFirst, hBefore⟩
  have hZero : j = ⟨0, by decide⟩ := Option.some.inj (hj.symm.trans (by decide))
  subst hZero
  exact ⟨hList, hOpen, _, rfl, hRun⟩

/-- However often the text is ticked off, an item of it is left open: not every
open item of a text is reached by repeating it. -/
theorem later_item_stays_open : ¬ ∀ (l : Ledger) (query : Option String) (text : String)
    (i : Fin l.lists.length), l.resolveList query = .ok i →
      (∃ item ∈ (l.lists.get i).openItems, item.isMeant text = true) →
      ∃ n items l', (completeTimes query text n).run l = .ok items l' ∧
        ∀ list ∈ l'.lists, list.id = (l.lists.get i).id → list.openOf text = [] := by
  intro hAll
  have hList : twoMilks.resolveList none = .ok ⟨0, by decide⟩ := by decide
  obtain ⟨n, items, l', hRun, hNone⟩ := hAll twoMilks none " MILK " ⟨0, by decide⟩ hList (by decide)
  cases n with
  | zero =>
    cases hRun
    exact absurd (hNone _ (List.mem_singleton_self _) rfl) (by decide)
  | succ n =>
    have hItem : itemIndex? (twoMilks.lists.get ⟨0, by decide⟩) " MILK " = some ⟨0, by decide⟩ := by
      decide
    rw [run_completeTimes hList hItem] at hRun
    cases hRun
    exact absurd (hNone _ (List.mem_singleton_self _) rfl) (by decide)

end Ledger

end HomeLedger
