import HomeLedger.Handler.Basic

/-!
# HomeLedger — commands on lists and items

Showing and making lists; adding items, ticking them off, and setting when they are due or come up
again. A list that is not named is the selected one, or the only one.
-/

namespace HomeLedger.Handler

open Booking

/-- Texts as an array. -/
def texts (ss : List String) : Json := .array (ss.map .string)

-- ---------------------------------------------------------------------------
-- Lists
-- ---------------------------------------------------------------------------

/-- Tells the lists and how much is open on each. -/
def listList : Handler := fun _ _ => do
  match (← get).lists with
  | [] => return Response.ok "No lists yet"
  | lists =>
    let line (list : TodoList) : String := s!"{list.name} ({list.openItems.length} open)"
    return (Response.ok ("\n".intercalate (lists.map line))).withData "lists"
      (texts (lists.map (·.name)))

/-- An item with all that is known about it. -/
def itemLine (f : Formatting) (item : Item) : String :=
  let due := match item.due with
    | some d => s!" (due {f.shortDate d})"
    | none => ""
  let schedule := match item.schedule with
    | some text => s!" [{text}]"
    | none => ""
  s!"{item.box} {item.text}" ++ due ++ schedule

/-- Shows a list. -/
def listShow : Handler := fun s c => do
  let l ← get
  let i ← allowed (l.resolveList (c.target? "list" .text))
  let list := l.lists.get i
  let lines := list.name :: list.items.map (itemLine s.formatting)
  return (Response.ok ("\n".intercalate lines)).withText "list" list.name
    |>.withData "items" (texts (list.items.map (·.text)))

/-- Makes a list. -/
def listCreate : Handler := fun s c => do
  let name ← allowed c.requiredText
  let list ← Ledger.createList s.stamp.id name
  return (Response.ok s!"Created list '{list.name}'").withText "list" list.name

-- ---------------------------------------------------------------------------
-- Items
-- ---------------------------------------------------------------------------

/-- The due date that a command gives to a new item. -/
def askedDue (s : Setting) (c : Command) : Except Refusal (Option Date) :=
  match c.namedText? "due" with
  | none => .ok none
  | some text =>
    match s.formatting.date? text s.today with
    | some d => .ok (some d)
    | none => .error (.unreadDueDate text)

/-- Adds an item to a list. -/
def itemAdd : Handler := fun s c => do
  let text ← allowed c.requiredText
  let due ← allowed (askedDue s c)
  let list ← Ledger.addItem (c.namedText? "list") { id := s.stamp.id, text, due }
  return (Response.ok s!"Added '{text}' to {list.name}").withText "item" text
    |>.withText "list" list.name

/-- Ticks an item off. -/
def itemComplete : Handler := fun _ c => do
  let text ← found .noItemToComplete c.itemText?
  let item ← Ledger.completeItem (c.namedText? "list") text
  return (Response.ok s!"Completed '{item.text}'").withText "item" item.text

/-- Sets when an item is due. -/
def itemDue : Handler := fun s c => do
  let due ← found .unreadDate ((c.firstOf? .date).bind (·.date?))
  let text ← found .noItemNamed c.itemText?
  let item ← Ledger.setItemDue (c.namedText? "list") text due
  return (Response.ok s!"'{item.text}' is due {s.formatting.shortDate due}").withText
    "item" item.text |>.withText "due" due.isoText

/-- Sets when an item comes up again. -/
def itemOccurs : Handler := fun _ c => do
  let schedule ← allowed c.requiredText
  let text ← found .noItemNamed c.itemText?
  let item ← Ledger.setItemSchedule (c.namedText? "list") text schedule
  return (Response.ok s!"'{item.text}' now repeats {schedule}").withText "item" item.text
    |>.withText "schedule" schedule

/-- Tells the open items of a list, or with `--all` every item. -/
def itemList : Handler := fun _ c => do
  let l ← get
  let i ← allowed (l.resolveList (c.namedText? "list"))
  let list := l.lists.get i
  match if c.hasFlag "all" then list.items else list.openItems with
  | [] => return (Response.ok s!"Nothing left on {list.name}").withData "items" (texts [])
  | items =>
    let line (item : Item) : String := s!"{item.box} {item.text}"
    return (Response.ok ("\n".intercalate (items.map line))).withText "list" list.name
      |>.withData "items" (texts (items.map (·.text)))

end HomeLedger.Handler
