import HomeLedger.Proofs.Ledger.Request
import HomeLedger.Proofs.Outcome
import HomeLedger.Proofs.Text.Blank
import HomeLedger.Shell.Prompt

/-!
# HomeLedger — names of accounts and lists

A new account or list is refused if a query of its name means one that there
is already. A query is trimmed before it is compared and a name is kept as it
was given, so what this makes sure of is not that names differ: no entry is
meant by the name of a later one. Hence an entry whose name is trimmed is
found by its name, and nothing else is called the same; but an entry whose
name has blanks around it is found by its name only by chance, and there may
be several of that name.

Main results:

* `namesApart_of_step` — a step keeps names apart in this sense.
* `find?_name_iff` — which entries are found by their names.
* `entries_by_name` — what names are good for in every ledger that lines lead
  to.
* `twoChores_not_found` — two lists of one name, neither of which is found.
-/

namespace HomeLedger

open Text

-- ---------------------------------------------------------------------------
-- Texts that differ in case
-- ---------------------------------------------------------------------------

namespace Text

/-- Texts are equal up to case if they are letter by letter. Only the letters of
ASCII have a case here. -/
theorem equalFold_iff {s t : String} :
    equalFold s t = true ↔ s.toList.map Char.toLower = t.toList.map Char.toLower :=
  beq_iff_eq

/-- A blank has no case, so blanks at the ends are there in any case. -/
theorem isTrimmed_map_toLower {cs : List Char} :
    IsTrimmed (cs.map Char.toLower) ↔ IsTrimmed cs := by
  have hEnds : ∀ o : Option Char, (∀ c ∈ o.map Char.toLower, isBlank c = false) ↔
      ∀ c ∈ o, isBlank c = false := by
    simp [isBlank_toLower]
  constructor
  · rintro ⟨hHead, hLast⟩
    rw [List.head?_map, hEnds] at hHead
    rw [List.getLast?_map, hEnds] at hLast
    exact ⟨hHead, hLast⟩
  · rintro ⟨hHead, hLast⟩
    rw [← hEnds, ← List.head?_map] at hHead
    rw [← hEnds, ← List.getLast?_map] at hLast
    exact ⟨hHead, hLast⟩

theorem trimmed_eq_self_iff {s : String} : trimmed s = s ↔ IsTrimmed s.toList := by
  constructor
  · intro h
    rw [← h, trimmed, String.toList_ofList]
    exact isTrimmed_trim _
  · intro h
    rw [trimmed, h.trim_eq, String.ofList_toList]

/-- Of texts that are equal up to case, both are trimmed or neither. -/
theorem trimmed_eq_self_of_equalFold {s t : String} (h : equalFold s t = true) :
    trimmed s = s ↔ trimmed t = t := by
  rw [trimmed_eq_self_iff, trimmed_eq_self_iff, ← isTrimmed_map_toLower, equalFold_iff.mp h,
    isTrimmed_map_toLower]

/-- A text that trimming takes something from is another one afterwards, also up
to case, since it is shorter. -/
theorem equalFold_trimmed_iff {s : String} : equalFold s (trimmed s) = true ↔ trimmed s = s := by
  constructor
  · intro h
    exact (trimmed_eq_self_of_equalFold h).mpr (trimmed_trimmed s)
  · intro h
    rw [h, equalFold_iff]

end Text

-- ---------------------------------------------------------------------------
-- Entries with an id and a name
-- ---------------------------------------------------------------------------

section Named

variable {α : Type} {id name : α → String} {xs ys : List α} {x : α}

/-- Whether a query means an entry that has an id and a name. The query is
trimmed, and neither the id nor the name is. -/
def isMeantBy (id name : α → String) (query : String) (x : α) : Bool :=
  id x == trimmed query || equalFold (name x) (trimmed query)

/-- No entry is meant by the name of a later one. This is what the check of a
new name makes sure of, and it is weaker than that names differ. -/
def NamesApart (id name : α → String) (xs : List α) : Prop :=
  xs.Pairwise fun x y => isMeantBy id name (name y) x = false

/-- An entry is meant by its own name if the name is trimmed, or the entry
has the trimmed name for its id. -/
theorem isMeantBy_name_iff : isMeantBy id name (name x) x = true ↔
    trimmed (name x) = name x ∨ id x = trimmed (name x) := by
  rw [isMeantBy, Bool.or_eq_true, beq_iff_eq, equalFold_trimmed_iff]
  exact or_comm

/-- Where names are apart, the name of an entry finds that entry or does not
mean it. No earlier entry can come in between, because none is meant by a later
name. -/
theorem find?_name_iff (h : NamesApart id name xs) (hx : x ∈ xs) :
    xs.find? (isMeantBy id name (name x)) = some x ↔
      trimmed (name x) = name x ∨ id x = trimmed (name x) := by
  rw [← isMeantBy_name_iff]
  constructor
  · exact fun hFind => List.find?_some hFind
  · intro hMeant
    obtain ⟨before, after, rfl⟩ := List.append_of_mem hx
    have hBefore : ∀ y ∈ before, isMeantBy id name (name x) y = false := fun y hy =>
      (List.pairwise_append.mp h).2.2 y hy x List.mem_cons_self
    rw [List.find?_append, List.find?_eq_none.mpr (by simpa using hBefore), Option.none_or,
      List.find?_cons_of_pos hMeant]

/-- Where names are apart, two names are equal up to case only if both have
blanks around them. -/
theorem NamesApart.untrimmed (h : NamesApart id name xs) :
    xs.Pairwise fun x y => equalFold (name x) (name y) = true →
      trimmed (name x) ≠ name x ∧ trimmed (name y) ≠ name y := by
  refine h.imp fun {x y} hApart hFold => ?_
  have hLater : trimmed (name y) ≠ name y := by
    intro hTrimmed
    rw [isMeantBy, hTrimmed, hFold, Bool.or_true] at hApart
    exact absurd hApart (by decide)
  exact ⟨fun hTrimmed => hLater ((trimmed_eq_self_of_equalFold hFold).mp hTrimmed), hLater⟩

/-- An entry is added whose name means none yet. This is the case in which a new
name passes the check. -/
theorem NamesApart.concat (h : NamesApart id name xs)
    (hNew : xs.find? (isMeantBy id name (name x)) = none) : NamesApart id name (xs ++ [x]) := by
  refine List.pairwise_append.mpr ⟨h, List.pairwise_singleton _ _, fun y hy x' hx' => ?_⟩
  rw [List.mem_singleton.mp hx']
  exact Bool.not_eq_true _ ▸ List.find?_eq_none.mp hNew y hy

/-- Whether names are apart is a matter of ids and names only. -/
theorem NamesApart.congr (h : NamesApart id name xs)
    (hSame : ys.map (fun x => (id x, name x)) = xs.map fun x => (id x, name x)) :
    NamesApart id name ys := by
  have hPairs : ∀ zs : List α, NamesApart id name zs ↔
      NamesApart Prod.fst Prod.snd (zs.map fun x => (id x, name x)) := by
    intro zs
    rw [NamesApart, NamesApart, List.pairwise_map]
    rfl
  rwa [hPairs, hSame, ← hPairs]

end Named

namespace Ledger

variable {stamp : Stamp} {l l' : Ledger}

/-- Names of accounts are apart, and so are names of lists. -/
structure NamesApart (l : Ledger) : Prop where
  accounts : HomeLedger.NamesApart Account.id Account.name l.accounts
  lists : HomeLedger.NamesApart TodoList.id TodoList.name l.lists

/-- A list that is changed in place and keeps its id and its name leaves names
apart. -/
theorem NamesApart.withList (h : l.NamesApart) {i : Nat} {change : TodoList → TodoList}
    (hChange : ∀ list, ((change list).id, (change list).name) = (list.id, list.name)) :
    (l.withList i change).NamesApart := by
  refine ⟨h.accounts, h.lists.congr ?_⟩
  refine List.ext_getElem (by simp [Ledger.withList]) fun k hk hk' => ?_
  simp only [Ledger.withList, List.getElem_map, List.getElem_modify]
  split
  · rw [hChange]
  · rfl

/-- A step keeps names apart, whatever its id is. -/
theorem namesApart_of_step (hStep : l.Step stamp l') (h : l.NamesApart) : l'.NamesApart := by
  cases hStep with
  | accountOpened a hId hName hOwner => exact ⟨h.accounts.concat hName, h.lists⟩
  | listCreated list hId hName hItems => exact ⟨h.accounts, h.lists.concat hName⟩
  | itemAdded i item hId => exact h.withList fun _ => rfl
  | itemChanged i j change hKept => exact h.withList fun _ => rfl
  | _ => exact ⟨h.accounts, h.lists⟩

/-- Names are apart to begin with, if no id is one of the names. -/
theorem namesApart_sample {ids : Nat → String} {now : Instant}
    (hIds : ∀ n < sampleIds, ids n ∉ (sample ids now).accounts.map (·.name) ++
      (sample ids now).lists.map (·.name)) : (sample ids now).NamesApart := by
  have hIds' : ∀ n < sampleIds,
      ids n ≠ "John's Spending" ∧ ids n ≠ "John's Savings" ∧ ids n ≠ "Chores" := by
    intro n hlt
    have hn := hIds n hlt
    simp only [sample, List.map_cons, List.map_nil, List.cons_append, List.nil_append,
      List.mem_cons, List.not_mem_nil, or_false, not_or] at hn
    exact ⟨hn.2.1, hn.2.2.1, hn.2.2.2.2⟩
  -- the later of two entries is found if the earlier one has neither its name nor its name as an id
  have hApart : ∀ (n : Nat) (earlier later : String), trimmed later = later → ids n ≠ later →
      equalFold earlier later = false →
      (ids n == trimmed later || equalFold earlier (trimmed later)) = false := by
    intro n earlier later hTrimmed hId hName
    rw [hTrimmed, hName, Bool.or_false, beq_eq_false_iff_ne]
    exact hId
  have hSpending := hApart 2 "Family Checking" "John's Spending" (by decide)
    (hIds' 2 (by decide)).1 (by decide)
  have hSavings := fun n hn earlier =>
    hApart n earlier "John's Savings" (by decide) (hIds' n hn).2.1
  have hChores := hApart 8 "Groceries" "Chores" (by decide) (hIds' 8 (by decide)).2.2 (by decide)
  constructor
  · refine .cons (List.forall_mem_cons.mpr ⟨hSpending, List.forall_mem_singleton.mpr ?_⟩)
      (.cons (List.forall_mem_singleton.mpr ?_) (List.pairwise_singleton _ _))
    · exact hSavings 2 (by decide) "Family Checking" (by decide)
    · exact hSavings 3 (by decide) "John's Spending" (by decide)
  · exact .cons (List.forall_mem_singleton.mpr hChores) (List.pairwise_singleton _ _)

end Ledger

-- ---------------------------------------------------------------------------
-- Refusals
-- ---------------------------------------------------------------------------

namespace Handler

open Booking Ledger

variable {s : Setting} {c : Command} {l : Ledger} {text : String}

/-- No account is opened under a name that means one, and the ledger is kept. -/
theorem run_openAccount_taken {id ownerId currency : String} {kind : AccountKind}
    (hTaken : (l.findAccount? text).isSome = true) :
    (openAccount id text kind ownerId currency).run l =
      .error (.refused (.accountExists text)) l := by
  show (if (l.findAccount? text).isSome = true then _ else _ : Booking Account).run l = _
  rw [if_pos hTaken]
  rfl

/-- No list is made under a name that means one, and the ledger is kept. -/
theorem run_createList_taken {id : String} (hTaken : (l.findList? text).isSome = true) :
    (createList id text).run l = .error (.refused (.listExists text)) l := by
  show (if (l.findList? text).isSome = true then _ else _ : Booking TodoList).run l = _
  rw [if_pos hTaken]
  rfl

/-- No account is opened under a name that means one, whatever else the command
asks for. It may be refused for its kind or its owner before. -/
theorem run_accountNew_taken (hText : c.requiredText = .ok text)
    (hTaken : (l.findAccount? text).isSome = true) :
    ∃ why, (accountNew s c).run l = .error (.refused why) l := by
  rw [accountNew, run_bind_of_ok (run_allowed_of_ok hText)]
  cases hKind : askedKind c with
  | error why => exact ⟨why, run_bind_of_error (run_allowed_of_error rfl)⟩
  | ok kind =>
    rw [run_bind_of_ok (run_allowed_of_ok rfl), run_bind_of_ok run_get]
    cases hOwner : askedOwner l c with
    | error why => exact ⟨why, run_bind_of_error (run_allowed_of_error rfl)⟩
    | ok owner =>
      rw [run_bind_of_ok (run_allowed_of_ok rfl)]
      exact ⟨.accountExists text, run_bind_of_error (run_openAccount_taken hTaken)⟩

/-- No list is made under a name that means one. -/
theorem run_listCreate_taken (hText : c.requiredText = .ok text)
    (hTaken : (l.findList? text).isSome = true) :
    (listCreate s c).run l = .error (.refused (.listExists text)) l := by
  rw [listCreate, run_bind_of_ok (run_allowed_of_ok hText)]
  exact run_bind_of_error (run_createList_taken hTaken)

end Handler

-- ---------------------------------------------------------------------------
-- Runs
-- ---------------------------------------------------------------------------

namespace Routes

open Handler Ledger

variable {s : Setting} {c : Command} {l l' : Ledger} {text : String}

/-- Lines keep names apart, by induction on the lines. Whether a line succeeds
does not matter. -/
theorem namesApart_of_run {lines : List (Setting × String)} {rs : List Response}
    (hRun : standard.run lines l = .ok (rs, l')) (h : l.NamesApart) : l'.NamesApart := by
  induction lines generalizing l rs with
  | nil =>
    obtain ⟨-, rfl⟩ := Prod.mk.inj (Except.ok.inj hRun)
    exact h
  | cons first rest ih =>
    obtain ⟨s, line⟩ := first
    obtain ⟨r, m, rs', hSubmit, hRest, -⟩ := run_cons hRun
    exact ih hRest (namesApart_of_step (step_of_submit hSubmit) h)

/-- A line whose command its handler refuses is answered with a failure, be it
that the command was found wanting before. -/
theorem submit_of_refused {line : String} {handler : Handler} {why : Refusal}
    (hRead : Command.read s.formatting s.today line = .ok c)
    (hRoute : standard c.subject c.action = some handler)
    (hRun : (handler s c).run l = .error (.refused why) l) :
    ∃ message, standard.submit s line l = .ok (Response.failure message, l) := by
  rw [submit, hRead]
  show ∃ message, (if c.problems.isEmpty = true then _ else _) = _
  split
  · refine ⟨why.message, ?_⟩
    rw [execute, hRoute]
    simp only [hRun]
  · exact ⟨_, rfl⟩

/-- In every ledger that lines lead to from an empty one or from the one to
begin with, an account or a list is found by its own name just if the name is
trimmed, or is blanks around the id of the entry. Names that are equal up to
case have blanks around them, both of them. And no account is opened and no
list is made under a name that is, up to case and without the blanks around
it, the name of one that is there: the line is answered with a failure and
leaves the ledger as it was. -/
theorem entries_by_name {start : Ledger} {lines : List (Setting × String)} {rs : List Response}
    (hStart : start = {} ∨ ∃ ids now, start = sample ids now ∧
      ∀ n < sampleIds, ids n ∉ start.accounts.map (·.name) ++ start.lists.map (·.name))
    (hRun : standard.run lines start = .ok (rs, l)) :
    (∀ a ∈ l.accounts, l.findAccount? a.name = some a ↔
      trimmed a.name = a.name ∨ a.id = trimmed a.name) ∧
    (∀ list ∈ l.lists, l.findList? list.name = some list ↔
      trimmed list.name = list.name ∨ list.id = trimmed list.name) ∧
    (l.accounts.Pairwise fun a b => equalFold a.name b.name = true →
      trimmed a.name ≠ a.name ∧ trimmed b.name ≠ b.name) ∧
    (l.lists.Pairwise fun list list' => equalFold list.name list'.name = true →
      trimmed list.name ≠ list.name ∧ trimmed list'.name ≠ list'.name) ∧
    ∀ (s : Setting) (line : String) (c : Command) (text : String),
      Command.read s.formatting s.today line = .ok c → c.requiredText = .ok text →
      (c.subject = .account ∧ c.action = .new ∧
          (∃ a ∈ l.accounts, equalFold a.name (trimmed text) = true) ∨
        c.subject = .list ∧ (c.action = .create ∨ c.action = .new) ∧
          ∃ list ∈ l.lists, equalFold list.name (trimmed text) = true) →
      ∃ message, standard.submit s line l = .ok (Response.failure message, l) := by
  have hBegin : start.NamesApart := by
    rcases hStart with rfl | ⟨ids, now, rfl, hIds⟩
    · exact ⟨.nil, .nil⟩
    · exact namesApart_sample hIds
  have h := namesApart_of_run hRun hBegin
  refine ⟨fun a ha => find?_name_iff h.accounts ha, fun list hList => find?_name_iff h.lists hList,
    h.accounts.untrimmed, h.lists.untrimmed, ?_⟩
  rintro s line c text hRead hText (⟨hSubject, hAction, a, ha, hName⟩ | ⟨hSubject, hAction, hList⟩)
  · have hTaken : (l.findAccount? text).isSome = true :=
      List.find?_isSome.mpr ⟨a, ha, by rw [Account.isCalled, hName, Bool.or_true]⟩
    obtain ⟨why, hRefused⟩ := run_accountNew_taken (s := s) hText hTaken
    exact submit_of_refused hRead (by rw [hSubject, hAction]; rfl) hRefused
  · obtain ⟨list, hList, hName⟩ := hList
    have hTaken : (l.findList? text).isSome = true :=
      List.find?_isSome.mpr ⟨list, hList, by rw [TodoList.isCalled, hName, Bool.or_true]⟩
    have hRoute : standard c.subject c.action = some listCreate := by
      rcases hAction with hAction | hAction <;> rw [hSubject, hAction] <;> rfl
    exact submit_of_refused hRead hRoute (run_listCreate_taken hText hTaken)

/-- A jar is opened and a list is made. -/
def jarAndParty : List (Setting × String) :=
  [({ nextDay with stamp := ⟨"a", nextDay.stamp.time⟩ }, "account new Jar"),
    ({ nextDay with stamp := ⟨"b", nextDay.stamp.time⟩ }, "list create Party")]

/-- Both are found by their names, and there is no second one of either. -/
theorem jarAndParty_found :
    (numbered = {} ∨ ∃ ids now, numbered = sample ids now ∧
      ∀ n < sampleIds, ids n ∉ numbered.accounts.map (·.name) ++ numbered.lists.map (·.name)) ∧
    ∃ rs l, standard.run jarAndParty numbered = .ok (rs, l) ∧
      (∃ a, a.id = "a" ∧ l.findAccount? "Jar" = some a) ∧
      (∃ list, list.id = "b" ∧ l.findList? "Party" = some list) ∧
      ∃ message, standard.submit nextDay "list new \" PARTY \"" l =
        .ok (Response.failure message, l) := by
  have hStart : numbered = {} ∨ ∃ ids now, numbered = sample ids now ∧
      ∀ n < sampleIds, ids n ∉ numbered.accounts.map (·.name) ++ numbered.lists.map (·.name) :=
    .inr ⟨_, _, rfl, by decide +kernel⟩
  have hMade : (standard.run jarAndParty numbered).map (fun answer =>
      (answer.2.accounts.map (fun a => (a.id, a.name)),
        answer.2.lists.map fun list => (list.id, list.name))) =
      .ok ([("2", "Family Checking"), ("3", "John's Spending"), ("4", "John's Savings"),
        ("a", "Jar")], [("8", "Groceries"), ("11", "Chores"), ("b", "Party")]) := by
    decide +kernel
  obtain ⟨⟨rs, l⟩, hRun, hEntries⟩ := exists_of_map_eq_ok hMade
  obtain ⟨hAccounts, hLists⟩ := Prod.mk.inj hEntries
  have hJar : ("a", "Jar") ∈ l.accounts.map fun a => (a.id, a.name) := by
    rw [hAccounts]
    decide
  have hParty : ("b", "Party") ∈ l.lists.map fun list => (list.id, list.name) := by
    rw [hLists]
    decide
  obtain ⟨a, ha, haName⟩ := List.mem_map.mp hJar
  obtain ⟨list, hList, hListName⟩ := List.mem_map.mp hParty
  obtain ⟨haId, haName⟩ := Prod.mk.inj haName
  obtain ⟨hListId, hListName⟩ := Prod.mk.inj hListName
  have hRead : (Command.read nextDay.formatting nextDay.today "list new \" PARTY \"").map
      (fun c => (c.subject, c.action, c.requiredText)) = .ok (.list, .new, .ok " PARTY ") := by
    decide +kernel
  obtain ⟨c, hRead, hCommand⟩ := exists_of_map_eq_ok hRead
  obtain ⟨hSubject, hAction, hText⟩ : c.subject = .list ∧ c.action = .new ∧
      c.requiredText = .ok " PARTY " := by
    simpa using hCommand
  obtain ⟨hFound, hFound', -, -, hRefused⟩ := entries_by_name hStart hRun
  -- all that the theorem asks for can be read off the names
  refine ⟨hStart, rs, l, hRun, ⟨a, haId, ?_⟩, ⟨list, hListId, ?_⟩, ?_⟩
  · rw [← haName]
    exact (hFound a ha).mpr (.inl (by rw [haName]; decide))
  · rw [← hListName]
    exact (hFound' list hList).mpr (.inl (by rw [hListName]; decide))
  · exact hRefused nextDay _ c _ hRead hText
      (.inr ⟨hSubject, .inr hAction, list, hList, by rw [hListName]; decide⟩)

/-- Two lists are made of one name, which has a blank in front. -/
def twoChores : List (Setting × String) :=
  [({ nextDay with stamp := ⟨"a", nextDay.stamp.time⟩ }, "list create \" Chores\""),
    ({ nextDay with stamp := ⟨"b", nextDay.stamp.time⟩ }, "list create \" Chores\"")]

/-- Both are made, and neither is found by its name. -/
theorem twoChores_not_found : ∃ rs l, standard.run twoChores {} = .ok (rs, l) ∧
    rs.map (·.success) = [true, true] ∧ l.lists.map (·.name) = [" Chores", " Chores"] ∧
    l.findList? " Chores" = .none := by
  have hMade : (standard.run twoChores {}).map (fun answer =>
      (answer.1.map (·.success), answer.2.lists.map (·.name), answer.2.findList? " Chores")) =
      .ok ([true, true], [" Chores", " Chores"], .none) := by
    decide +kernel
  obtain ⟨⟨rs, l⟩, hRun, hFacts⟩ := exists_of_map_eq_ok hMade
  obtain ⟨hSuccess, hFacts⟩ := Prod.mk.inj hFacts
  obtain ⟨hNames, hFind⟩ := Prod.mk.inj hFacts
  exact ⟨rs, l, hRun, hSuccess, hNames, hFind⟩

end Routes

end HomeLedger
