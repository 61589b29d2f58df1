import HomeLedger.Proofs.Command.Format
import HomeLedger.Proofs.Ledger.Request

/-!
# HomeLedger — the slot of an action

Three parts of the household have to agree on what an action requires. The
reader binds the first token to the slot, whatever it looks like; the check
of a command asks for a parameter of the right kind anywhere; and a handler
takes the first parameter of that kind, one in a slot before all others. A
command that is made by hand can tell them apart. A line cannot: its only
parameter that counts as required is the first one, and no flag is an amount
or a date.

So a line that passes the check has its slot filled as the handler needs it.
The refusals that find fault with a slot (`Refusal.slot?`) are then out of
reach, which is said of each handler by one law (`Handler.Asks`): it finds
fault only with slots of its action, and only if they are wrongly filled.

Main results:

* `exists_slot` — a line without problems has its slot in front.
* `hasSlot_of_read` — and the slot has what its handler asks for.
* `asks_of_standard` — every handler of the household keeps the law.
* `submit_checks_slots` — the check and the answer to a line agree.
-/

namespace HomeLedger

-- ---------------------------------------------------------------------------
-- Commands with a slot
-- ---------------------------------------------------------------------------

namespace Command

/-- Whether a command has what the slot of a kind is for: a positive amount, a
text that is not blank, or a date. It is said in the words of the handlers,
which is why an amount is looked for in all parameters. -/
def HasSlot (c : Command) : Kind → Prop
  | .amount => ∃ d, (c.firstOf? .amount).bind (·.decimal?) = some d ∧ d.isPositive = true
  | .text => ∃ t, c.requiredText = .ok t
  | .date => ∃ d, (c.firstOf? .date).bind (·.date?) = some d
  | _ => True

/-- Whether a parameter fills the slot of a kind: it is the first of all, it
counts as required, it was read from the token, and it is what is found when
the kind is looked for. -/
structure IsSlot (c : Command) (kind : Kind) (token : String) (p : Parameter) : Prop where
  found : c.firstOf? kind = some p
  first : c.parameters.head? = some p
  place : p.place = .required
  required : p.isRequired = true
  raw : p.raw = token

/-- A command is without problems if no parameter has one and none is missing.
These are the two things that the check goes through. -/
theorem problems_eq_nil_iff {c : Command} : c.problems = [] ↔
    (∀ p ∈ c.parameters, p.problem? = none) ∧
      ∀ kind ∈ c.action.required, ∃ p ∈ c.parameters, p.kind = kind := by
  simp [problems]

/-- A parameter in a slot in front is found before all others, because those
that are required are looked through first. -/
theorem firstOf?_of_slot {c : Command} {p : Parameter} {ps : List Parameter} {kind : Kind}
    (h : c.parameters = p :: ps) (hKind : p.kind = kind) (hRequired : p.isRequired = true) :
    c.firstOf? kind = some p := by
  rw [firstOf?, h, List.find?_cons_of_pos (by simp [hKind, hRequired])]
  rfl

variable {f : Formatting} {today : Date} {line : String} {c : Command}

/-- The command of a line without problems has a parameter in the slot of its
action, and the parameter has no problem either. The slot is the first parameter
because the tokens are bound from the front. -/
theorem exists_slot (hRead : Command.read f today line = .ok c) (hProblems : c.problems = [])
    {subject action : String} {tokens : List String}
    (hTokens : tokenize (Text.trimmed line) = subject :: action :: tokens)
    {kind : Kind} (hKind : c.action.required = [kind]) :
    ∃ token rest, tokens = token :: rest ∧
      c.IsSlot kind token (Parameter.ofSlot f today kind token) ∧
      (Parameter.ofSlot f today kind token).problem? = none := by
  have hParameters : c.parameters = Parameter.ofTokens f today c.action tokens := by
    obtain ⟨_, _, tokens', hTokens', -, -, -, -, h⟩ := read_eq_ok hRead
    obtain ⟨rfl, rfl, rfl⟩ : _ ∧ _ ∧ tokens' = tokens := by simpa [hTokens'] using hTokens
    exact h
  obtain ⟨hNone, hAll⟩ := problems_eq_nil_iff.mp hProblems
  rw [Parameter.ofTokens, hKind] at hParameters
  cases tokens with
  | nil =>
    obtain ⟨p, hp, -⟩ := hAll kind (by simp [hKind])
    rw [hParameters] at hp
    simp [Parameter.ofExtras] at hp
  | cons token rest =>
    have hSlot : c.parameters = Parameter.ofSlot f today kind token :: Parameter.ofExtras 0 rest :=
      hParameters
    refine ⟨token, rest, rfl, ?_, hNone _ (by simp [hSlot])⟩
    exact ⟨firstOf?_of_slot hSlot (Parameter.kind_ofSlot ..) rfl, by rw [hSlot]; rfl, rfl, rfl, rfl⟩

/-- A line has no parameter of a kind that is not required, unless it is the
kind of a flag or of a switch. What is in no slot is a text or a truth value. -/
theorem firstOf?_eq_none_of_read (hRead : Command.read f today line = .ok c) {kind : Kind}
    (hRequired : kind ∉ c.action.required) (hText : kind ≠ .text) (hBoolean : kind ≠ .boolean) :
    c.firstOf? kind = none := by
  obtain ⟨_, _, tokens, -, -, -, -, -, hParameters⟩ := read_eq_ok hRead
  -- what fills a slot is of the kind of the slot, and all else is a text or a switch
  have hKind : ∀ p ∈ c.parameters, p.kind ≠ kind := by
    rintro p hp rfl
    rw [hParameters] at hp
    rcases List.mem_append.mp hp with hSlot | hExtra
    · rw [← List.map_uncurry_zip_eq_zipWith] at hSlot
      obtain ⟨⟨kind, token⟩, hZip, rfl⟩ := List.mem_map.mp hSlot
      refine hRequired ?_
      show (Parameter.ofSlot f today kind token).kind ∈ _
      rw [Parameter.kind_ofSlot]
      exact (List.of_mem_zip hZip).1
    · cases Parameter.extra_of_mem_ofExtras p hExtra with
      | switch place name hPlace => exact hBoolean rfl
      | flag name value hValue => exact hText rfl
      | bare number token hToken => exact hText rfl
  have hFind : ∀ test : Parameter → Bool, (∀ p, test p = true → p.kind = kind) →
      c.parameters.find? test = none := fun test hTest =>
    List.find?_eq_none.mpr fun p hp h => hKind p hp (hTest p h)
  rw [firstOf?, hFind _ (by simp +contextual), hFind _ (by simp)]
  rfl

/-- An amount in a slot is that of its token, and positive. -/
theorem decimal?_ofSlot {token : String}
    (h : (Parameter.ofSlot f today .amount token).problem? = none) :
    ∃ d, (Parameter.ofSlot f today .amount token).decimal? = some d ∧ d.isPositive = true := by
  refine ⟨(f.amount? token).getD .zero, rfl, ?_⟩
  by_contra hNot
  have hProblem : (Parameter.ofSlot f today .amount token).problem? = some .notPositive :=
    if_neg hNot
  rw [hProblem] at h
  cases h

/-- A date in a slot without problems is there. -/
theorem date?_ofSlot {token : String}
    (h : (Parameter.ofSlot f today .date token).problem? = none) :
    ∃ d, (Parameter.ofSlot f today .date token).date? = some d := by
  cases hDate : f.date? token today with
  | some d =>
    refine ⟨d, ?_⟩
    rw [Parameter.date?, Parameter.value_ofSlot, Value.ofToken, hDate]
  | none =>
    rw [Parameter.problem?, Parameter.value_ofSlot, Value.ofToken, hDate] at h
    cases h

/-- A text in a slot without problems is the required text. The check asks for a
text that is not blank, and so does whoever reads it. -/
theorem requiredText_of_slot {token : String}
    (hSlot : c.IsSlot .text token (Parameter.ofSlot f today .text token))
    (h : (Parameter.ofSlot f today .text token).problem? = none) :
    c.requiredText = .ok token ∧ Text.isAllBlank token = false := by
  have hBlank : Text.isAllBlank token = false := by
    by_contra hNot
    have hProblem : (Parameter.ofSlot f today .text token).problem? =
        some (.malformed (Parameter.ofSlot f today .text token).name) :=
      if_pos (by simpa using hNot)
    rw [hProblem] at h
    cases h
  have hText : (c.firstOf? .text).bind (·.text?) = some token := by
    rw [hSlot.found]
    rfl
  refine ⟨?_, hBlank⟩
  rw [requiredText, hText]
  simp [hBlank]

/-- Whether the slot of a command is filled with the first of the tokens behind
the action, and that is what the action is about. -/
structure IsSound (c : Command) (tokens : List String) : Prop where
  amount : c.action = .credit ∨ c.action = .debit → ∃ token rest p d, tokens = token :: rest ∧
    c.IsSlot .amount token p ∧ p.decimal? = some d ∧ d.isPositive = true
  date : c.action = .due → ∃ token rest p d, tokens = token :: rest ∧
    c.IsSlot .date token p ∧ p.date? = some d
  text : c.action = .add ∨ c.action = .new ∨ c.action = .create ∨ c.action = .occurs →
    ∃ token rest, tokens = token :: rest ∧ c.requiredText = .ok token ∧
      Text.isAllBlank token = false

/-- What is behind the action of a line without problems. Each action has one
slot at most, so there are three cases: an amount, a date or a text. -/
theorem isSound_of_read (hRead : Command.read f today line = .ok c) (hProblems : c.problems = [])
    {subject action : String} {tokens : List String}
    (hTokens : tokenize (Text.trimmed line) = subject :: action :: tokens) : c.IsSound tokens where
  amount hAction := by
    have hRequired : c.action.required = [.amount] := by
      rcases hAction with h | h <;> rw [h] <;> rfl
    obtain ⟨token, rest, hRest, hSlot, hProblem⟩ :=
      exists_slot hRead hProblems hTokens hRequired
    obtain ⟨d, hd, hPositive⟩ := decimal?_ofSlot hProblem
    exact ⟨token, rest, _, d, hRest, hSlot, hd, hPositive⟩
  date hAction := by
    have hRequired : c.action.required = [.date] := by rw [hAction]; rfl
    obtain ⟨token, rest, hRest, hSlot, hProblem⟩ :=
      exists_slot hRead hProblems hTokens hRequired
    obtain ⟨d, hd⟩ := date?_ofSlot hProblem
    exact ⟨token, rest, _, d, hRest, hSlot, hd⟩
  text hAction := by
    have hRequired : c.action.required = [.text] := by
      rcases hAction with h | h | h | h <;> rw [h] <;> rfl
    obtain ⟨token, rest, hRest, hSlot, hProblem⟩ :=
      exists_slot hRead hProblems hTokens hRequired
    exact ⟨token, rest, hRest, requiredText_of_slot hSlot hProblem⟩

/-- The slots of a command that was read without problems have what they are
for. This is the form in which handlers use it. -/
theorem hasSlot_of_read (hRead : Command.read f today line = .ok c) (hProblems : c.problems = []) :
    ∀ kind ∈ c.action.required, c.HasSlot kind := by
  intro kind hKind
  have hSingle : c.action.required = [kind] := by
    cases hAction : c.action <;> simp_all [Action.required]
  obtain ⟨_, _, tokens, hTokens, -⟩ := read_eq_ok hRead
  obtain ⟨token, -, -, hSlot, hProblem⟩ := exists_slot hRead hProblems hTokens hSingle
  cases kind with
  | amount =>
    obtain ⟨d, hd, hPositive⟩ := decimal?_ofSlot hProblem
    exact ⟨d, by rw [hSlot.found]; exact hd, hPositive⟩
  | text => exact ⟨token, (requiredText_of_slot hSlot hProblem).1⟩
  | date =>
    obtain ⟨d, hd⟩ := date?_ofSlot hProblem
    exact ⟨d, by rw [hSlot.found]; exact hd⟩
  | _ => exact trivial

end Command

-- ---------------------------------------------------------------------------
-- Refusals that find fault with a slot
-- ---------------------------------------------------------------------------

/-- The kind of the slot that a refusal finds fault with. Other refusals are
about what is in the household, and a check of the command cannot foresee
them. -/
def Refusal.slot? : Refusal → Option Kind
  | .invalidAmount | .notPositive => some .amount
  | .missingText => some .text
  | .unreadDate => some .date
  | _ => none

namespace Ledger

variable {l : Ledger} {query : Option String} {why : Refusal}

theorem slot?_of_resolveAccount (h : l.resolveAccount query = .error why) : why.slot? = none := by
  unfold resolveAccount at h
  split at h <;> split at h <;> cases h <;> rfl

theorem slot?_of_resolveList (h : l.resolveList query = .error why) : why.slot? = none := by
  unfold resolveList at h
  split at h
  · split at h <;> cases h
    rfl
  · split at h
    · cases h
    · split at h
      · cases h
      · split at h <;> cases h <;> rfl

end Ledger

namespace Handler

open Booking Ledger

variable {s : Setting} {c : Command} {l : Ledger} {why unnamed : Refusal}

theorem slot?_of_askedKind (h : askedKind c = .error why) : why.slot? = none := by
  unfold askedKind at h
  split at h
  · cases h
  · split at h <;> cases h
    rfl

theorem slot?_of_askedOwner (h : askedOwner l c = .error why) : why.slot? = none := by
  unfold askedOwner at h
  split at h <;> split at h <;> cases h <;> rfl

/-- A due date that is asked for by a flag is optional, so no slot is at
fault. -/
theorem slot?_of_askedDue (h : askedDue s c = .error why) : why.slot? = none := by
  unfold askedDue at h
  split at h
  · cases h
  · split at h <;> cases h
    rfl

theorem slot?_of_askedMember (hUnnamed : unnamed.slot? = none)
    (h : askedMember l c unnamed = .error why) : why.slot? = none := by
  unfold askedMember at h
  split at h <;> split at h <;> cases h
  · rfl
  · exact hUnnamed

theorem error_of_requiredText (h : c.requiredText = .error why) :
    why = .missingText ∧ ¬c.HasSlot .text := by
  have hNone : ¬c.HasSlot .text := by
    rintro ⟨t, ht⟩
    rw [ht] at h
    cases h
  unfold Command.requiredText at h
  split at h
  · split at h <;> cases h
    exact ⟨rfl, hNone⟩
  · cases h
    exact ⟨rfl, hNone⟩

/-- A refusal finds fault with a slot only if it is one of the given kinds and
does not have what it is for. Only what is refused with good reason is
allowed. -/
def Faults (kinds : List Kind) (c : Command) (why : Refusal) : Prop :=
  ∀ kind ∈ why.slot?, kind ∈ kinds ∧ ¬c.HasSlot kind

theorem faults_of_none {kinds : List Kind} (h : why.slot? = none) : Faults kinds c why := by
  simp [Faults, h]

/-- A required text that is missing is the fault of a slot for texts. -/
theorem faults_of_requiredText {kinds : List Kind} (hKinds : Kind.text ∈ kinds)
    (h : c.requiredText = .error why) : Faults kinds c why := by
  obtain ⟨rfl, hNone⟩ := error_of_requiredText h
  rintro _ ⟨⟩
  exact ⟨hKinds, hNone⟩

/-- The law of slots: a handler finds fault only with slots of its kinds, and
only if they do not have what they are for. It holds of any command and any
ledger, since a handler does not know where a command comes from. -/
def Asks (h : Handler) (kinds : List Kind) : Prop :=
  ∀ (s : Setting) (c : Command) (l : Ledger),
    (h s c).Ends l (fun _ _ => True) fun why _ => Faults kinds c why

/-- What a balance is asked of is named by a flag, and it may be missing. -/
theorem asks_accountBalance : Asks accountBalance [] := by
  intro s c l
  simp only [accountBalance, ends_bind, ends_get, ends_allowed, ends_sound, ends_pure,
    implies_true, true_and]
  exact fun why h => faults_of_none (slot?_of_resolveAccount h)

theorem asks_accountList : Asks accountList [] := by
  intro s c l
  simp only [accountList, ends_bind, ends_get]
  split
  · exact ends_pure.mpr trivial
  · simp only [ends_bind, ends_sound, ends_pure, implies_true]

/-- A payment finds fault with the amount only if there is none, or none that is
positive. These are two refusals, and the check of a command knows both. -/
theorem faults_of_amount (h : ∀ d, (c.firstOf? .amount).bind (·.decimal?) = some d →
    d.isPositive = false) (hWhy : why.slot? = some .amount) : Faults [.amount] c why := by
  intro kind hKind
  obtain rfl := Option.some.inj (hWhy.symm.trans hKind)
  refine ⟨List.mem_singleton_self _, ?_⟩
  rintro ⟨d, hd, hPositive⟩
  rw [h d hd] at hPositive
  cases hPositive

/-- A payment into an account has one slot, which is its amount. -/
theorem asks_credit : Asks (moveMoney .credit) [.amount] := by
  intro s c l
  simp only [moveMoney, ends_bind, ends_get, ends_found, ends_allowed, ends_credit, ends_sound,
    ends_pure, implies_true, true_and]
  refine ⟨fun d hd => ⟨fun a _ hNot => ?_, fun why h => ?_⟩, fun hNone => ?_⟩
  · refine faults_of_amount (fun d' hd' => ?_) rfl
    rwa [Option.some.inj (hd'.symm.trans hd)]
  · exact faults_of_none (slot?_of_resolveAccount h)
  · exact faults_of_amount (fun d hd => by simp [hNone] at hd) rfl

/-- So has a payment out of one. That the money is there is not a matter of a
slot. -/
theorem asks_debit : Asks (moveMoney .debit) [.amount] := by
  intro s c l
  simp only [moveMoney, ends_bind, ends_get, ends_found, ends_allowed, ends_debit, ends_sound,
    ends_pure, implies_true, and_true]
  refine ⟨fun d hd => ⟨fun a _ => ⟨fun hNot => ?_, fun _ => ⟨fun _ => ?_, ?_⟩⟩, fun why h => ?_⟩,
    fun hNone => ?_⟩
  · refine faults_of_amount (fun d' hd' => ?_) rfl
    rwa [Option.some.inj (hd'.symm.trans hd)]
  · exact faults_of_none rfl
  · exact fun a _ => ⟨fun _ => faults_of_none rfl, fun _ b _ _ => faults_of_none rfl⟩
  · exact faults_of_none (slot?_of_resolveAccount h)
  · exact faults_of_amount (fun d hd => by simp [hNone] at hd) rfl

/-- A new account has to be given a name. Its kind and its owner are flags, and
what is wrong with them is no fault of a slot. -/
theorem asks_accountNew : Asks accountNew [.text] := by
  intro s c l
  simp only [accountNew, ends_bind, ends_get, ends_allowed, ends_openAccount, ends_pure,
    implies_true, true_and]
  refine ⟨fun name _ => ⟨fun kind _ => ⟨fun owner _ _ => ?_, fun why h => ?_⟩, fun why h => ?_⟩,
    fun why h => ?_⟩
  · exact faults_of_none rfl
  · exact faults_of_none (slot?_of_askedOwner h)
  · exact faults_of_none (slot?_of_askedKind h)
  · exact faults_of_requiredText (List.mem_singleton_self _) h

theorem asks_accountSelect : Asks accountSelect [] := by
  intro s c l
  simp only [accountSelect, ends_bind, ends_found, ends_selectAccount, ends_pure, implies_true,
    true_and]
  exact ⟨fun query _ _ => faults_of_none rfl, fun _ => faults_of_none rfl⟩

theorem asks_listList : Asks listList [] := by
  intro s c l
  simp only [listList, ends_bind, ends_get]
  split <;> exact ends_pure.mpr trivial

theorem asks_listShow : Asks listShow [] := by
  intro s c l
  simp only [listShow, ends_bind, ends_get, ends_allowed, ends_pure, implies_true, true_and]
  exact fun why h => faults_of_none (slot?_of_resolveList h)

theorem asks_listCreate : Asks listCreate [.text] := by
  intro s c l
  simp only [listCreate, ends_bind, ends_allowed, ends_createList, ends_pure, implies_true,
    true_and]
  exact ⟨fun name _ _ => faults_of_none rfl,
    fun why h => faults_of_requiredText (List.mem_singleton_self _) h⟩

/-- An item that is added has to be given a text, and its list may be left to
what is selected. -/
theorem asks_itemAdd : Asks itemAdd [.text] := by
  intro s c l
  simp only [itemAdd, ends_bind, ends_allowed, ends_addItem, ends_pure, implies_true, true_and]
  refine ⟨fun text _ => ⟨fun due _ why h => ?_, fun why h => ?_⟩, fun why h => ?_⟩
  · exact faults_of_none (slot?_of_resolveList h)
  · exact faults_of_none (slot?_of_askedDue h)
  · exact faults_of_requiredText (List.mem_singleton_self _) h

/-- Changing an item finds fault with the list or the text, but with no
slot. -/
theorem ends_changeItem_faults {kinds : List Kind} {query : Option String} {text : String}
    {change : Item → Item} :
    (changeItem query text change).Ends l (fun _ _ => True) fun why _ => Faults kinds c why := by
  refine ends_changeItem.mpr ⟨fun i _ => ⟨fun j _ => trivial, fun _ => faults_of_none rfl⟩, ?_⟩
  exact fun why h => faults_of_none (slot?_of_resolveList h)

/-- Changing an item finds fault with the list or the text of the item, but with
no slot: neither of them stands in one. -/
theorem asks_itemComplete : Asks itemComplete [] := by
  intro s c l
  simp only [itemComplete, completeItem, ends_bind, ends_found, ends_pure]
  exact ⟨fun text _ => ends_changeItem_faults, fun _ => faults_of_none rfl⟩

/-- A due date is read in its slot, and the item is named behind it. -/
theorem asks_itemDue : Asks itemDue [.date] := by
  intro s c l
  simp only [itemDue, setItemDue, ends_bind, ends_found, ends_pure]
  refine ⟨fun due _ => ⟨fun text _ => ends_changeItem_faults, fun _ => faults_of_none rfl⟩, ?_⟩
  rintro hNone _ ⟨⟩
  refine ⟨List.mem_singleton_self _, ?_⟩
  rintro ⟨d, hd⟩
  simp [hNone] at hd

/-- A schedule is any text in its slot, and the item is named behind it. -/
theorem asks_itemOccurs : Asks itemOccurs [.text] := by
  intro s c l
  simp only [itemOccurs, setItemSchedule, ends_bind, ends_found, ends_allowed, ends_pure]
  refine ⟨fun schedule _ => ⟨fun text _ => ends_changeItem_faults, fun _ => faults_of_none rfl⟩, ?_⟩
  exact fun why h => faults_of_requiredText (List.mem_singleton_self _) h

theorem asks_itemList : Asks itemList [] := by
  intro s c l
  simp only [itemList, ends_bind, ends_get, ends_allowed]
  refine ⟨fun i _ => ?_, fun why h => faults_of_none (slot?_of_resolveList h)⟩
  split <;> exact ends_pure.mpr trivial

theorem asks_memberList : Asks memberList [] := by
  intro s c l
  simp only [memberList, ends_bind, ends_get]
  split <;> exact ends_pure.mpr trivial

theorem asks_memberShow : Asks memberShow [] := by
  intro s c l
  simp only [memberShow, ends_bind, ends_get, ends_allowed, ends_sound, ends_pure, implies_true,
    true_and]
  exact fun why h => faults_of_none (slot?_of_askedMember rfl h)

theorem asks_memberSelect : Asks memberSelect [] := by
  intro s c l
  simp only [memberSelect, ends_bind, ends_found, ends_selectMember, ends_pure, implies_true,
    true_and]
  exact ⟨fun query _ _ => faults_of_none rfl, fun _ => faults_of_none rfl⟩

theorem asks_memberBalance : Asks memberBalance [] := by
  intro s c l
  simp only [memberBalance, ends_bind, ends_get, ends_allowed, ends_sound, ends_pure, implies_true,
    true_and]
  exact fun why h => faults_of_none (slot?_of_askedMember rfl h)

end Handler

-- ---------------------------------------------------------------------------
-- Lines
-- ---------------------------------------------------------------------------

namespace Routes

open Handler

/-- Every handler of the household asks for the slots of its action only. The
table of handlers is gone through once, and each entry has its lemma. -/
theorem asks_of_standard {subject : Subject} {action : Action} {handler : Handler}
    (h : standard subject action = some handler) : Asks handler action.required := by
  unfold standard at h
  split at h <;> cases h
  · exact asks_accountBalance
  · exact asks_credit
  · exact asks_debit
  · exact asks_accountNew
  · exact asks_accountSelect
  · exact asks_accountList
  · exact asks_listList
  · exact asks_listShow
  · exact asks_listCreate
  · exact asks_listCreate
  · exact asks_itemAdd
  · exact asks_memberList
  · exact asks_memberShow
  · exact asks_memberSelect
  · exact asks_memberBalance
  · exact asks_itemAdd
  · exact asks_itemComplete
  · exact asks_itemDue
  · exact asks_itemOccurs
  · exact asks_itemList

variable {s : Setting} {line : String} {l : Ledger}

/-- The handler of a line without problems finds no fault with a slot. -/
theorem slot?_of_refused {c : Command} (hRead : Command.read s.formatting s.today line = .ok c)
    (hProblems : c.problems = []) {handler : Handler} {why : Refusal} {l' : Ledger}
    (hRoute : standard c.subject c.action = some handler)
    (hRun : (handler s c).run l = .error (.refused why) l') : why.slot? = .none := by
  have hFaults : Faults c.action.required c why :=
    (asks_of_standard hRoute s c l).of_refused hRun
  cases hSlot : why.slot? with
  | none => rfl
  | some kind =>
    obtain ⟨hKind, hNone⟩ := hFaults kind hSlot
    exact absurd (Command.hasSlot_of_read hRead hProblems kind hKind) hNone

/-- A line with problems is answered with all of them and changes nothing,
whatever the table of handlers. -/
theorem submit_of_problems (routes : Routes)
    (h : Command.problemsOfLine s.formatting s.today line ≠ []) :
    routes.submit s line l = .ok (.failure (Problem.summary
      (Command.problemsOfLine s.formatting s.today line)), l) := by
  unfold Command.problemsOfLine at h ⊢
  unfold submit
  cases hRead : Command.read s.formatting s.today line with
  | error problem => simp [Problem.summary]
  | ok c =>
    rw [hRead] at h
    simp only at h ⊢
    rw [if_neg (by simpa using h)]

/-- The check of a line and the answer to it agree. A line with problems is
answered with just these and changes nothing. Of a line without problems the
slot is filled with the first token behind the action, and has what the
handler asks for, so that no handler finds fault with it. -/
theorem submit_checks_slots (s : Setting) (line : String) (l : Ledger) :
    (Command.problemsOfLine s.formatting s.today line ≠ [] → ∀ routes : Routes,
      routes.submit s line l = .ok (.failure (Problem.summary
        (Command.problemsOfLine s.formatting s.today line)), l)) ∧
    (Command.problemsOfLine s.formatting s.today line = [] → ∃ c subject action tokens,
      Command.read s.formatting s.today line = .ok c ∧
      tokenize (Text.trimmed line) = subject :: action :: tokens ∧ c.IsSound tokens ∧
      (∀ routes : Routes, routes.submit s line l = routes.execute s c l) ∧
      ∀ handler why l', standard c.subject c.action = some handler →
        (handler s c).run l = .error (.refused why) l' → why.slot? = .none) := by
  refine ⟨fun h routes => submit_of_problems routes h, fun h => ?_⟩
  unfold Command.problemsOfLine at h
  cases hRead : Command.read s.formatting s.today line with
  | error problem => simp [hRead] at h
  | ok c =>
    rw [hRead] at h
    obtain ⟨subject, action, tokens, hTokens, -⟩ := Command.read_eq_ok hRead
    refine ⟨c, subject, action, tokens, rfl, hTokens, Command.isSound_of_read hRead h hTokens,
      fun routes => ?_, fun handler why l' => slot?_of_refused hRead h⟩
    rw [submit, hRead]
    simp only [h, List.isEmpty_nil, if_true]

/-- A line that adds milk, with other texts on their own and in a flag. -/
def milkLine : String := "item add Milk Eggs --text Tea"

/-- A date that is none is told, and what is added is the milk. -/
theorem someday_refused_milk_found :
    standard.submit nextDay "item due someday Milk" numbered =
        .ok (.failure "Invalid format for parameter: date", numbered) ∧
      ∃ c, Command.read {} nextDay.today milkLine = .ok c ∧ c.requiredText = .ok "Milk" ∧
        standard.submit nextDay milkLine numbered = standard.execute nextDay c numbered := by
  have hDate : Command.problemsOfLine nextDay.formatting nextDay.today "item due someday Milk" =
      [.malformed "date"] := by decide +kernel
  have hMilk : Command.problemsOfLine nextDay.formatting nextDay.today milkLine = [] := by
    decide +kernel
  constructor
  · have hSubmit := (submit_checks_slots nextDay "item due someday Milk" numbered).1
      (hDate ▸ List.cons_ne_nil _ _) standard
    rw [hDate] at hSubmit
    exact hSubmit
  · obtain ⟨c, subject, action, tokens, hRead, hTokens, hSound, hSubmit, -⟩ :=
      (submit_checks_slots nextDay milkLine numbered).2 hMilk
    have hLine : tokenize (Text.trimmed milkLine) =
        ["item", "add", "Milk", "Eggs", "--text", "Tea"] := by decide +kernel
    have hAdd : (Command.read nextDay.formatting nextDay.today milkLine).map (·.action) =
        .ok .add := by decide +kernel
    rw [hRead] at hAdd
    obtain ⟨token, rest, rfl, hText, -⟩ := hSound.text (.inl (Except.ok.inj hAdd))
    obtain rfl : "Milk" = token := by simp_all
    exact ⟨c, hRead, hText, hSubmit standard⟩

end Routes

end HomeLedger
