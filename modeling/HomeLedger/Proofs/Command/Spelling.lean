import HomeLedger.Proofs.Command.Slot
import HomeLedger.Proofs.Parameter.Binding
import Mathlib.Data.List.Find

/-!
# HomeLedger — three spellings of an item

An item is ticked off or changed by its text, and a user may write that as
bare words, as one token in quotes, or in a flag. The three lines have other
tokens and other parameters: one for each word, one alone, or one with a
name. A handler must not be able to tell them apart.

It cannot, since all that a handler of items looks up is the text of the
item, the list it is on, and the slot in front. So a command is described by
what is found in it (`Command.AsksFor`), two commands with the same
description are answered alike, and each spelling is read as a command with
the same description. A bare word may look like the name of a flag, or of a
list, or like a date: it is named by its number, and only a slot is read as
anything but a text.

Main results:

* `Spelling.tellsItem` — however it is spelled, the item is the same text.
* `exists_asksFor_of_wording` — what is found in a line that tells an item.
* `execute_congr` — commands in which the same is found are answered alike.
* `submit_spelling` — the three spellings of an item have one answer.
-/

namespace HomeLedger

-- ---------------------------------------------------------------------------
-- Bare words
-- ---------------------------------------------------------------------------

/-- Whether a word can be written as it is and stands on its own there: there is
no blank, quote or backslash in it, and it begins with no dash. Nothing else is
asked of it; it may look like a date or a name. -/
structure IsBareWord (word : String) : Prop where
  nonempty : word ≠ ""
  plain : ∀ c ∈ word.toList, isSpecial c = false
  dashless : ¬"-".toList <+: word.toList

/-- A text that stands for tokens is not blank. -/
theorem Wording.not_isAllBlank {text : String} {tokens : List String} (h : Wording text tokens) :
    Text.isAllBlank text = false := by
  obtain ⟨c, cs, hcs⟩ := List.exists_cons_of_ne_nil h.nonempty
  have hc : Text.isBlank c = false := h.trimmed.1 c (by simp [hcs])
  simp [Text.isAllBlank, hcs, hc]

/-- What holds of a blank and of the characters of all words holds of the
characters of the text. The induction is on the words, and the last one has no
blank behind it. -/
theorem forall_mem_intercalate {P : Char → Prop} {words : List String} (hBlank : P ' ')
    (h : ∀ word ∈ words, ∀ c ∈ word.toList, P c) :
    ∀ c ∈ (" ".intercalate words).toList, P c := by
  induction words with
  | nil => simp
  | cons word rest ih =>
    rw [List.forall_mem_cons] at h
    cases rest with
    | nil => simpa using h.1
    | cons next rest =>
      rw [String.intercalate_cons_cons, String.toList_append, String.toList_append]
      intro c hc
      rcases List.mem_append.mp hc with hc | hc
      · rcases List.mem_append.mp hc with hc | hc
        · exact h.1 c hc
        · obtain rfl : c = ' ' := by simpa using hc
          exact hBlank
      · exact ih h.2 c hc

/-- A word that can be written as it is stands for itself as a token. -/
theorem IsBareWord.wording {word : String} (h : IsBareWord word) : Wording word [word] :=
  wording_plain h.nonempty h.plain

section Words

variable {words : List String} (hne : words ≠ []) (hWords : ∀ word ∈ words, IsBareWord word)

include hWords

/-- No character of a text of words needs a backslash between quotes, so the
text in quotes is the text itself. -/
theorem escaped_words :
    (" ".intercalate words).toList.flatMap escapeChar = (" ".intercalate words).toList := by
  have hKept : ∀ c ∈ (" ".intercalate words).toList, escapeChar c = [c] := by
    refine forall_mem_intercalate (by decide) fun word hWord c hc => ?_
    have hPlain := (hWords word hWord).plain c hc
    simp only [isSpecial, Scan.isQuote, Bool.or_eq_false_iff, beq_eq_false_iff_ne] at hPlain
    rw [escapeChar, if_neg (by tauto)]
  rw [List.flatMap_congr hKept, List.flatMap_singleton']

include hne

/-- Words with blanks between them stand for themselves. -/
theorem wording_words : Wording (" ".intercalate words) words := by
  obtain ⟨word, rest, rfl⟩ := List.exists_cons_of_ne_nil hne
  rw [List.forall_mem_cons] at hWords
  have hRest : List.Forall₂ Wording rest (rest.map ([·])) := by
    rw [List.forall₂_map_right_iff, List.forall₂_same]
    exact fun w hw => (hWords.2 w hw).wording
  have hWording := wording_intercalate hWords.1.wording hRest
  rwa [← List.flatMap_def, List.flatMap_singleton', List.singleton_append] at hWording

/-- A text of words is not empty, because the first word is not. -/
theorem words_nonempty : " ".intercalate words ≠ "" := by
  intro h
  exact (wording_words hne hWords).nonempty (by rw [h]; rfl)

/-- Between quotes, words with blanks between them stand for one token. -/
theorem wording_quoted_words :
    Wording ("\"" ++ " ".intercalate words ++ "\"") [" ".intercalate words] := by
  have hQuoted := wording_escaped (words_nonempty hne hWords)
  rw [escaped_words hWords] at hQuoted
  convert hQuoted using 1
  refine String.toList_injective ?_
  simp [String.toList_append]

/-- A text of words begins as its first word does, so it is no flag either. That
matters where the words are quoted together, because then they are one token. -/
theorem words_dashless : ¬"-".toList <+: (" ".intercalate words).toList := by
  obtain ⟨word, rest, rfl⟩ := List.exists_cons_of_ne_nil hne
  have hWord : IsBareWord word := hWords word List.mem_cons_self
  obtain ⟨c, cs, hcs⟩ : ∃ c cs, word.toList = c :: cs :=
    List.exists_cons_of_ne_nil (by simpa using hWord.nonempty)
  obtain ⟨behind, hBehind⟩ : ∃ behind, (" ".intercalate (word :: rest)).toList =
      c :: behind := by
    cases rest with
    | nil => exact ⟨cs, by simpa using hcs⟩
    | cons next rest =>
      rw [String.intercalate_cons_cons, String.toList_append, String.toList_append, hcs]
      exact ⟨_, rfl⟩
  have hDash : '-' ≠ c := by
    rintro rfl
    exact hWord.dashless ⟨cs, by rw [hcs]; rfl⟩
  rw [hBehind]
  exact fun h => hDash (List.cons_prefix_cons.mp h).1

end Words

-- ---------------------------------------------------------------------------
-- What stands behind the slots
-- ---------------------------------------------------------------------------

namespace Parameter

/-- Whether parameters tell an item and nothing else that is looked for: there
is no problem with them, none of them names a list, and a command in which no
other names and texts are found is about the item of the given text. -/
structure TellsItem (text : String) (ps : List Parameter) : Prop where
  sound : ∀ p ∈ ps, p.problem? = none
  list : ps.find? (Text.equalFold ·.name "list") = none
  item : ∀ c : Command, c.named? "item" = ps.find? (Text.equalFold ·.name "item") →
    c.positional = ps.filter (·.place == .positional) → c.itemText? = some text

/-- A word on its own is named by its number, whatever it is. So it hides no
flag of another name, even if it is spelled like one. -/
theorem equalFold_bare {number : Nat} {word name : String} (h : name = "item" ∨ name = "list") :
    Text.equalFold (bare number word).name name = false := by
  have hName : (bare number word).name.toList = 'a' :: 'r' :: 'g' :: (toString number).toList := by
    show ("arg" ++ toString number).toList = _
    rw [String.toList_append]
    rfl
  rcases h with rfl | rfl <;> simp [Text.equalFold, hName]

theorem problem?_text {place : Place} {name text : String} (h : Text.isAllBlank text = false) :
    (Parameter.placed place name (.text text) text).problem? = none := by
  rw [problem?]
  simp [Parameter.placed, h]

/-- Words without a dash are no flags: each is a parameter on its own, in its
order, and the numbers go on from the count. -/
theorem exists_bare {words : List String} (hDashless : ∀ word ∈ words, ¬"-".toList <+: word.toList)
    (count : Nat) : ∀ p ∈ ofExtras count words, ∃ number, ∃ word ∈ words, p = bare number word := by
  induction words generalizing count with
  | nil => simp [ofExtras]
  | cons word rest ih =>
    rw [List.forall_mem_cons] at hDashless
    have hShort : Text.stripPrefix? "-" word = none := Text.stripPrefix?_eq_none_iff.mpr hDashless.1
    have hLong : Text.stripPrefix? "--" word = none :=
      Text.stripPrefix?_eq_none_iff.mpr fun h => hDashless.1 (List.IsPrefix.trans ⟨['-'], rfl⟩ h)
    rw [ofExtras_bare hLong hShort, List.forall_mem_cons]
    refine ⟨⟨count, word, List.mem_cons_self, rfl⟩, fun p hp => ?_⟩
    obtain ⟨number, word', hWord', rfl⟩ := ih hDashless.2 (count + 1) p hp
    exact ⟨number, word', List.mem_cons_of_mem _ hWord', rfl⟩

/-- Texts on their own tell an item together. They are joined by blanks again,
so that the words of an item come out as they went in. -/
theorem tellsItem_bare {texts : List String} (hne : texts ≠ [])
    (hDashless : ∀ text ∈ texts, ¬"-".toList <+: text.toList)
    (hSound : ∀ text ∈ texts, Text.isAllBlank text = false) :
    TellsItem (" ".intercalate texts) (ofExtras 0 texts) := by
  have hBare := exists_bare hDashless 0
  -- neither of the two names is given, since there is no flag
  have hNamed : ∀ name, name = "item" ∨ name = "list" →
      (ofExtras 0 texts).find? (Text.equalFold ·.name name) = none := by
    intro name hName
    rw [List.find?_eq_none]
    intro p hp
    obtain ⟨number, text, -, rfl⟩ := hBare p hp
    simp [equalFold_bare hName]
  refine ⟨fun p hp => ?_, hNamed "list" (.inr rfl), fun c hNone hAll => ?_⟩
  · obtain ⟨number, text, hText, rfl⟩ := hBare p hp
    exact problem?_text (hSound text hText)
  -- the tokens on their own are all the parameters, so the text is put together from all of them
  · have hPositional : c.positional = ofExtras 0 texts := by
      rw [hAll, List.filter_eq_self]
      intro p hp
      obtain ⟨number, text, -, rfl⟩ := hBare p hp
      rfl
    have hTexts : (ofExtras 0 texts).filterMap (·.text?) = texts := by
      conv_rhs => rw [← flatMap_tokens_ofExtras 0 texts]
      rw [List.filterMap_eq_flatMap_toList]
      refine List.flatMap_congr fun p hp => ?_
      obtain ⟨number, text, -, rfl⟩ := hBare p hp
      rfl
    unfold Command.itemText?
    rw [Command.namedText?, hNone, hNamed "item" (.inl rfl), hPositional, hTexts]
    cases texts with
    | nil => exact absurd rfl hne
    | cons text rest => rfl

/-- A flag tells an item by its name. No list is told by it, so the item is
looked for in the list that is meant without one. -/
theorem tellsItem_flag {text : String} (h : Text.isAllBlank text = false) :
    TellsItem text [flag "item" text] := by
  have hItem : [flag "item" text].find? (Text.equalFold ·.name "item") =
      some (flag "item" text) := by
    refine List.find?_cons_of_pos ?_
    show Text.equalFold "item" "item" = true
    decide
  have hList : [flag "item" text].find? (Text.equalFold ·.name "list") = none := by
    refine List.find?_cons_of_neg ?_
    show ¬Text.equalFold "item" "list" = true
    decide
  refine ⟨?_, hList, fun c hNamed _ => ?_⟩
  · rw [List.forall_mem_singleton]
    exact problem?_text h
  · have hFound : c.namedText? "item" = some text := by
      rw [Command.namedText?, hNamed, hItem]
      rfl
    rw [Command.itemText?, hFound]

end Parameter

-- ---------------------------------------------------------------------------
-- Commands
-- ---------------------------------------------------------------------------

namespace Command

/-- What is found in a command that changes an item: the slots are found as they
are, the item has a text, no list is named, and only the slots can be wrong.
This is all that the handlers of items look at. -/
structure AsksFor (c : Command) (asked : Action) (slots : List Parameter) (text : String) :
    Prop where
  subject : c.subject = .item
  action : c.action = asked
  slot : ∀ kind ∈ asked.required, c.firstOf? kind = slots.find? (·.kind == kind)
  item : c.itemText? = some text
  list : c.namedText? "list" = none
  problems : c.problems = slots.filterMap (·.problem?)

section Slots

variable {c : Command} {slots ps : List Parameter} (hParameters : c.parameters = slots ++ ps)

include hParameters

/-- What stands in a slot is found before all that is behind it. -/
theorem firstOf?_eq_find? {kind : Kind} (hRequired : ∀ p ∈ slots, p.isRequired = true)
    (hKind : kind ∈ slots.map (·.kind)) :
    c.firstOf? kind = slots.find? (·.kind == kind) := by
  obtain ⟨p, hp, hpKind⟩ := List.mem_map.mp hKind
  have hFound : (slots.find? (·.kind == kind)).isSome :=
    List.find?_isSome.mpr ⟨p, hp, by simpa using hpKind⟩
  obtain ⟨q, hq⟩ := Option.isSome_iff_exists.mp hFound
  have hFirst : slots.find? (fun p => p.kind == kind && p.isRequired) = some q := by
    rw [← hq]
    exact List.find?_congr fun p hp => by simp [hRequired p hp]
  rw [firstOf?, hParameters, List.find?_append, hFirst, hq]
  rfl

/-- Slots that are all filled have all the problems. No slot is missing, and
behind the slots nothing is wrong, so the problems come in the order of the
slots. -/
theorem problems_eq_filterMap (hKinds : slots.map (·.kind) = c.action.required)
    (hSound : ∀ p ∈ ps, p.problem? = none) : c.problems = slots.filterMap (·.problem?) := by
  have hFilled :
      (c.action.required.filter fun kind => !c.parameters.any (·.kind == kind)) = [] := by
    rw [List.filter_eq_nil_iff]
    intro kind hKind
    rw [← hKinds] at hKind
    obtain ⟨p, hp, hpKind⟩ := List.mem_map.mp hKind
    simp only [Bool.not_eq_true, Bool.not_eq_false', List.any_eq_true, hParameters]
    exact ⟨p, List.mem_append_left _ hp, by simpa using hpKind⟩
  rw [problems, hFilled, hParameters, List.filterMap_append, List.filterMap_eq_nil_iff.mpr hSound]
  simp

/-- No token in a slot stands on its own. -/
theorem positional_eq_filter (hPlace : ∀ p ∈ slots, p.place = .required) :
    c.positional = ps.filter (·.place == .positional) := by
  have hNone : slots.filter (·.place == .positional) = [] :=
    List.filter_eq_nil_iff.mpr fun p hp => by simp [hPlace p hp]
  rw [positional, hParameters, List.filter_append, hNone, List.nil_append]

end Slots

/-- No slot is named as an item or a list is. -/
theorem find?_slots {f : Formatting} {today : Date} {kinds : List Kind} {tokens : List String}
    {name : String} (hName : name = "item" ∨ name = "list") :
    (List.zipWith (Parameter.ofSlot f today) kinds tokens).find?
      (Text.equalFold ·.name name) = none := by
  rw [List.find?_eq_none, ← List.map_uncurry_zip_eq_zipWith]
  intro p hp
  obtain ⟨⟨kind, token⟩, -, rfl⟩ := List.mem_map.mp hp
  have hKind : Text.equalFold kind.parameterName name = false := by
    rcases hName with rfl | rfl <;> cases kind <;> decide
  simpa [Parameter.ofSlot, Parameter.placed] using hKind

open Parameter in
/-- What stands in the slots is found there, and hides nothing behind them. A
slot has no name, and it does not stand on its own. -/
theorem asksFor_of_tellsItem {f : Formatting} {today : Date} {action : Action} {raw text : String}
    {tokens : List String} {ps : List Parameter} (hLength : tokens.length = action.required.length)
    (h : TellsItem text ps) :
    (Command.mk .item action
      (List.zipWith (ofSlot f today) action.required tokens ++ ps) raw).AsksFor action
      (List.zipWith (ofSlot f today) action.required tokens) text := by
  have hPlace := place_of_mem_slots f today action.required tokens
  have hKinds : (List.zipWith (ofSlot f today) action.required tokens).map (·.kind) =
      action.required := by
    rw [map_kind_slots, hLength, List.take_length]
  refine ⟨rfl, rfl, fun kind hKind => ?_, h.item _ ?_ ?_, ?_, ?_⟩
  · exact firstOf?_eq_find? rfl (fun p hp => (hPlace p hp).2) (by rwa [hKinds])
  · rw [named?, List.find?_append, find?_slots (.inl rfl), Option.none_or]
  · exact positional_eq_filter rfl fun p hp => (hPlace p hp).1
  · rw [namedText?, named?, List.find?_append, find?_slots (.inr rfl), Option.none_or, h.list]
    rfl
  · exact problems_eq_filterMap rfl hKinds h.sound

/-- A line that begins with an action on items and what stands in its slots is
read as a command that asks for the item. This holds of any spelling that tells
the item. -/
theorem exists_asksFor_of_wording (f : Formatting) (today : Date) {action : Action}
    {front behind text : String} {slots tokens : List String}
    (hAllows : Subject.item.allows action = true) (hLength : slots.length = action.required.length)
    (hFront : Wording front (Subject.item.name :: action.name :: slots))
    (hBehind : Wording behind tokens)
    (h : Parameter.TellsItem text (Parameter.ofExtras 0 tokens)) :
    ∃ c, Command.read f today (front ++ " " ++ behind) = .ok c ∧ c.AsksFor action
      (List.zipWith (Parameter.ofSlot f today) action.required slots) text := by
  have hWording : Wording (front ++ " " ++ behind)
      (Subject.item.name :: action.name :: (slots ++ tokens)) := hFront.append hBehind
  refine ⟨_, read_of_wording hWording hAllows, ?_⟩
  rw [Parameter.ofTokens_eq, List.take_left' hLength, List.drop_left' hLength]
  exact asksFor_of_tellsItem hLength h

end Command

-- ---------------------------------------------------------------------------
-- Spellings
-- ---------------------------------------------------------------------------

/-- The ways to spell an item of several words. -/
inductive Spelling where
  /-- As the words that it has. -/
  | words
  /-- As one token in quotes. -/
  | quoted
  /-- As such a token behind the flag of its name. -/
  | flagged
  deriving DecidableEq, Repr

namespace Spelling

/-- An item as it is spelled. -/
def text (words : List String) : Spelling → String
  | .words => " ".intercalate words
  | .quoted => "\"" ++ " ".intercalate words ++ "\""
  | .flagged => "--item " ++ "\"" ++ " ".intercalate words ++ "\""

/-- The tokens that a spelling stands for. -/
def tokens (words : List String) : Spelling → List String
  | .words => words
  | .quoted => [" ".intercalate words]
  | .flagged => ["--item", " ".intercalate words]

variable {words : List String} (hne : words ≠ []) (hWords : ∀ word ∈ words, IsBareWord word)

include hne hWords

theorem wording (spelling : Spelling) : Wording (spelling.text words) (spelling.tokens words) := by
  cases spelling with
  | words => exact wording_words hne hWords
  | quoted => exact wording_quoted_words hne hWords
  | flagged =>
    have hFlag : Wording "--item" ["--item"] :=
      wording_plain (by decide) (plain_of_all (by decide))
    have hWording := hFlag.append (wording_quoted_words hne hWords)
    rwa [← String.append_assoc, ← String.append_assoc] at hWording

/-- However it is spelled, an item is the text of its words. Words are joined, a
token in quotes is the text already, and a flag is looked up by its name. -/
theorem tellsItem (spelling : Spelling) : Parameter.TellsItem (" ".intercalate words)
    (Parameter.ofExtras 0 (spelling.tokens words)) := by
  have hDashless := words_dashless hne hWords
  have hSound := (wording_words hne hWords).not_isAllBlank
  cases spelling with
  | words =>
    exact Parameter.tellsItem_bare hne (fun word hWord => (hWords word hWord).dashless)
      fun word hWord => (hWords word hWord).wording.not_isAllBlank
  | quoted =>
    have hTells := Parameter.tellsItem_bare (List.cons_ne_nil (" ".intercalate words) [])
      (List.forall_mem_singleton.mpr hDashless) (List.forall_mem_singleton.mpr hSound)
    rwa [String.intercalate_singleton] at hTells
  | flagged =>
    have hNext : Parameter.isLongFlag (" ".intercalate words) = false := by
      rw [← Bool.not_eq_true, Parameter.isLongFlag_iff]
      exact fun h => hDashless (List.IsPrefix.trans ⟨['-'], rfl⟩ h)
    have hFlag : Text.stripPrefix? "--" "--item" = some "item" := by decide
    rw [tokens, Parameter.ofExtras_flag hFlag hNext]
    exact Parameter.tellsItem_flag hSound

end Spelling

/-- The lines that go on with an item, up to there: with an action, and with
the token in its slot if it has one. -/
inductive ItemFront : String → Action → List String → Prop
  | complete : ItemFront "item complete" .complete []
  | due (date : String) (hDate : date ≠ "") : ItemFront ("item due " ++ quote date) .due [date]
  | occurs (schedule : String) (hSchedule : schedule ≠ "") :
      ItemFront ("item occurs " ++ quote schedule) .occurs [schedule]

namespace ItemFront

variable {front : String} {action : Action} {slots : List String}

/-- Each front is its subject, its action and its slot. A slot is quoted, so any
text may stand in it. -/
theorem wording (h : ItemFront front action slots) :
    Wording front (Subject.item.name :: action.name :: slots) := by
  have hItem := Command.wording_subject .item
  cases h with
  | complete => exact hItem.append (Command.wording_action .complete)
  | due date hDate =>
    exact (hItem.append (Command.wording_action .due)).append (wording_quote hDate)
  | occurs schedule hSchedule =>
    exact (hItem.append (Command.wording_action .occurs)).append (wording_quote hSchedule)

/-- There are as many tokens in front as the action has slots, so that all
behind them is the item. -/
theorem length_eq (h : ItemFront front action slots) : slots.length = action.required.length := by
  cases h <;> rfl

theorem action_eq (h : ItemFront front action slots) :
    action = .complete ∨ action = .due ∨ action = .occurs := by
  cases h <;> simp

end ItemFront

-- ---------------------------------------------------------------------------
-- Answers
-- ---------------------------------------------------------------------------

namespace Routes

/-- Commands in which the same is found are answered alike. Nothing is said of
their other parameters, and they may have as many as they like. -/
theorem execute_congr {s : Setting} {c c' : Command} {action : Action} {slots : List Parameter}
    {text : String} (hAction : action = .complete ∨ action = .due ∨ action = .occurs)
    (h : c.AsksFor action slots text) (h' : c'.AsksFor action slots text) (l : Ledger) :
    standard.execute s c l = standard.execute s c' l := by
  have hSlot : ∀ kind ∈ action.required, c.firstOf? kind = c'.firstOf? kind := by
    intro kind hKind
    rw [h.slot kind hKind, h'.slot kind hKind]
  have hSame : ∀ handler, standard .item action = some handler → handler s c = handler s c' := by
    rcases hAction with rfl | rfl | rfl <;> rintro _ ⟨⟩
    · unfold Handler.itemComplete
      rw [h.item, h'.item, h.list, h'.list]
    · unfold Handler.itemDue
      rw [h.item, h'.item, h.list, h'.list, hSlot .date (List.mem_singleton_self _)]
    · unfold Handler.itemOccurs Command.requiredText
      rw [h.item, h'.item, h.list, h'.list, hSlot .text (List.mem_singleton_self _)]
  unfold execute
  rw [h.subject, h.action, h'.subject, h'.action]
  cases hRoute : standard .item action with
  | none => rfl
  | some handler => simp only [hSame handler hRoute]

/-- Whether an item is spelled as words, in quotes or in a flag, the line asks
for the same item and has the same answer, be that a refusal. Nothing is assumed
of the ledger, so the item need not be there. -/
theorem submit_spelling (s : Setting) (l : Ledger) {front : String} {action : Action}
    {slots : List String} (hFront : ItemFront front action slots) {words : List String}
    (hne : words ≠ []) (hWords : ∀ word ∈ words, IsBareWord word) :
    (∀ spelling : Spelling, ∃ c,
      Command.read s.formatting s.today (front ++ " " ++ spelling.text words) = .ok c ∧
      c.subject = .item ∧ c.action = action ∧ c.itemText? = some (" ".intercalate words)) ∧
    ∀ spelling spelling' : Spelling,
      standard.submit s (front ++ " " ++ spelling.text words) l =
        standard.submit s (front ++ " " ++ spelling'.text words) l := by
  have hAllows : Subject.item.allows action = true := by
    rcases hFront.action_eq with rfl | rfl | rfl <;> decide
  have hRead := fun spelling : Spelling =>
    Command.exists_asksFor_of_wording s.formatting s.today hAllows
      hFront.length_eq hFront.wording (spelling.wording hne hWords) (spelling.tellsItem hne hWords)
  constructor
  · intro spelling
    obtain ⟨c, hc, hAsks⟩ := hRead spelling
    exact ⟨c, hc, hAsks.subject, hAsks.action, hAsks.item⟩
  · intro spelling spelling'
    obtain ⟨c, hc, hAsks⟩ := hRead spelling
    obtain ⟨c', hc', hAsks'⟩ := hRead spelling'
    rw [submit, submit, hc, hc']
    simp only [hAsks.problems, hAsks'.problems, execute_congr hFront.action_eq hAsks hAsks' l]

/-- The ledger to begin with, where the chores are selected. -/
def choresSelected : Ledger := { numbered with selectedList := some (toString 11) }

/-- Walking the dog comes up again every week, in all spellings. -/
theorem dogWalk_spelled_alike :
    standard.submit nextDay "item occurs \"every week\" \"Walk the dog\"" choresSelected =
        standard.submit nextDay "item occurs \"every week\" Walk the dog" choresSelected ∧
      standard.submit nextDay "item occurs \"every week\" --item \"Walk the dog\"" choresSelected =
        standard.submit nextDay "item occurs \"every week\" Walk the dog" choresSelected ∧
      (standard.submit nextDay "item occurs \"every week\" Walk the dog" choresSelected).map
        (·.1.success) = .ok true := by
  have hWords : ∀ word ∈ ["Walk", "the", "dog"], IsBareWord word := by
    have hWord : ∀ word ∈ ["Walk", "the", "dog"], word ≠ "" ∧
        word.toList.all (!isSpecial ·) = true ∧ ¬"-".toList <+: word.toList := by decide
    exact fun word h => ⟨(hWord word h).1, plain_of_all (hWord word h).2.1, (hWord word h).2.2⟩
  have hAlike := (submit_spelling nextDay choresSelected
    (.occurs "every week" (by decide)) (List.cons_ne_nil "Walk" ["the", "dog"]) hWords).2
  exact ⟨hAlike .quoted .words, hAlike .flagged .words, by decide +kernel⟩

end Routes

end HomeLedger
