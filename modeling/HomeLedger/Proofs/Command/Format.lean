import HomeLedger.Proofs.Formatting.Amount
import HomeLedger.Proofs.Formatting.Date
import HomeLedger.Proofs.Outcome
import HomeLedger.Proofs.Parameter.Reread
import HomeLedger.Proofs.Text.Occurrence

/-!
# HomeLedger — a displayed command is a command again

A command is displayed as a line, with amounts and dates as the user writes
them and all else in quotes where it needs them. That line is read as the
command that was displayed, up to the places of amounts.

The parameters do not come back one by one: what a token becomes depends on
how many slots are before it and on the token after it. So it is the tokens
that are compared. Behind the slots they are the tokens of the first line,
one for one (`flatMap_tokens_ofExtras`), and in the slots, where a token may
be any text, they are as many as there were.

Main results:

* `slot_displayed` / `extra_displayed` — what one parameter is displayed as.
* `flatMap_tokens_ofExtras` — parameters have the tokens they were read from.
* `read_format` — a displayed command is read again.
-/

namespace HomeLedger

variable {today : Date}

-- ---------------------------------------------------------------------------
-- What display keeps
-- ---------------------------------------------------------------------------

/-- Whether a value is what another one is read as after it was displayed: an
amount is rounded to the nearest one with two places, unless that is too
large, and all else is the same. -/
inductive Value.Redisplayed : Value → Value → Prop
  | amount (a a' : Decimal) (n : Int) (hNearest : IsNearestEven (a.toRat * 100) n)
      (hFits : n.natAbs < 2 ^ 96 → a'.toRat = n / 100) : Redisplayed (.amount a) (.amount a')
  | same (v : Value) (hKind : v.kind ≠ .amount) : Redisplayed v v

namespace Parameter

/-- Whether a parameter is what another one is read as after it was
displayed. -/
structure Redisplayed (p p' : Parameter) : Prop where
  name : p'.name = p.name
  kind : p'.kind = p.kind
  place : p'.place = p.place
  value : p.value.Redisplayed p'.value

-- ---------------------------------------------------------------------------
-- Slots
-- ---------------------------------------------------------------------------

/-- A value that is neither an amount nor a date is displayed as its token. -/
theorem valueText_quote {p : Parameter} (hAmount : ∀ a, p.value ≠ .amount a)
    (hDate : ∀ d, p.value ≠ .date d) : p.valueText {} = .ok (quote p.raw) := by
  unfold valueText
  split
  · next h => exact absurd h (hAmount _)
  · next h => exact absurd h (hDate _)
  · rfl

/-- A slot is displayed as its value, without a name in front of it. -/
theorem display_required {f : Formatting} {p : Parameter} {text : String}
    (hPlace : p.place = .required) (h : p.valueText f = .ok text) : p.display f = .ok text := by
  rw [display, bind_eq_ok]
  exact ⟨text, h, by rw [hPlace]; rfl⟩

@[simp] theorem value_ofSlot (f : Formatting) (kind : Kind) (token : String) :
    (ofSlot f today kind token).value = Value.ofToken f today kind token := rfl

@[simp] theorem kind_ofSlot (f : Formatting) (kind : Kind) (token : String) :
    (ofSlot f today kind token).kind = kind := Value.kind_ofToken ..

/-- Two slots of one kind differ in nothing but their values, so it is those
that have to be compared. -/
theorem redisplayed_ofSlot {f : Formatting} {kind : Kind} {token token' : String}
    (h : (ofSlot f today kind token).value.Redisplayed (ofSlot f today kind token').value) :
    (ofSlot f today kind token).Redisplayed (ofSlot f today kind token') :=
  ⟨rfl, by rw [kind_ofSlot, kind_ofSlot], rfl, h⟩

/-- A token in a slot is displayed as one token, which is read as the same again
but for the places of an amount. An amount and a date are written in a form of
their own, and anything else is quoted. -/
theorem slot_displayed (today : Date) (kind : Kind) {token : String} (hne : token ≠ "") :
    ∃ text token', (ofSlot {} today kind token).display {} = .ok text ∧ Wording text [token'] ∧
      (ofSlot {} today kind token).Redisplayed (ofSlot {} today kind token') := by
  have hKind : (ofSlot {} today kind token).value.kind = kind := Value.kind_ofToken ..
  -- an amount and a date are formatted and read again, everything else is quoted
  by_cases hAmount : ∃ a, (ofSlot {} today kind token).value = .amount a
  · obtain ⟨a, hValue⟩ := hAmount
    obtain rfl : Kind.amount = kind := by rw [← hKind, hValue, Value.kind]
    obtain ⟨text, n, hCurrency, hWording, hNearest, hFits⟩ := Formatting.amount?_currency a
    refine ⟨text, text, display_required rfl ?_, hWording, redisplayed_ofSlot ?_⟩
    · rw [valueText, hValue]
      exact hCurrency
    · rw [hValue]
      refine .amount a _ n hNearest ?_
      intro hn
      obtain ⟨d, hd, hdValue⟩ := hFits hn
      rw [hd]
      exact hdValue
  · by_cases hDate : ∃ d, (ofSlot {} today kind token).value = .date d
    · obtain ⟨d, hValue⟩ := hDate
      obtain rfl : Kind.date = kind := by rw [← hKind, hValue, Value.kind]
      have hRead : (ofSlot {} today .date (Formatting.shortDate {} d)).value = .date d := by
        rw [value_ofSlot, Value.ofToken]
        simp only [Formatting.date?_shortDate]
      refine ⟨_, _, display_required rfl ?_, Formatting.wording_shortDate d,
        redisplayed_ofSlot ?_⟩
      · rw [valueText, hValue]
      · rw [hRead, hValue]
        exact .same _ (by simp [Value.kind])
    · have hOther : (ofSlot {} today kind token).value.kind ≠ .amount := by
        rw [hKind]
        rintro rfl
        exact hAmount ⟨_, rfl⟩
      refine ⟨_, token, display_required rfl ?_, wording_quote hne, redisplayed_ofSlot ?_⟩
      · exact valueText_quote (fun a ha => hAmount ⟨a, ha⟩) fun d hd => hDate ⟨d, hd⟩
      · exact .same _ hOther

/-- The tokens in the slots, one after the other. They are displayed as as many
tokens, which is what keeps the parameters behind the slots in their places. -/
theorem slots_displayed (today : Date) (kinds : List Kind) {tokens : List String}
    (hne : ∀ token ∈ tokens, token ≠ "") (hLength : tokens.length ≤ kinds.length) :
    ∃ texts tokens', (List.zipWith (ofSlot {} today) kinds tokens).mapM (display {}) = .ok texts ∧
      List.Forall₂ Wording texts (tokens'.map ([·])) ∧ tokens'.length = tokens.length ∧
      List.Forall₂ Redisplayed (List.zipWith (ofSlot {} today) kinds tokens)
        (List.zipWith (ofSlot {} today) kinds tokens') := by
  induction kinds generalizing tokens with
  | nil =>
    obtain rfl : tokens = [] := List.eq_nil_of_length_eq_zero (by simpa using hLength)
    exact ⟨[], [], rfl, .nil, rfl, .nil⟩
  | cons kind kinds ih =>
    cases tokens with
    | nil => exact ⟨[], [], rfl, .nil, rfl, .nil⟩
    | cons token tokens =>
      obtain ⟨hFirst, hOthers⟩ := List.forall_mem_cons.mp hne
      obtain ⟨text, token', hDisplay, hWording, hSame⟩ := slot_displayed today kind hFirst
      obtain ⟨texts, tokens', hDisplays, hWordings, hSameLength, hSames⟩ :=
        ih hOthers (by simpa using hLength)
      refine ⟨text :: texts, token' :: tokens', ?_, .cons hWording hWordings, by simp [hSameLength],
        .cons hSame hSames⟩
      rw [mapM_eq_ok] at hDisplays ⊢
      exact .cons hDisplay hDisplays

-- ---------------------------------------------------------------------------
-- Parameters that are not required
-- ---------------------------------------------------------------------------

/-- Parameters that are not required have the tokens that they were read from.
So what is displayed of them is what was read, and it does not matter which of
the tokens became a value of a flag. -/
theorem flatMap_tokens_ofExtras (count : Nat) (tokens : List String) :
    (ofExtras count tokens).flatMap Parameter.tokens = tokens := by
  -- the cases are those of the reader, and each puts back what it has taken
  induction count, tokens using ofExtras.induct with
  | case1 count => rfl
  | case2 count token name hLong =>
    rw [ofExtras_last hLong, ← Text.stripPrefix?_eq_some_iff.mp hLong]
    rfl
  | case3 count token name hLong next rest hNext ih =>
    rw [ofExtras_before hLong hNext, List.flatMap_cons, ih,
      ← Text.stripPrefix?_eq_some_iff.mp hLong]
    rfl
  | case4 count token name hLong next rest hNext ih =>
    rw [ofExtras_flag hLong (by simpa using hNext), List.flatMap_cons, ih,
      ← Text.stripPrefix?_eq_some_iff.mp hLong]
    rfl
  | case5 count token rest name hShort hLong ih =>
    rw [ofExtras_switch hLong hShort, List.flatMap_cons, ih,
      ← Text.stripPrefix?_eq_some_iff.mp hShort]
    rfl
  | case6 count token rest hShort hLong ih =>
    rw [ofExtras_bare hLong hShort, List.flatMap_cons, ih]
    rfl

/-- A flag is one token if its name has nothing special in it. -/
theorem wording_flag {mark name : String} (hMark : mark = "-" ∨ mark = "--")
    (hName : ∀ c ∈ name.toList, isSpecial c = false) : Wording (mark ++ name) [mark ++ name] := by
  refine wording_plain ?_ ?_
  · intro h
    have hList := congrArg String.toList h
    rcases hMark with rfl | rfl <;> simp at hList
  · intro c hc
    rw [String.toList_append, List.mem_append] at hc
    rcases hc with hc | hc
    · rcases hMark with rfl | rfl <;> exact plain_of_all (by decide) c hc
    · exact hName c hc

/-- A parameter that is not required is displayed as its tokens. Only for flags
something has to be asked of their names, since they are not quoted. -/
theorem extra_displayed {tokens : List String} {p : Parameter} (h : Extra tokens p)
    (hne : ∀ token ∈ tokens, token ≠ "")
    (hName : p.place = .longFlag ∨ p.place = .shortFlag →
      ∀ c ∈ p.name.toList, isSpecial c = false) :
    ∃ text, p.display {} = .ok text ∧ Wording text p.tokens := by
  cases h with
  | switch place name hPlace =>
    rcases hPlace with rfl | rfl
    · exact ⟨_, rfl, wording_flag (Or.inr rfl) (hName (Or.inl rfl))⟩
    · exact ⟨_, rfl, wording_flag (Or.inl rfl) (hName (Or.inr rfl))⟩
  | flag name value hValue =>
    have hFlag : Wording ("--" ++ name) ["--" ++ name] :=
      wording_flag (Or.inr rfl) (hName (Or.inl rfl))
    exact ⟨_, rfl, hFlag.append (wording_quote (hne value hValue))⟩
  | bare number token hToken => exact ⟨_, rfl, wording_quote (hne token hToken)⟩

/-- A parameter that is not required is a text or a truth value, so nothing is
rounded. -/
theorem redisplayed_of_extra {tokens : List String} {p : Parameter} (h : Extra tokens p) :
    p.Redisplayed p := by
  refine ⟨rfl, rfl, rfl, .same _ ?_⟩
  cases h with
  | switch place name _ => exact Kind.noConfusion
  | flag name value _ => exact Kind.noConfusion
  | bare number token _ => exact Kind.noConfusion

/-- Parameters that are not required are displayed as their tokens. -/
theorem extras_displayed {tokens : List String} {ps : List Parameter}
    (h : ∀ p ∈ ps, Extra tokens p) (hne : ∀ token ∈ tokens, token ≠ "")
    (hNames : ∀ p ∈ ps, p.place = .longFlag ∨ p.place = .shortFlag →
      ∀ c ∈ p.name.toList, isSpecial c = false) :
    ∃ texts, ps.mapM (display {}) = .ok texts ∧
      List.Forall₂ Wording texts (ps.map Parameter.tokens) := by
  induction ps with
  | nil => exact ⟨[], rfl, .nil⟩
  | cons p ps ih =>
    rw [List.forall_mem_cons] at h hNames
    obtain ⟨text, hDisplay, hWording⟩ := extra_displayed h.1 hne hNames.1
    obtain ⟨texts, hDisplays, hWordings⟩ := ih h.2 hNames.2
    refine ⟨text :: texts, ?_, .cons hWording hWordings⟩
    rw [mapM_eq_ok] at hDisplays ⊢
    exact .cons hDisplay hDisplays

-- ---------------------------------------------------------------------------
-- Tokens
-- ---------------------------------------------------------------------------

/-- The slots take the first tokens, and the others are left. -/
theorem ofTokens_eq (f : Formatting) (today : Date) (action : Action) (tokens : List String) :
    ofTokens f today action tokens =
      List.zipWith (ofSlot f today) action.required (tokens.take action.required.length) ++
        ofExtras 0 (tokens.drop action.required.length) := by
  have hLength : (List.zipWith (ofSlot f today) action.required tokens).length ≤
      action.required.length := by
    rw [List.length_zipWith]
    exact Nat.min_le_left _ _
  rw [ofTokens, ← List.take_of_length_le hLength, List.take_zipWith, List.take_length]

/-- As many other tokens in the slots leave what is behind the slots where it
is. Which slot takes which token is a matter of their number alone. -/
theorem ofTokens_append {f : Formatting} {action : Action} {tokens tokens' : List String}
    (h : tokens'.length = (tokens.take action.required.length).length) :
    ofTokens f today action (tokens' ++ tokens.drop action.required.length) =
      List.zipWith (ofSlot f today) action.required tokens' ++
        ofExtras 0 (tokens.drop action.required.length) := by
  rw [List.length_take] at h
  rw [ofTokens_eq]
  by_cases hFull : action.required.length ≤ tokens.length
  · have hLength : tokens'.length = action.required.length := by omega
    rw [List.take_left' hLength, List.drop_left' hLength]
  · rw [List.drop_eq_nil_of_le (by omega), List.append_nil, List.take_of_length_le (by omega),
      List.drop_eq_nil_of_le (by omega)]

end Parameter

-- ---------------------------------------------------------------------------
-- Commands
-- ---------------------------------------------------------------------------

namespace Command

/-- A subject has a name without anything special in it, so the name is one
token. -/
theorem wording_subject (subject : Subject) : Wording subject.name [subject.name] := by
  have hPlain : subject.name.toList.all (!isSpecial ·) = true := by cases subject <;> decide
  exact wording_plain (by cases subject <;> decide) (plain_of_all hPlain)

theorem wording_action (action : Action) : Wording action.name [action.name] := by
  have hPlain : action.name.toList.all (!isSpecial ·) = true := by cases action <;> decide
  exact wording_plain (by cases action <;> decide) (plain_of_all hPlain)

/-- A line of tokens is read as the command that they make up. -/
theorem read_of_resolved {f : Formatting} {text first second : String} {subject : Subject}
    {action : Action} {tokens : List String} (h : Wording text (first :: second :: tokens))
    (hSubject : Subject.resolve? first = some subject)
    (hAction : Action.resolve? second = some action) (hAllows : subject.allows action = true) :
    Command.read f today text =
      .ok ⟨subject, action, Parameter.ofTokens f today action tokens, text⟩ := by
  have hne : ¬text.isEmpty = true := by
    have := h.nonempty
    simpa using this
  unfold Command.read
  simp only [trimmed_of_wording h]
  rw [if_neg hne, tokenize_of_wording h]
  simp [ofTokens?, header, hSubject, hAction, hAllows]

/-- Names stand for what they are the names of. -/
theorem read_of_wording {f : Formatting} {text : String} {subject : Subject} {action : Action}
    {tokens : List String} (h : Wording text (subject.name :: action.name :: tokens))
    (hAllows : subject.allows action = true) :
    Command.read f today text =
      .ok ⟨subject, action, Parameter.ofTokens f today action tokens, text⟩ :=
  read_of_resolved h (Subject.resolve?_name subject) (Action.resolve?_name action) hAllows

/-- A command that is displayed is read again: it has the same subject and
action, and the same parameters but for the places of amounts. The name of a
flag is the one thing that is displayed as it is, so nothing special may be in
it. -/
theorem read_format {line : String} {c : Command} (h : Command.read {} today line = .ok c)
    (hNames : ∀ p ∈ c.parameters, p.place = .longFlag ∨ p.place = .shortFlag →
      ∀ ch ∈ p.name.toList, isSpecial ch = false) :
    ∃ text c', c.format {} = .ok text ∧ Command.read {} today text = .ok c' ∧
      c'.subject = c.subject ∧ c'.action = c.action ∧
      List.Forall₂ Parameter.Redisplayed c.parameters c'.parameters := by
  obtain ⟨subject, action, tokens, hTokens, -, -, hAllows, -, hParameters⟩ := read_eq_ok h
  rw [Parameter.ofTokens_eq] at hParameters
  -- what fills the slots, and what stands behind them
  generalize hSlots : tokens.take c.action.required.length = slots at hParameters
  generalize hExtras : tokens.drop c.action.required.length = extras at hParameters
  have hne : ∀ token ∈ tokens, token ≠ "" := by
    intro token hToken
    have hMem : token ∈ tokenize (Text.trimmed line) := by
      rw [hTokens]
      exact List.mem_cons_of_mem _ (List.mem_cons_of_mem _ hToken)
    exact ne_empty_of_mem_tokenize hMem
  have hneSlots : ∀ token ∈ slots, token ≠ "" := fun token hToken =>
    hne token (List.mem_of_mem_take (hSlots ▸ hToken))
  have hneExtras : ∀ token ∈ extras, token ≠ "" := fun token hToken =>
    hne token (List.mem_of_mem_drop (hExtras ▸ hToken))
  have hFit : slots.length ≤ c.action.required.length := by
    rw [← hSlots]
    exact List.length_take_le _ _
  -- a slot may be displayed with another token, but there are as many as before
  obtain ⟨slotTexts, tokens', hSlotTexts, hSlotWordings, hLength, hSame⟩ :=
    Parameter.slots_displayed today c.action.required hneSlots hFit
  have hExtra : ∀ p ∈ Parameter.ofExtras 0 extras, Parameter.Extra extras p :=
    Parameter.extra_of_mem_ofExtras
  obtain ⟨extraTexts, hExtraTexts, hExtraWordings⟩ :=
    Parameter.extras_displayed hExtra hneExtras fun p hp =>
      hNames p (by rw [hParameters]; exact List.mem_append_right _ hp)
  have hDisplay : c.parameters.mapM (Parameter.display {}) = .ok (slotTexts ++ extraTexts) := by
    rw [mapM_eq_ok] at hSlotTexts hExtraTexts ⊢
    rw [hParameters]
    exact List.rel_append hSlotTexts hExtraTexts
  -- The line stands for the header, as many tokens in the slots, and the same tokens behind them.
  have hWording : Wording (" ".intercalate (c.subject.name :: c.action.name ::
      (slotTexts ++ extraTexts))) (c.subject.name :: c.action.name :: (tokens' ++ extras)) := by
    have hAll := wording_intercalate (wording_subject c.subject)
      (.cons (wording_action c.action) (List.rel_append hSlotWordings hExtraWordings))
    rw [List.flatten_cons, List.flatten_append, ← List.flatMap_def, ← List.flatMap_def,
      List.flatMap_singleton', Parameter.flatMap_tokens_ofExtras] at hAll
    exact hAll
  refine ⟨_, _, ?_, read_of_wording hWording hAllows, rfl, rfl, ?_⟩
  · rw [format, bind_eq_ok]
    exact ⟨_, hDisplay, rfl⟩
  · show List.Forall₂ _ _ (Parameter.ofTokens {} today c.action (tokens' ++ extras))
    rw [hParameters, ← hExtras, Parameter.ofTokens_append (by rw [hSlots, hLength]), hExtras]
    refine List.rel_append hSame (List.forall₂_same.mpr fun p hp => ?_)
    exact Parameter.redisplayed_of_extra (hExtra p hp)

/-- A line with an amount of three places, a text in quotes, a switch and a
flag without a name, and a day to read it on. -/
def ticketLine : String := "a cre 1234.565 --note \"two \\\"big\\\" ones\" -x --"

@[inherit_doc ticketLine]
def ticketDay : Date := ⟨2026, 1, 3, by decide⟩

/-- The amount comes back with two places, and the flag without a name is read
again, too. -/
theorem ticket_read_again :
    ∃ c text c', Command.read {} ticketDay ticketLine = .ok c ∧ c.format {} = .ok text ∧
      Command.read {} ticketDay text = .ok c' ∧
      List.Forall₂ Parameter.Redisplayed c.parameters c'.parameters := by
  have hOk : (Command.read {} ticketDay ticketLine).isOk = true := by decide +kernel
  obtain ⟨c, hc⟩ := exists_of_isOk hOk
  have hMap : (Command.read {} ticketDay ticketLine).map (·.parameters.map (·.name)) =
      .ok ["amount", "note", "x", ""] := by decide +kernel
  have hNames : c.parameters.map (·.name) = ["amount", "note", "x", ""] := by
    rw [hc] at hMap
    exact Except.ok.inj hMap
  obtain ⟨text, c', hFormat, hRead, -, -, hSame⟩ := read_format hc fun p hp _ => by
    have hMem : p.name ∈ ["amount", "note", "x", ""] := hNames ▸ List.mem_map_of_mem hp
    have hPlain : ∀ name ∈ ["amount", "note", "x", ""],
        name.toList.all (!isSpecial ·) = true := by decide
    exact plain_of_all (hPlain _ hMem)
  exact ⟨c, text, c', hc, hFormat, hRead, hSame⟩

end Command

end HomeLedger
