import HomeLedger.Command.Read

/-!
# HomeLedger — parameters that their tokens give again

A command is passed on by its names and tokens: a value is not sent, it is
read again by whoever receives it. So a parameter must be what its token
gives when it is read as a value of the parameter's own kind
(`Parameter.IsReread`). A parameter of a line is read in that way to begin
with where it fills a slot. Flags and tokens on their own are texts, and a
text is its token; and a switch, which has no token, gets one that means yes.

Main results:

* `Subject.resolve?_name`, `Action.resolve?_name`, `Kind.ofName?_name`,
  `Place.ofName?_name` — names are read as what they are the names of.
* `isReread_of_ofTokens` / `isReread_of_read` — all parameters of a line are
  given again by their tokens.
-/

namespace HomeLedger

-- ---------------------------------------------------------------------------
-- Names
-- ---------------------------------------------------------------------------

@[simp] theorem Subject.resolve?_name (subject : Subject) :
    Subject.resolve? subject.name = some subject := by
  cases subject <;> decide

@[simp] theorem Action.resolve?_name (action : Action) :
    Action.resolve? action.name = some action := by
  cases action <;> decide

@[simp] theorem Kind.ofName?_name (kind : Kind) : Kind.ofName? kind.name = some kind := by
  cases kind <;> decide

@[simp] theorem Place.ofName?_name (place : Place) : Place.ofName? place.name = some place := by
  cases place <;> decide

-- ---------------------------------------------------------------------------
-- Values
-- ---------------------------------------------------------------------------

variable {f : Formatting} {today : Date}

/-- Whatever a token is read as is of the kind that was asked for. A token that
is no date or no number is kept, and still tells what it should have been. -/
@[simp] theorem Value.kind_ofToken (f : Formatting) (today : Date) (kind : Kind) (token : String) :
    (Value.ofToken f today kind token).kind = kind := by
  unfold Value.ofToken
  cases kind with
  | amount => rfl
  | date =>
    simp only
    cases f.date? token today <;> rfl
  | number =>
    simp only
    cases Binary64.read? (Text.trim token.toList) <;> rfl
  | boolean => rfl
  | text => rfl
  | member => rfl
  | account => rfl

-- ---------------------------------------------------------------------------
-- Parameters
-- ---------------------------------------------------------------------------

namespace Parameter

/-- Whether the parameter is what is read from its token as a value of its kind.
The day counts, as a token such as `today` is another date on another day. -/
def IsReread (f : Formatting) (today : Date) (p : Parameter) : Prop :=
  Parameter.placed p.place p.name (Value.ofToken f today p.kind p.raw) p.raw = p

theorem isReread_placed (place : Place) (name : String) (kind : Kind) (token : String) :
    (Parameter.placed place name (Value.ofToken f today kind token) token).IsReread f today := by
  show Parameter.placed place name (Value.ofToken f today (Value.ofToken f today kind token).kind
    token) token = _
  rw [Value.kind_ofToken]

theorem isReread_ofSlot (kind : Kind) (token : String) :
    (ofSlot f today kind token).IsReread f today :=
  isReread_placed .required kind.parameterName kind token

theorem isReread_flag (name value : String) : (flag name value).IsReread f today :=
  isReread_placed .longFlag name .text value

theorem isReread_bare (number : Nat) (token : String) : (bare number token).IsReread f today :=
  isReread_placed .positional s!"arg{number}" .text token

/-- The token of a switch means yes. It was not typed, and is there so that a
switch can be sent like any other parameter. -/
theorem isReread_switch (place : Place) (name : String) : (switch place name).IsReread f today := by
  have hYes : meansYes "true" = true := by decide
  show Parameter.placed place name (.boolean (meansYes "true")) "true" = _
  rw [hYes]
  rfl

-- What is read of tokens that are not required depends on the first one and,
-- for a flag, on whether the next one is a flag.

section Extras

variable {count : Nat} {token next name : String} {rest : List String}

/-- Two dashes at the end of a line make a switch, as there is no token that
could be the value. -/
theorem ofExtras_last (h : Text.stripPrefix? "--" token = some name) :
    ofExtras count [token] = [switch .longFlag name] := by
  rw [ofExtras, h]

theorem ofExtras_before (h : Text.stripPrefix? "--" token = some name)
    (hNext : isLongFlag next = true) : ofExtras count (token :: next :: rest) =
      switch .longFlag name :: ofExtras (count + 1) (next :: rest) := by
  rw [ofExtras, h]
  simp only [hNext, if_true]

/-- Two dashes in front of any other token make a flag with that value. -/
theorem ofExtras_flag (h : Text.stripPrefix? "--" token = some name)
    (hNext : isLongFlag next = false) :
    ofExtras count (token :: next :: rest) = flag name next :: ofExtras (count + 1) rest := by
  rw [ofExtras, h]
  simp only [hNext, Bool.false_eq_true, if_false]

theorem ofExtras_switch (hLong : Text.stripPrefix? "--" token = none)
    (hShort : Text.stripPrefix? "-" token = some name) :
    ofExtras count (token :: rest) = switch .shortFlag name :: ofExtras (count + 1) rest := by
  rw [ofExtras, hLong, hShort]

/-- A token without a dash stands on its own, named by how many parameters there
were before it. -/
theorem ofExtras_bare (hLong : Text.stripPrefix? "--" token = none)
    (hShort : Text.stripPrefix? "-" token = none) :
    ofExtras count (token :: rest) = bare count token :: ofExtras (count + 1) rest := by
  rw [ofExtras, hLong, hShort]

end Extras

/-- What a parameter that is not required can be, with values from given tokens.
It says less than `IsExtra`, and is enough where the tokens behind do not
matter. -/
inductive Extra (tokens : List String) : Parameter → Prop
  | switch (place : Place) (name : String) (hPlace : place = .longFlag ∨ place = .shortFlag) :
      Extra tokens (switch place name)
  | flag (name value : String) (hValue : value ∈ tokens) : Extra tokens (flag name value)
  | bare (number : Nat) (token : String) (hToken : token ∈ tokens) :
      Extra tokens (bare number token)

theorem Extra.mono {tokens tokens' : List String} {p : Parameter} (h : Extra tokens p)
    (hSub : tokens ⊆ tokens') : Extra tokens' p := by
  cases h with
  | switch place name hPlace => exact .switch place name hPlace
  | flag name value hValue => exact .flag name value (hSub hValue)
  | bare number token hToken => exact .bare number token (hSub hToken)

/-- The parameters that are not required, one token or two at a time. The
induction is the reader's own, with one case for each way in which it goes
on. -/
theorem extra_of_mem_ofExtras {count : Nat} {tokens : List String} :
    ∀ p ∈ ofExtras count tokens, Extra tokens p := by
  induction count, tokens using ofExtras.induct with
  | case1 count => simp [ofExtras]
  | case2 count token name hLong =>
    rw [ofExtras_last hLong, List.forall_mem_singleton]
    exact .switch .longFlag name (Or.inl rfl)
  | case3 count token name hLong next rest hNext ih =>
    rw [ofExtras_before hLong hNext, List.forall_mem_cons]
    exact ⟨.switch .longFlag name (Or.inl rfl), fun p hp =>
      (ih p hp).mono (List.subset_cons_self _ _)⟩
  | case4 count token name hLong next rest hNext ih =>
    rw [ofExtras_flag hLong (by simpa using hNext), List.forall_mem_cons]
    refine ⟨.flag name next (by simp), fun p hp => (ih p hp).mono ?_⟩
    exact List.Subset.trans (List.subset_cons_self _ _) (List.subset_cons_self _ _)
  | case5 count token rest name hShort hLong ih =>
    rw [ofExtras_switch hLong hShort, List.forall_mem_cons]
    exact ⟨.switch .shortFlag name (Or.inr rfl), fun p hp =>
      (ih p hp).mono (List.subset_cons_self _ _)⟩
  | case6 count token rest hShort hLong ih =>
    rw [ofExtras_bare hLong hShort, List.forall_mem_cons]
    exact ⟨.bare count token List.mem_cons_self, fun p hp =>
      (ih p hp).mono (List.subset_cons_self _ _)⟩

/-- What is not required is given again by its token, on any day and with any
formatting, because it is a text or a switch. -/
theorem isReread_of_extra {tokens : List String} {p : Parameter} (h : Extra tokens p) :
    p.IsReread f today := by
  cases h with
  | switch place name _ => exact isReread_switch place name
  | flag name value _ => exact isReread_flag name value
  | bare number token _ => exact isReread_bare number token

/-- All parameters that are read from tokens are given again by theirs. -/
theorem isReread_of_ofTokens {action : Action} {tokens : List String} :
    ∀ p ∈ ofTokens f today action tokens, p.IsReread f today := by
  intro p hp
  rcases List.mem_append.mp hp with hSlot | hExtra
  · rw [← List.map_uncurry_zip_eq_zipWith] at hSlot
    obtain ⟨⟨kind, token⟩, -, rfl⟩ := List.mem_map.mp hSlot
    exact isReread_ofSlot kind token
  · exact isReread_of_extra (extra_of_mem_ofExtras p hExtra)

end Parameter

-- ---------------------------------------------------------------------------
-- Commands
-- ---------------------------------------------------------------------------

namespace Command

/-- What a line is read from: its tokens begin with a subject and an action
that it accepts, and the others make up the parameters. -/
theorem read_eq_ok {line : String} {c : Command} (h : Command.read f today line = .ok c) :
    ∃ subject action tokens, tokenize (Text.trimmed line) = subject :: action :: tokens ∧
      Subject.resolve? subject = some c.subject ∧ Action.resolve? action = some c.action ∧
      c.subject.allows c.action = true ∧ c.raw = Text.trimmed line ∧
      c.parameters = Parameter.ofTokens f today c.action tokens := by
  unfold Command.read at h
  simp only at h
  split at h
  · simp at h
  · split at h
    · next hParts =>
      obtain rfl := Except.ok.inj h
      unfold ofTokens? at hParts
      split at hParts
      -- the line has a subject and an action, and the one accepts the other
      · next subject action hHeader =>
        split at hParts
        · next hAllows =>
          obtain rfl := Option.some.inj hParts
          unfold header at hHeader
          split at hHeader
          · next first second rest hTokens =>
            obtain ⟨hSubject, hAction⟩ := Prod.mk.inj hHeader
            refine ⟨first, second, rest, hTokens, hSubject, hAction, hAllows, rfl, ?_⟩
            rw [hTokens]
            rfl
          · simp at hHeader
        · simp at hParts
      · simp at hParts
    · simp at h

/-- The parameters of a line are given again by their tokens. So a command can
be sent by its names and tokens, without its values. -/
theorem isReread_of_read {line : String} {c : Command} (h : Command.read f today line = .ok c) :
    ∀ p ∈ c.parameters, p.IsReread f today := by
  obtain ⟨-, -, tokens, -, -, -, -, -, hParameters⟩ := read_eq_ok h
  intro p hp
  rw [hParameters] at hp
  exact Parameter.isReread_of_ofTokens p hp

end Command

end HomeLedger
