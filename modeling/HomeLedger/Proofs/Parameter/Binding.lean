import HomeLedger.Proofs.Command.Format

/-!
# HomeLedger — every token is bound once

The tokens behind an action are bound to parameters from the left: one token
to each slot, and behind the slots one or two at a time, as a look at the
next token decides. No token may be lost on the way, and none be read twice.

What a token is bound to depends on the tokens behind it only, so each
parameter behind the slots is described by its number there and by the tokens
of the parameters that follow it (`Parameter.IsExtra`). All that is said of
such parameters is read off that description.

Main results:

* `isExtra_of_getElem?_ofExtras` — the description holds at every place.
* `flatMap_tokens_ofTokens` — the parameters have the tokens that were bound.
* `ofTokens_binds` — the parameters bind the tokens.
-/

namespace HomeLedger

namespace Parameter

-- ---------------------------------------------------------------------------
-- Behind the slots
-- ---------------------------------------------------------------------------

/-- What a parameter behind the slots can be, by its number there and the
tokens of those that follow it. A token on its own and the name in a short
switch begin with no dash, the value of a flag begins no flag, and what
follows a long switch does, or it would be the value. -/
inductive IsExtra (number : Nat) (behind : List String) : Parameter → Prop
  | bare (token : String) (hToken : ¬"-".toList <+: token.toList) :
      IsExtra number behind (bare number token)
  | shortSwitch (name : String) (hName : ¬"-".toList <+: name.toList) :
      IsExtra number behind (switch .shortFlag name)
  | flag (name value : String) (hValue : ¬"--".toList <+: value.toList) :
      IsExtra number behind (flag name value)
  | longSwitch (name : String) (hNext : ∀ next ∈ behind.head?, "--".toList <+: next.toList) :
      IsExtra number behind (switch .longFlag name)

/-- A token is taken for a long switch or a flag just if two dashes begin it. -/
theorem isLongFlag_iff {token : String} : isLongFlag token = true ↔ "--".toList <+: token.toList :=
  List.isPrefixOf_iff_prefix

/-- A name behind one dash begins with none, or there would be two, and the
token would have been taken for a flag. -/
theorem not_dash_of_short {token name : String} (hLong : Text.stripPrefix? "--" token = none)
    (hShort : Text.stripPrefix? "-" token = some name) : ¬"-".toList <+: name.toList := by
  rintro ⟨rest, hRest⟩
  refine Text.stripPrefix?_eq_none_iff.mp hLong ⟨rest, ?_⟩
  rw [← Text.stripPrefix?_eq_some_iff.mp hShort, String.toList_append, ← hRest]
  rfl

/-- One more parameter in front moves the others by one place. It is described
by the tokens of all the others, and these are described as before. -/
theorem isExtra_of_getElem?_cons {count : Nat} {p : Parameter} {ps : List Parameter}
    (hp : IsExtra count (ps.flatMap tokens) p)
    (hps : ∀ i q, ps[i]? = some q → IsExtra (count + 1 + i) ((ps.drop (i + 1)).flatMap tokens) q)
    (i : Nat) (q : Parameter) (hq : (p :: ps)[i]? = some q) :
    IsExtra (count + i) (((p :: ps).drop (i + 1)).flatMap tokens) q := by
  cases i with
  | zero =>
    obtain rfl := Option.some.inj hq
    exact hp
  | succ i =>
    rw [List.getElem?_cons_succ] at hq
    rw [← Nat.add_assoc, Nat.add_right_comm, List.drop_succ_cons]
    exact hps i q hq

/-- What each of the parameters behind the slots is. The induction follows the
reader, which takes one token or two at a time and counts what it has made. -/
theorem isExtra_of_getElem?_ofExtras (count : Nat) (tokens : List String) :
    ∀ i p, (ofExtras count tokens)[i]? = some p →
      IsExtra (count + i) (((ofExtras count tokens).drop (i + 1)).flatMap Parameter.tokens) p := by
  -- the cases are those of the reader; a long switch is one because of the token that comes next
  induction count, tokens using ofExtras.induct with
  | case1 count => simp [ofExtras]
  | case2 count token name hLong =>
    rw [ofExtras_last hLong]
    exact isExtra_of_getElem?_cons (.longSwitch name (by simp)) (by simp)
  | case3 count token name hLong next rest hNext ih =>
    rw [ofExtras_before hLong hNext]
    refine isExtra_of_getElem?_cons (.longSwitch name ?_) ih
    rw [flatMap_tokens_ofExtras, List.head?_cons]
    rintro _ ⟨⟩
    exact isLongFlag_iff.mp hNext
  | case4 count token name hLong next rest hNext ih =>
    rw [ofExtras_flag hLong (by simpa using hNext)]
    exact isExtra_of_getElem?_cons (.flag name next (mt isLongFlag_iff.mpr hNext)) ih
  | case5 count token rest name hShort hLong ih =>
    rw [ofExtras_switch hLong hShort]
    exact isExtra_of_getElem?_cons (.shortSwitch name (not_dash_of_short hLong hShort)) ih
  | case6 count token rest hShort hLong ih =>
    rw [ofExtras_bare hLong hShort]
    exact isExtra_of_getElem?_cons (.bare token (Text.stripPrefix?_eq_none_iff.mp hShort)) ih

-- ---------------------------------------------------------------------------
-- In the slots
-- ---------------------------------------------------------------------------

section Slots

variable (f : Formatting) (today : Date)

/-- Each slot takes one token, whatever that looks like. A token with a dash
that comes early enough fills a slot and is no flag. -/
theorem flatMap_tokens_slots (kinds : List Kind) (tokens : List String) :
    (List.zipWith (ofSlot f today) kinds tokens).flatMap Parameter.tokens =
      tokens.take kinds.length := by
  induction kinds generalizing tokens with
  | nil => rfl
  | cons kind kinds ih =>
    cases tokens with
    | nil => rfl
    | cons token tokens =>
      rw [List.zipWith_cons_cons, List.flatMap_cons, ih, List.length_cons, List.take_succ_cons]
      rfl

/-- What is in the slots is of their kinds, as far as there are tokens. Missing
tokens leave slots empty, and which ones is for `Command` to complain about. -/
theorem map_kind_slots (kinds : List Kind) (tokens : List String) :
    (List.zipWith (ofSlot f today) kinds tokens).map (·.kind) = kinds.take tokens.length := by
  induction kinds generalizing tokens with
  | nil => simp
  | cons kind kinds ih =>
    cases tokens with
    | nil => rfl
    | cons token tokens =>
      rw [List.zipWith_cons_cons, List.map_cons, ih, List.length_cons, List.take_succ_cons,
        kind_ofSlot]

/-- What fills a slot tells that it is required, whatever was made of its
token. -/
theorem place_of_mem_slots (kinds : List Kind) (tokens : List String) :
    ∀ p ∈ List.zipWith (ofSlot f today) kinds tokens,
      p.place = .required ∧ p.isRequired = true := by
  intro p hp
  rw [← List.map_uncurry_zip_eq_zipWith] at hp
  obtain ⟨⟨kind, token⟩, -, rfl⟩ := List.mem_map.mp hp
  exact ⟨rfl, rfl⟩

/-- The parameters have the tokens that they were read from. None is lost or
read twice, since the slots take the first ones and each step behind them goes
on where the one before it has stopped. -/
theorem flatMap_tokens_ofTokens (action : Action) (tokens : List String) :
    (ofTokens f today action tokens).flatMap Parameter.tokens = tokens := by
  rw [ofTokens, List.flatMap_append, flatMap_tokens_slots, flatMap_tokens_ofExtras,
    List.take_append_drop]

end Slots

-- ---------------------------------------------------------------------------
-- All of them
-- ---------------------------------------------------------------------------

/-- How many slots of an action there are tokens for. This many parameters are
required, and all others stand behind them. -/
def slotCount (action : Action) (tokens : List String) : Nat :=
  min action.required.length tokens.length

/-- Whether parameters bind the tokens behind an action, each token once and
all of them in order: those in slots come first and have the kinds of the
slots, a token on its own is named by the number of parameters behind the
slots that come before it, and no token is taken for what another reading
has precedence over. -/
structure Binds (action : Action) (tokens : List String) (ps : List Parameter) : Prop where
  written : ps.flatMap Parameter.tokens = tokens
  required : ∀ p ∈ ps.take (slotCount action tokens), p.place = .required ∧ p.isRequired = true
  kinds : (ps.take (slotCount action tokens)).map (·.kind) =
    action.required.take (slotCount action tokens)
  extra : ∀ p ∈ ps.drop (slotCount action tokens), p.place ≠ .required ∧ p.isRequired = false
  numbered : ∀ i p, ps[i]? = some p → p.place = .positional →
    p.name = "arg" ++ toString ((ps.take i).countP (·.place ≠ .required))
  bare : ∀ p ∈ ps, p.place = .positional → ¬"-".toList <+: p.raw.toList
  value : ∀ p ∈ ps, p.place = .longFlag → p.value ≠ .boolean true → ¬"--".toList <+: p.raw.toList
  switch : ∀ i p, ps[i]? = some p → p.place = .longFlag → p.value = .boolean true →
    ∀ next ∈ ((ps.drop (i + 1)).flatMap Parameter.tokens).head?, "--".toList <+: next.toList

theorem IsExtra.place_ne {number : Nat} {behind : List String} {p : Parameter}
    (h : IsExtra number behind p) : p.place ≠ .required ∧ p.isRequired = false := by
  cases h <;> exact ⟨Place.noConfusion, rfl⟩

section Append

variable {slots extras : List Parameter} (hSlots : ∀ p ∈ slots, p.place = .required)
  (hExtras : ∀ i p, extras[i]? = some p →
    IsExtra i ((extras.drop (i + 1)).flatMap Parameter.tokens) p)

include hExtras in
theorem place_ne_of_mem_extras {p : Parameter} (hp : p ∈ extras) :
    p.place ≠ .required ∧ p.isRequired = false := by
  obtain ⟨i, hi⟩ := List.getElem?_of_mem hp
  exact (hExtras i p hi).place_ne

include hSlots hExtras in
/-- A parameter that fills no slot is one of those behind the slots, and has its
number there. The place that it tells is enough to know where it stands. -/
theorem isExtra_of_getElem?_append {i : Nat} {p : Parameter}
    (hp : (slots ++ extras)[i]? = some p) (hPlace : p.place ≠ .required) :
    slots.length ≤ i ∧ IsExtra (i - slots.length)
      (((slots ++ extras).drop (i + 1)).flatMap Parameter.tokens) p := by
  have hle : slots.length ≤ i := by
    by_contra hlt
    rw [List.getElem?_append_left (by omega)] at hp
    exact hPlace (hSlots p (List.mem_of_getElem? hp))
  rw [List.getElem?_append_right hle] at hp
  rw [List.drop_append, List.drop_eq_nil_of_le (by omega), List.nil_append, Nat.sub_add_comm hle]
  exact ⟨hle, hExtras _ p hp⟩

include hSlots hExtras in
/-- A parameter that fills no slot is described by some number and some tokens
behind it, which is enough where neither is asked for. -/
theorem isExtra_of_mem_append {p : Parameter} (hp : p ∈ slots ++ extras)
    (hPlace : p.place ≠ .required) : ∃ number behind, IsExtra number behind p := by
  obtain ⟨i, hi⟩ := List.getElem?_of_mem hp
  exact ⟨_, _, (isExtra_of_getElem?_append hSlots hExtras hi hPlace).2⟩

include hSlots hExtras in
/-- The number of a parameter behind the slots counts those behind the slots
that come before it. Flags and switches count as well as tokens on their own. -/
theorem countP_take_append {i : Nat} (hle : slots.length ≤ i)
    (hlt : i < (slots ++ extras).length) :
    ((slots ++ extras).take i).countP (·.place ≠ .required) = i - slots.length := by
  have hNone : slots.countP (·.place ≠ .required) = 0 :=
    List.countP_eq_zero.mpr fun p hp => by simpa using hSlots p hp
  have hAll : (extras.take (i - slots.length)).countP (·.place ≠ .required) =
      (extras.take (i - slots.length)).length :=
    List.countP_eq_length.mpr fun p hp => by
      simpa using (place_ne_of_mem_extras hExtras (List.mem_of_mem_take hp)).1
  rw [List.length_append] at hlt
  rw [List.take_append, List.take_of_length_le hle, List.countP_append, hNone, hAll,
    List.length_take]
  omega

include hSlots hExtras in
/-- A token on its own is named by its number, so two of them never share a
name. -/
theorem name_of_getElem?_append {i : Nat} {p : Parameter} (hp : (slots ++ extras)[i]? = some p)
    (hPlace : p.place = .positional) :
    p.name = "arg" ++ toString (((slots ++ extras).take i).countP (·.place ≠ .required)) := by
  obtain ⟨hlt, -⟩ := List.getElem?_eq_some_iff.mp hp
  obtain ⟨hle, hp⟩ := isExtra_of_getElem?_append hSlots hExtras hp (by simp [hPlace])
  rw [countP_take_append hSlots hExtras hle hlt]
  cases hp with
  | bare token hToken => rfl
  | _ => cases hPlace

/-- What fills the slots and what stands behind them binds the tokens, if
together it has them all. Each part of the claim is about one of the two lists,
so it is settled there, and this puts the two together. -/
theorem binds_append {action : Action} {tokens : List String}
    (hWritten : (slots ++ extras).flatMap Parameter.tokens = tokens)
    (hLength : slots.length = slotCount action tokens)
    (hKinds : slots.map (·.kind) = action.required.take tokens.length)
    (hSlots : ∀ p ∈ slots, p.place = .required ∧ p.isRequired = true)
    (hExtras : ∀ i p, extras[i]? = some p →
      IsExtra i ((extras.drop (i + 1)).flatMap Parameter.tokens) p) :
    Binds action tokens (slots ++ extras) := by
  have hPlaces : ∀ p ∈ slots, p.place = .required := fun p hp => (hSlots p hp).1
  refine { written := hWritten, required := ?_, kinds := ?_, extra := ?_, numbered := ?_,
           bare := ?_, value := ?_, switch := ?_ }
  · rwa [← hLength, List.take_left]
  · rw [← hLength, List.take_left, hKinds, hLength, List.take_eq_take_iff, slotCount]
    omega
  · rw [← hLength, List.drop_left]
    exact fun p hp => place_ne_of_mem_extras hExtras hp
  · exact fun i p hp hPlace => name_of_getElem?_append hPlaces hExtras hp hPlace
  -- what stands behind the slots is told by its place, and the description says the rest
  · intro p hp hPlace
    obtain ⟨number, behind, hp⟩ := isExtra_of_mem_append hPlaces hExtras hp (by simp [hPlace])
    cases hp with
    | bare token hToken => exact hToken
    | _ => cases hPlace
  · intro p hp hPlace hGiven
    obtain ⟨number, behind, hp⟩ := isExtra_of_mem_append hPlaces hExtras hp (by simp [hPlace])
    cases hp with
    | flag name value hValue => exact hValue
    | longSwitch name hNext => exact absurd rfl hGiven
    | _ => cases hPlace
  · intro i p hp hPlace hSwitch
    obtain ⟨-, hp⟩ := isExtra_of_getElem?_append hPlaces hExtras hp (by simp [hPlace])
    cases hp with
    | longSwitch name hNext => exact hNext
    | flag name value hValue => cases hSwitch
    | _ => cases hPlace

end Append

/-- The parameters of any tokens bind them. The slots take as many tokens as
there are, and the others are read behind them. -/
theorem ofTokens_binds (f : Formatting) (today : Date) (action : Action) (tokens : List String) :
    Binds action tokens (ofTokens f today action tokens) := by
  have hExtras := isExtra_of_getElem?_ofExtras 0 (tokens.drop action.required.length)
  simp only [Nat.zero_add] at hExtras
  exact binds_append (flatMap_tokens_ofTokens f today action tokens) List.length_zipWith
    (map_kind_slots f today action.required tokens)
    (place_of_mem_slots f today action.required tokens) hExtras

end Parameter

end HomeLedger
