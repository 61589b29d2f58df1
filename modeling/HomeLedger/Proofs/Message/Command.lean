import HomeLedger.Proofs.Message.Envelope
import HomeLedger.Proofs.Outcome
import HomeLedger.Proofs.Parameter.Reread
import HomeLedger.Proofs.Text.Digits

/-!
# HomeLedger — commands survive a message

A command is sent as fields and read from fields. Fields are looked up by
name, so that all depends on names being told apart: those of the parameters
are numbers with endings, and a number and an ending can be read off a name
(`parameterField_append_inj`). A field that is written is then the field that
is found, and the parameters that are found are as many as were written,
because the next number has no field.

What is sent of a parameter is its token. The command comes back because its
parameters are given again by their tokens, be it that they were read from a
line or from another message.

Main results:

* `field?_parameter` — the fields of each parameter are found.
* `readCommand_commandPairs` — a command is what is read from its fields.
* `decodeCommand_encodeCommand` — and from the URL that it is sent as.
-/

namespace HomeLedger

namespace Message

-- ---------------------------------------------------------------------------
-- Names of fields
-- ---------------------------------------------------------------------------

/-- What the names of all fields of parameters begin with. -/
def fieldMark : List Char := "param_".toList

/-- The name of the field of a parameter as characters: the mark, and behind it
the number of the parameter in decimal digits. -/
theorem toList_parameterField (i : Nat) :
    (parameterField i).toList = fieldMark ++ Nat.toDigits 10 i := by
  show (toString "param_" ++ toString (Nat.repr i)).toList = _
  rw [String.toList_append]
  show _ ++ (Nat.repr i).toList = _
  rw [Nat.toList_repr]
  rfl

/-- A text does not go on with a digit. What follows the number in the name of a
field has to be like that, or the number could not be told from it. -/
def NoDigit (s : String) : Prop := ∀ c ∈ s.toList.head?, c.isDigit = false

theorem noDigit_of_any {s : String} (h : s.toList.head?.any Char.isDigit = false) : NoDigit s := by
  intro c hc
  rw [Option.mem_def.mp hc] at h
  exact h

/-- The digits of a number end where none follows, so that the number is all
that a reader takes who goes on as long as there are digits. -/
theorem takeWhile_toDigits {s : String} (hs : NoDigit s) (i : Nat) :
    (Nat.toDigits 10 i ++ s.toList).takeWhile Char.isDigit = Nat.toDigits 10 i :=
  Text.takeWhile_digits (Text.allDigits_decimal i) hs

theorem toDigits_inj {i j : Nat} (h : Nat.toDigits 10 i = Nat.toDigits 10 j) : i = j := by
  have hi := Nat.ofDigitChars_ten_toDigits (n := i)
  rw [h, Nat.ofDigitChars_ten_toDigits] at hi
  exact hi.symm

/-- The number and the ending can be read off the name of a field. The names of
all fields of all parameters are therefore different, and none of them is taken
for another one. -/
theorem parameterField_append_inj {i j : Nat} {s t : String} (hs : NoDigit s) (ht : NoDigit t)
    (h : parameterField i ++ s = parameterField j ++ t) : i = j ∧ s = t := by
  have hList := congrArg String.toList h
  rw [String.toList_append, String.toList_append, toList_parameterField, toList_parameterField,
    List.append_assoc, List.append_assoc] at hList
  have hRest := List.append_cancel_left hList
  have hDigits : Nat.toDigits 10 i = Nat.toDigits 10 j := by
    rw [← takeWhile_toDigits hs i, hRest, takeWhile_toDigits ht j]
  rw [hDigits] at hRest
  exact ⟨toDigits_inj hDigits, String.toList_injective (List.append_cancel_left hRest)⟩

/-- The name of a field of a parameter begins with a letter that no other field
of a command begins with. -/
theorem head?_parameterField_append (i : Nat) (s : String) :
    (parameterField i ++ s).toList.head? = some 'p' := by
  rw [String.toList_append, toList_parameterField]
  rfl

/-- What the fields of a parameter hold, by the endings of their names. Its
token has the name without an ending. -/
def endings (p : Parameter) : List (String × String) :=
  [("", p.raw), ("_type", p.kind.name), ("_name", p.name), ("_source", p.place.name)]

/-- The fields of a parameter by their endings, which is the form in which the
names can be told apart. -/
theorem parameterPairs_eq (i : Nat) (p : Parameter) :
    parameterPairs i p = (endings p).map fun field => (parameterField i ++ field.1, field.2) := by
  simp [parameterPairs, endings]

/-- No ending begins with a digit, the empty one included, so that all of them
can be read off. -/
theorem noDigit_of_mem_endings {p : Parameter} {ending value : String}
    (h : (ending, value) ∈ endings p) : NoDigit ending := by
  simp only [endings, List.mem_cons, Prod.mk.injEq, List.not_mem_nil, or_false] at h
  rcases h with ⟨rfl, -⟩ | ⟨rfl, -⟩ | ⟨rfl, -⟩ | ⟨rfl, -⟩ <;>
    exact noDigit_of_any (by decide)

/-- There is nothing in the empty ending that a number could go on with. -/
theorem noDigit_empty : NoDigit "" := noDigit_of_any rfl

/-- An ending says one thing, since no two of the four are alike. -/
theorem eq_of_mem_endings {p : Parameter} {ending value value' : String}
    (h : (ending, value) ∈ endings p) (h' : (ending, value') ∈ endings p) : value' = value := by
  simp only [endings, List.mem_cons, Prod.mk.injEq, List.not_mem_nil, or_false] at h h'
  rcases h with ⟨rfl, rfl⟩ | ⟨rfl, rfl⟩ | ⟨rfl, rfl⟩ | ⟨rfl, rfl⟩ <;> simpa using h'

-- ---------------------------------------------------------------------------
-- The fields of a command
-- ---------------------------------------------------------------------------

end Message

namespace Channel

open Message

variable {c : Command}

/-- The fields of a command that are not those of a parameter. They are the same
three in every command. -/
def headPairs (c : Command) : List (String × String) :=
  [("type", c.subject.name), ("action", c.action.name), ("raw", c.raw)]

/-- A field of a command is one of the three that each command has, or it
belongs to a parameter that stands at the number in its name. -/
theorem mem_commandPairs {name value : String} :
    (name, value) ∈ commandPairs c ↔ (name, value) ∈ headPairs c ∨
      ∃ i p ending, c.parameters[i]? = some p ∧ (ending, value) ∈ endings p ∧
        name = parameterField i ++ ending := by
  rw [commandPairs, List.mem_append]
  refine or_congr Iff.rfl ?_
  constructor
  · intro h
    obtain ⟨⟨p, i⟩, hp, hPair⟩ := List.mem_flatMap.mp h
    replace hPair : (name, value) ∈ parameterPairs i p := hPair
    rw [parameterPairs_eq] at hPair
    obtain ⟨⟨ending, value'⟩, hEnding, hField⟩ := List.mem_map.mp hPair
    obtain ⟨rfl, rfl⟩ := Prod.mk.inj hField
    exact ⟨i, p, ending, List.mem_zipIdx_iff_getElem?.mp hp, hEnding, rfl⟩
  · rintro ⟨i, p, ending, hp, hEnding, rfl⟩
    refine List.mem_flatMap.mpr ⟨(p, i), List.mem_zipIdx_iff_getElem?.mpr hp, ?_⟩
    show (parameterField i ++ ending, value) ∈ parameterPairs i p
    rw [parameterPairs_eq]
    exact List.mem_map.mpr ⟨(ending, value), hEnding, rfl⟩

/-- No field that is not of a parameter has the name of one. -/
theorem notMem_headPairs (i : Nat) (ending value : String) :
    (parameterField i ++ ending, value) ∉ headPairs c := by
  intro h
  have hHead := head?_parameterField_append i ending
  simp only [headPairs, List.mem_cons, Prod.mk.injEq, List.not_mem_nil, or_false] at h
  rcases h with ⟨hName, -⟩ | ⟨hName, -⟩ | ⟨hName, -⟩ <;> rw [hName] at hHead <;>
    exact absurd hHead (by decide)

/-- The fields that are not of a parameter are found, whatever the parameters
hold. None of theirs has such a name. -/
theorem field?_head {name value : String} (h : (name, value) ∈ headPairs c) :
    field? (commandPairs c) name = some value := by
  refine field?_eq_some (mem_commandPairs.mpr (Or.inl h)) ?_
  intro value' h'
  rcases mem_commandPairs.mp h' with hHead | ⟨i, p, ending, -, -, rfl⟩
  · simp only [headPairs, List.mem_cons, Prod.mk.injEq, List.not_mem_nil, or_false] at h hHead
    rcases h with ⟨rfl, rfl⟩ | ⟨rfl, rfl⟩ | ⟨rfl, rfl⟩ <;> simpa using hHead
  · exact absurd h (notMem_headPairs i ending value)

/-- The fields of each parameter are found. One that had the same name would
have the same number and the same ending, so it would say the same. -/
theorem field?_parameter {i : Nat} {p : Parameter} (hp : c.parameters[i]? = some p)
    {ending value : String} (h : (ending, value) ∈ endings p) :
    field? (commandPairs c) (parameterField i ++ ending) = some value := by
  refine field?_eq_some (mem_commandPairs.mpr (Or.inr ⟨i, p, ending, hp, h, rfl⟩)) ?_
  intro value' h'
  rcases mem_commandPairs.mp h' with hHead | ⟨j, q, ending', hq, hEnding', hName⟩
  · exact absurd hHead (notMem_headPairs i ending value')
  · obtain ⟨rfl, rfl⟩ := parameterField_append_inj (noDigit_of_mem_endings h)
      (noDigit_of_mem_endings hEnding') hName
    obtain rfl := Option.some.inj (hp.symm.trans hq)
    exact eq_of_mem_endings h hEnding'

/-- There is no field behind those of the last parameter, which is how a reader
knows that this was the last one. -/
theorem field?_behind {i : Nat} (hi : c.parameters.length ≤ i) :
    field? (commandPairs c) (parameterField i) = none := by
  refine field?_eq_none ?_
  intro value hMem
  rw [← String.append_empty (s := parameterField i)] at hMem
  rcases mem_commandPairs.mp hMem with hHead | ⟨j, q, ending, hq, hEnding, hName⟩
  · exact notMem_headPairs i "" value hHead
  · obtain ⟨rfl, -⟩ :=
      parameterField_append_inj noDigit_empty (noDigit_of_mem_endings hEnding) hName
    rw [List.getElem?_eq_none hi] at hq
    simp at hq

-- ---------------------------------------------------------------------------
-- Reading the fields
-- ---------------------------------------------------------------------------

/-- The numbers up to the first one that fails. It does not matter how many are
looked at, as long as the first that fails is among them. -/
theorem takeWhile_range {m n : Nat} {test : Nat → Bool} (hn : n ≤ m)
    (hTrue : ∀ i < n, test i = true)
    (hFalse : test n = false) : (List.range m).takeWhile test = List.range n := by
  obtain ⟨k, rfl⟩ := Nat.exists_eq_add_of_le hn
  rw [List.range_add, List.takeWhile_append_of_pos fun i hi => hTrue i (List.mem_range.mp hi)]
  cases k with
  | zero => simp
  | succ k => simp [List.range_succ_eq_map, hFalse]

theorem length_commandPairs :
    (commandPairs c).length = 3 + 4 * c.parameters.length := by
  have hFour : (c.parameters.zipIdx.map fun _ => 4).sum = 4 * c.parameters.length := by
    rw [List.map_const', List.length_zipIdx, List.sum_replicate_nat, Nat.mul_comm]
  simp only [commandPairs, parameterPairs, List.length_append, List.length_flatMap,
    List.length_cons, List.length_nil]
  rw [hFour]

/-- The parameters are as many as were written. A reader looks at as many
numbers as there are fields, which is more than enough. -/
theorem parameterNumbers_commandPairs :
    parameterNumbers (commandPairs c) = List.range c.parameters.length := by
  refine takeWhile_range ?_ ?_ ?_
  · rw [length_commandPairs]
    omega
  · intro i hi
    have hRaw : ("", c.parameters[i].raw) ∈ endings c.parameters[i] := List.mem_cons_self
    have hField := field?_parameter (List.getElem?_eq_getElem hi) hRaw
    rw [String.append_empty] at hField
    rw [hField]
    rfl
  · rw [field?_behind le_rfl]
    rfl

/-- Each of the parameters is read again. Its value is not sent, and so it is
needed that it is the one that its token gives. -/
theorem readParameter_commandPairs {f : Formatting} {today : Date} {i : Nat} {p : Parameter}
    (hp : c.parameters[i]? = some p) (hReread : p.IsReread f today) :
    readParameter f today (commandPairs c) i = .ok p := by
  have hRaw : field? (commandPairs c) (parameterField i) = some p.raw := by
    rw [← String.append_empty (s := parameterField i)]
    exact field?_parameter hp (by simp [endings])
  have hKind : field? (commandPairs c) (parameterField i ++ "_type") = some p.kind.name :=
    field?_parameter hp (by simp [endings])
  have hName : field? (commandPairs c) (parameterField i ++ "_name") = some p.name :=
    field?_parameter hp (by simp [endings])
  have hPlace : field? (commandPairs c) (parameterField i ++ "_source") = some p.place.name :=
    field?_parameter hp (by simp [endings])
  unfold readParameter
  simp only [field, hRaw, hKind, hName, hPlace, known, Kind.ofName?_name, Place.ofName?_name, bind,
    Except.bind, pure, Except.pure]
  exact congrArg Except.ok hReread

/-- A command is what is read from its fields. Subject, action and raw text
stand in front, and each parameter is found by its number among the fields. -/
theorem readCommand_commandPairs {f : Formatting} {today : Date}
    (hReread : ∀ p ∈ c.parameters, p.IsReread f today) :
    readCommand f today (commandPairs c) = .ok c := by
  have hSubject : field? (commandPairs c) "type" = some c.subject.name :=
    field?_head (by simp [headPairs])
  have hAction : field? (commandPairs c) "action" = some c.action.name :=
    field?_head (by simp [headPairs])
  have hRaw : field? (commandPairs c) "raw" = some c.raw := field?_head (by simp [headPairs])
  have hParameters : (List.range c.parameters.length).mapM
      (readParameter f today (commandPairs c)) = .ok c.parameters := by
    rw [mapM_eq_ok, List.forall₂_iff_get]
    refine ⟨List.length_range, ?_⟩
    intro i hRange hi
    have hp : c.parameters[i]? = some (c.parameters.get ⟨i, hi⟩) := List.getElem?_eq_getElem hi
    rw [List.get_eq_getElem, List.getElem_range]
    exact readParameter_commandPairs hp (hReread _ (List.mem_of_getElem? hp))
  unfold readCommand
  simp only [field, hSubject, hAction, hRaw, known, Subject.resolve?_name, Action.resolve?_name,
    parameterNumbers_commandPairs, hParameters, bind, Except.bind, pure, Except.pure]

-- ---------------------------------------------------------------------------
-- Commands that were read
-- ---------------------------------------------------------------------------

/-- What is read of a parameter is given again by its token. With a name and a
place the value was made from the token, and without them it is the token itself
as a text. -/
theorem isReread_of_readParameter {f : Formatting} {today : Date}
    {pairs : List (String × String)} {i : Nat} {p : Parameter}
    (h : readParameter f today pairs i = .ok p) : p.IsReread f today := by
  unfold readParameter at h
  simp only at h
  obtain ⟨raw, -, h⟩ := bind_eq_ok.mp h
  split at h
  · simp at h
  · next word _ =>
    obtain ⟨kind, -, h⟩ := bind_eq_ok.mp h
    split at h
    · next given word _ _ =>
      obtain ⟨place, -, h⟩ := bind_eq_ok.mp h
      obtain rfl := Except.ok.inj h
      exact Parameter.isReread_placed place given kind raw
    · obtain rfl := Except.ok.inj h
      exact Parameter.isReread_placed .required (parameterField i) .text raw

/-- The parameters of a command that is read are read one by one. -/
theorem parameters_of_readCommand {f : Formatting} {today : Date} {pairs : List (String × String)}
    (h : readCommand f today pairs = .ok c) :
    (parameterNumbers pairs).mapM (readParameter f today pairs) = .ok c.parameters := by
  rw [readCommand, bind_eq_ok] at h
  obtain ⟨subjectWord, -, h⟩ := h
  obtain ⟨actionWord, -, h⟩ := bind_eq_ok.mp h
  obtain ⟨raw, -, h⟩ := bind_eq_ok.mp h
  obtain ⟨subject, -, h⟩ := bind_eq_ok.mp h
  obtain ⟨action, -, h⟩ := bind_eq_ok.mp h
  obtain ⟨parameters, hParameters, h⟩ := bind_eq_ok.mp h
  obtain rfl := Except.ok.inj h
  exact hParameters

/-- The parameters of a command that was received are given again by their
tokens, so that it can be sent on like one that was read from a line. -/
theorem isReread_of_decodeCommand {ch : Channel} {today : Date} {url : Url}
    (h : ch.decodeCommand today url = .ok c) :
    ∀ p ∈ c.parameters, p.IsReread ch.formatting today := by
  rw [decodeCommand, bind_eq_ok] at h
  obtain ⟨-, -, h⟩ := h
  intro p hp
  obtain ⟨i, -, hi⟩ := exists_of_mapM_eq_ok (parameters_of_readCommand h) hp
  exact isReread_of_readParameter hi

-- ---------------------------------------------------------------------------
-- Messages
-- ---------------------------------------------------------------------------

/-- A command whose parameters are given again by their tokens is sent as a URL,
and is what is received. The fields go through the query unchanged, so all that
is left is to read the command from them. -/
theorem exists_message {scheme : String} (hScheme : Url.isScheme scheme = true) {f : Formatting}
    {today : Date} (hReread : ∀ p ∈ c.parameters, p.IsReread f today) :
    ∃ url, (ofScheme scheme f).encodeCommand c = .ok url ∧
      (ofScheme scheme f).decodeCommand today url = .ok c := by
  obtain ⟨url, hBlank, hFrom, hQuery⟩ := exists_blank hScheme isHostWord_commandHost f
  refine ⟨url.addPairs (commandPairs c), ?_, ?_⟩
  · rw [encodeCommand, bind_eq_ok]
    exact ⟨url, hBlank, rfl⟩
  · rw [decodeCommand, bind_eq_ok]
    refine ⟨(), (hFrom.addPairs (commandPairs c)).expect_eq_ok, ?_⟩
    rw [Url.pairs_addPairs hQuery]
    exact readCommand_commandPairs hReread

/-- Whatever command is read from a line or from a message, it is sent as a
URL that gives the same command again, on the same day and with the same
formatting. -/
theorem decodeCommand_encodeCommand (scheme : String) (hScheme : Url.isScheme scheme = true)
    {f : Formatting} {today : Date}
    (hc : (∃ line, Command.read f today line = .ok c) ∨
      ∃ url, (ofScheme scheme f).decodeCommand today url = .ok c) :
    ∃ url, (ofScheme scheme f).encodeCommand c = .ok url ∧
      (ofScheme scheme f).decodeCommand today url = .ok c := by
  refine exists_message hScheme ?_
  rcases hc with ⟨line, hRead⟩ | ⟨url, hDecode⟩
  · exact Command.isReread_of_read hRead
  · have hReread := isReread_of_decodeCommand hDecode
    exact hReread

/-- A line with signs that mean something in a URL, and one that is not ASCII. -/
def giftLine : String := "account credit 7.50 --note \"für a+b & c\" -x"

/-- The day that the line is read on, and the message too. -/
def giftDay : Date := ⟨2026, 1, 4, by decide⟩

/-- The line is sent, and the command that is received is the one that was read
from it: the letter with dots, the signs and the switch included. -/
theorem gift_survives_message :
    Url.isScheme "famzoo" = true ∧ ∃ c url, Command.read {} giftDay giftLine = .ok c ∧
      (ofScheme "famzoo" {}).encodeCommand c = .ok url ∧
      (ofScheme "famzoo" {}).decodeCommand giftDay url = .ok c := by
  refine ⟨by decide, ?_⟩
  have hOk : (Command.read {} giftDay giftLine).isOk = true := by decide +kernel
  obtain ⟨c, hc⟩ := exists_of_isOk hOk
  obtain ⟨url, hEncode, hDecode⟩ :=
    decodeCommand_encodeCommand "famzoo" (by decide) (Or.inl ⟨_, hc⟩)
  exact ⟨c, url, hc, hEncode, hDecode⟩

end Channel

end HomeLedger
