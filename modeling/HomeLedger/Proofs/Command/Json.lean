import HomeLedger.Command.Json
import HomeLedger.Proofs.Json.Decode

/-!
# HomeLedger — a command is read from its machine form

The machine form of a command keeps everything that the command is made of:
the kind of a value stands beside what it holds, an amount and a date are
strings, and a token that could not be read is a record of its own. So a
command is read from its text as what it was, with two exceptions. A number
is written as a number of JSON, which is another matter, and is left out
here. A zero amount loses its sign, because digits that make up zero are read
without one (`Value.withoutZeroSign`).

The value of a parameter is decoded in two steps. Its tag says under which
kind the content is decoded (`Value.contentKind`), and the content is decoded
under that kind.

Main results:

* `Value.decodes_toJson` — a value is decoded from its tag and its content.
* `Command.withoutZeroSigns_eq_self_iff` — which commands come back as they
  are.
* `Command.ofJson?_compact` — a command is read from its text.
-/

namespace HomeLedger

open Json

-- ---------------------------------------------------------------------------
-- Values
-- ---------------------------------------------------------------------------

namespace Value

/-- Whether a value is a number, which JSON has a form of its own for. -/
def isNumber : Value → Bool
  | number _ => true
  | _ => false

/-- The value that is read for a value: a zero has lost its sign. -/
def withoutZeroSign : Value → Value
  | amount d => amount d.withoutZeroSign
  | v => v

/-- Only a zero amount with a sign loses anything, so the value is the same just
where there is no such zero. -/
theorem withoutZeroSign_eq_self_iff (v : Value) :
    v.withoutZeroSign = v ↔ ∀ d, v = amount d → d.mantissa = 0 → d.negative = false := by
  cases v with
  | amount d =>
    have hZero := d.withoutZeroSign_eq_self_iff
    constructor
    · rintro h d' ⟨⟩
      exact hZero.mp (amount.inj h)
    · intro h
      exact congrArg amount (hZero.mpr (h d rfl))
  | text | date | member | account | boolean | number | unread =>
    refine ⟨fun _ d hd => ?_, fun _ => rfl⟩
    cases hd

/-- The kind under which the content of a value is decoded; a token that could
not be read has a form of its own. -/
def contentKind : Value → Option Kind
  | unread _ _ => none
  | v => some v.kind

/-- The tag of a value is found in the table of tags, where it stands for the
kind of its content. It is by this table that the two steps of decoding fit
together. -/
theorem lookup?_tag (v : Value) : lookup? v.tag tags = some v.contentKind := by
  cases v <;> rfl

/-- The name of a kind is found in its table, because no two kinds share one. -/
theorem lookup?_kind (kind : Kind) :
    lookup? kind.name (Node.tagged Kind.name Kind.all) = some kind := by
  cases kind <;> decide

/-- A token that could not be read is decoded with the kind that it should have
been. The two are members of one object. -/
theorem decodes_unread (kind : Kind) (token : String) :
    Decodes (ofContent? Kind.ofNode? none)
      (.object [("kind", .string kind.name), ("raw", .string token)]) (unread kind token) := by
  obtain ⟨kindNode, hKind, hKindConstant⟩ := decodes_constant (lookup?_kind kind)
  obtain ⟨rawNode, hRaw, hRawText⟩ := decodes_text token
  have hRecord := record?_object
    (show [("kind", kindNode), ("raw", rawNode)].map (·.1) = ["kind", "raw"] from rfl) (by simp)
  refine decodes_object (.cons (readsMember hKind) <| .cons (readsMember hRaw) .nil) ?_
  rw [ofContent?, hRecord]
  simp [Node.need, lookup?, Kind.ofNode?, hKindConstant, hRawText]

/-- What a value holds is decoded under its kind. This is where a number is left
out, and where a zero loses its sign. -/
theorem decodes_content (v : Value) (hNumber : v.isNumber = false) :
    Decodes (ofContent? Kind.ofNode? v.contentKind) v.content v.withoutZeroSign := by
  cases v with
  | amount d =>
    obtain ⟨n, hReads, hDecimal⟩ := decodes_decimal d
    exact ⟨n, hReads, congrArg (Option.map amount) hDecimal⟩
  | text s => exact decodes_of_string rfl
  | member s => exact decodes_of_string rfl
  | account s => exact decodes_of_string rfl
  | date d => exact decodes_of_string (congrArg (Option.map date) (date?_isoText d))
  | boolean b => exact ⟨_, reads_bool b, rfl⟩
  | number x => exact absurd hNumber (by simp [isNumber])
  | unread kind token => exact decodes_unread kind token

/-- A value is decoded from its tag and its content. -/
theorem decodes_toJson (v : Value) (hNumber : v.isNumber = false) :
    Decodes ofNode? v.toJson v.withoutZeroSign := by
  obtain ⟨content, hContent, hContentOk⟩ := v.decodes_content hNumber
  have hTag : Node.constant? tags (.string (some v.tag)) = some v.contentKind := v.lookup?_tag
  have hRecord := record?_object (show [("type", .string (some v.tag)), ("value", content)].map
    (·.1) = ["type", "value"] from rfl) (by simp)
  refine decodes_object (.cons (readsMember (reads_string v.tag)) <|
    .cons (readsMember hContent) .nil) ?_
  rw [ofNode?, hRecord]
  simp [Node.need, lookup?, hTag, hContentOk]

end Value

-- ---------------------------------------------------------------------------
-- Parameters
-- ---------------------------------------------------------------------------

namespace Parameter

/-- The parameter that is read for a parameter. -/
def withoutZeroSign (p : Parameter) : Parameter := { p with value := p.value.withoutZeroSign }

/-- A parameter comes back as it is if its value does, since its other parts are
names. -/
theorem withoutZeroSign_eq_self_iff (p : Parameter) :
    p.withoutZeroSign = p ↔ p.value.withoutZeroSign = p.value := by
  constructor
  · intro h
    exact congrArg value h
  · intro h
    rw [withoutZeroSign, h]

/-- A parameter is decoded from its members, each by its own decoder. -/
theorem decodes_toJson (p : Parameter) (hNumber : p.value.isNumber = false) :
    Decodes Parameter.ofNode? p.toJson p.withoutZeroSign := by
  have hPlace : lookup? p.place.name (Node.tagged Place.name Place.all) = some p.place := by
    cases p.place <;> decide
  obtain ⟨_, hName, hNameText⟩ := decodes_text p.name
  obtain ⟨_, hValue, hValueOk⟩ := p.value.decodes_toJson hNumber
  obtain ⟨_, hRaw, hRawText⟩ := decodes_text p.raw
  obtain ⟨_, hRequired, hRequiredBool⟩ := decodes_bool p.isRequired
  obtain ⟨_, hSource, hSourceConstant⟩ := decodes_constant hPlace
  refine decodes_record (.cons (readsMember hName) <| .cons (readsMember hValue) <|
    .cons (readsMember hRaw) <| .cons (readsMember hRequired) <|
    .cons (readsMember hSource) .nil) rfl (by simp) ?_
  simp [Node.need, lookup?, hNameText, hValueOk, hRawText, hRequiredBool, hSourceConstant,
    withoutZeroSign]

end Parameter

-- ---------------------------------------------------------------------------
-- Commands
-- ---------------------------------------------------------------------------

namespace Command

/-- The command that is read for a command. -/
def withoutZeroSigns (c : Command) : Command :=
  { c with parameters := c.parameters.map (·.withoutZeroSign) }

/-- Which commands come back as they are: those without a zero that has a sign.
Everything else that a command holds survives. -/
theorem withoutZeroSigns_eq_self_iff (c : Command) : c.withoutZeroSigns = c ↔
    ∀ p ∈ c.parameters, ∀ d, p.value = .amount d → d.mantissa = 0 → d.negative = false := by
  have hParameters : c.parameters.map (·.withoutZeroSign) = c.parameters.map id ↔
      ∀ p ∈ c.parameters, p.withoutZeroSign = p := List.map_inj_left
  rw [List.map_id] at hParameters
  simp only [Parameter.withoutZeroSign_eq_self_iff, Value.withoutZeroSign_eq_self_iff]
    at hParameters
  rw [← hParameters]
  constructor
  · intro h
    exact congrArg parameters h
  · intro h
    rw [withoutZeroSigns, h]

/-- A command is decoded from its members, the parameters in their order. -/
theorem decodes_toJson (c : Command) (hNumbers : ∀ p ∈ c.parameters, p.value.isNumber = false) :
    Decodes Command.ofNode? c.toJson c.withoutZeroSigns := by
  have hSubject : lookup? c.subject.name (Node.tagged Subject.name Subject.all) =
      some c.subject := by
    cases c.subject <;> decide
  have hAction : lookup? c.action.name (Node.tagged Action.name Action.all) = some c.action := by
    cases c.action <;> decide
  obtain ⟨_, hType, hTypeConstant⟩ := decodes_constant hSubject
  obtain ⟨_, hActionName, hActionConstant⟩ := decodes_constant hAction
  obtain ⟨_, hParameters, hParametersOk⟩ :=
    decodes_list fun (p : Parameter) hp => p.decodes_toJson (hNumbers p hp)
  obtain ⟨_, hRaw, hRawText⟩ := decodes_text c.raw
  refine decodes_record (.cons (readsMember hType) <| .cons (readsMember hActionName) <|
    .cons (readsMember hParameters) <| .cons (readsMember hRaw) .nil) rfl (by simp) ?_
  simp [Node.need, lookup?, hTypeConstant, hActionConstant, hParametersOk, hRawText,
    withoutZeroSigns]

/-- A command is read from its text, whatever characters are in its texts,
because the text of a value is read as that value. -/
theorem ofJson?_compact (c : Command) (hNumbers : ∀ p ∈ c.parameters, p.value.isNumber = false) :
    ofJson? c.toJson.compact = some c.withoutZeroSigns := by
  obtain ⟨n, hReads, hDecode⟩ := c.decodes_toJson hNumbers
  rw [ofJson?, parse?_compact hReads, Option.bind_some, hDecode]

/-- A command is read from its text as it was but for the signs of zeros. So
it is the same command just where no zero amount has a sign, and then it has
the same text. -/
theorem ofJson_toJson (c : Command) (hNumbers : ∀ p ∈ c.parameters, p.value.isNumber = false) :
    ∃ c', ofJson? c.toJson.compact = some c' ∧ c' = c.withoutZeroSigns ∧
      (c' = c ↔ ∀ p ∈ c.parameters, ∀ d, p.value = .amount d → d.mantissa = 0 →
        d.negative = false) ∧
      ((∀ p ∈ c.parameters, ∀ d, p.value = .amount d → d.mantissa = 0 → d.negative = false) →
        c'.toJson.compact = c.toJson.compact) := by
  refine ⟨c.withoutZeroSigns, c.ofJson?_compact hNumbers, rfl, c.withoutZeroSigns_eq_self_iff, ?_⟩
  intro hSigns
  rw [c.withoutZeroSigns_eq_self_iff.mpr hSigns]

/-- An amount that does not need all of its places. -/
def oddAmount : Decimal := (Decimal.read "-1.250".toList).getD .zero

/-- A command with an amount that keeps its places, a far date, a token that
could not be read, and texts with quotes and line breaks in them. -/
def oddErrand : Command where
  subject := .item
  action := .due
  parameters :=
    [⟨"date", .date ⟨-12345, 2, 28, by decide⟩, "then", true, .required⟩,
      ⟨"a\\\"b", .amount oddAmount, "\t\x00", false, .longFlag⟩,
      ⟨"", .unread .number "two\n", "😀", true, .positional⟩]
  raw := "item due 'then"

theorem oddErrand_read_again :
    (∀ p ∈ oddErrand.parameters, p.value.isNumber = false) ∧
    (∀ p ∈ oddErrand.parameters, ∀ d, p.value = .amount d → d.mantissa = 0 → d.negative = false) ∧
    ofJson? oddErrand.toJson.compact = some oddErrand := by
  have hNumbers : ∀ p ∈ oddErrand.parameters, p.value.isNumber = false := by decide
  have hSigns : ∀ p ∈ oddErrand.parameters, ∀ d, p.value = .amount d → d.mantissa = 0 →
      d.negative = false := by
    intro p hp d hd hZero
    simp only [oddErrand, List.mem_cons, List.not_mem_nil, or_false] at hp
    rcases hp with rfl | rfl | rfl
    · cases hd
    · cases hd
      exact absurd hZero (by decide)
    · cases hd
  obtain ⟨c', hRead, -, hSame, -⟩ := ofJson_toJson oddErrand hNumbers
  exact ⟨hNumbers, hSigns, by rw [hRead, hSame.mpr hSigns]⟩

/-- A payment of nothing, with a sign. -/
def signedNothing : Command :=
  ⟨.account, .credit, [Parameter.required (.amount { Decimal.zero with negative := true })], ""⟩

/-- A zero that has a sign is written with it and read without it. So the
command that is read has another text. -/
theorem signedNothing_written_otherwise :
    (∀ p ∈ signedNothing.parameters, p.value.isNumber = false) ∧
    ∃ c', ofJson? signedNothing.toJson.compact = some c' ∧ c' ≠ signedNothing ∧
      c'.toJson.compact ≠ signedNothing.toJson.compact := by
  have hNumbers : ∀ p ∈ signedNothing.parameters, p.value.isNumber = false := by decide
  refine ⟨hNumbers, _, signedNothing.ofJson?_compact hNumbers, by decide, ?_⟩
  intro h
  exact absurd (String.ofList_injective h) (by decide)

end Command

end HomeLedger
