import HomeLedger.Proofs.Message.Command
import HomeLedger.Proofs.Message.Response
import Mathlib.Data.List.Nodup
import Mathlib.Data.List.Perm.Basic
import Mathlib.Data.Nat.Find

/-!
# HomeLedger — the order of fields does not count

Whoever sends a message writes its fields in any order, and may add some that
are not known here. If no name occurs twice, what is read is the same: the
same command or response, or the same error, although several things can be
wrong at once.

A command is read by looking fields up, and what is found under a name
depends on what there is, not on where. The parameters are those up to the
first number without a field, and there is one, since each number that has a
field takes up a field. A response is read by going through the fields, where
data are put into a list that is sorted by key, and it does not matter which
of two keys is put in first.

Main results:

* `exists_parameterNumbers` — the numbers of the parameters are all those up
  to the first that has no field.
* `readCommand_congr` / `readData_perm` — what is read depends on what there
  is.
* `parameters_told` — the parameters of a command that is read are those of
  the fields, in order.
* `decode_order` — all of this for messages.
-/

namespace HomeLedger

-- ---------------------------------------------------------------------------
-- Sorted members
-- ---------------------------------------------------------------------------

/-- Of two members with different keys either can be put in first. Members are
sorted by key, and both end up in the places of their keys. -/
theorem Json.insert_comm {key key' : String} (hne : key ≠ key') (value value' : Json)
    (members : List (String × Json)) :
    insert key value (insert key' value' members) =
      insert key' value' (insert key value members) := by
  induction members with
  | nil => grind [insert, String.lt_asymm, String.le_antisymm, String.not_lt]
  | cons m rest ih =>
    obtain ⟨k, v⟩ := m
    grind [insert, String.lt_asymm, String.lt_trans, String.le_antisymm, String.not_lt]

namespace Message

-- ---------------------------------------------------------------------------
-- Fields
-- ---------------------------------------------------------------------------

section Fields

variable {pairs pairs' extra : List (String × String)} {name value : String}

/-- A field that is found is there. It is the last of its name, which is more
than is needed here. -/
theorem mem_of_field? (h : field? pairs name = some value) : (name, value) ∈ pairs := by
  unfold field? at h
  obtain ⟨⟨name', value'⟩, hFind, rfl⟩ := Option.map_eq_some_iff.mp h
  obtain rfl : name' = name := by simpa using List.find?_some hFind
  exact List.mem_reverse.mp (List.mem_of_find?_eq_some hFind)

theorem mem_of_field (h : field pairs name = .ok value) : (name, value) ∈ pairs := by
  unfold field at h
  split at h <;> cases h
  exact mem_of_field? ‹_›

/-- A word that is known stands for what it is read as, since an unknown one is
an error. -/
theorem of_known {α : Type} {unknown : String → MessageError} {resolve? : String → Option α}
    {word : String} {a : α} (h : known unknown resolve? word = .ok a) : resolve? word = some a := by
  unfold known at h
  split at h <;> cases h
  assumption

theorem field?_eq_none_iff : field? pairs name = none ↔ ∀ value, (name, value) ∉ pairs := by
  refine ⟨fun h value hMem => ?_, field?_eq_none⟩
  unfold field? at h
  have hNot := List.find?_eq_none.mp (Option.map_eq_none_iff.mp h) (name, value)
    (List.mem_reverse.mpr hMem)
  simp at hNot

/-- Where no name occurs twice, a field says one thing. Without this the order
would count, as the last field of a name is the one that is found. -/
theorem eq_of_mem_fields {value' : String} (hKeys : (pairs.map (·.1)).Nodup)
    (h : (name, value) ∈ pairs) (h' : (name, value') ∈ pairs) : value' = value :=
  (Prod.mk.inj (List.inj_on_of_nodup_map hKeys h' h rfl)).2

/-- A known field is the same in another order and among others that are not
known. It is found in both lists or in neither, and it says one thing. -/
theorem field?_perm {known : String → Prop} (hKeys : (pairs.map (·.1)).Nodup)
    (hPerm : pairs'.Perm (pairs ++ extra)) (hExtra : ∀ pair ∈ extra, ¬known pair.1)
    (hName : known name) : field? pairs' name = field? pairs name := by
  have hMem : ∀ value, (name, value) ∈ pairs' ↔ (name, value) ∈ pairs := by
    intro value
    rw [hPerm.mem_iff, List.mem_append, or_iff_left fun h => hExtra _ h hName]
  cases hField : field? pairs name with
  | none =>
    rw [field?_eq_none_iff] at hField ⊢
    exact fun value h => hField value ((hMem value).mp h)
  | some value =>
    have hValue := mem_of_field? hField
    exact field?_eq_some ((hMem value).mpr hValue) fun value' h =>
      eq_of_mem_fields hKeys hValue ((hMem value').mp h)

end Fields

-- ---------------------------------------------------------------------------
-- Known names
-- ---------------------------------------------------------------------------

/-- The names of the fields that a command may have: its own, and for each
number those of a parameter. -/
inductive IsCommandField : String → Prop
  | subject : IsCommandField "type"
  | action : IsCommandField "action"
  | raw : IsCommandField "raw"
  | parameter (i : Nat) (ending : String) (hEnding : ending ∈ ["", "_type", "_name", "_source"]) :
      IsCommandField (parameterField i ++ ending)

/-- The names of the fields that a response may have: its own, and one for
each key of data. -/
inductive IsResponseField : String → Prop
  | success : IsResponseField "success"
  | message : IsResponseField "message"
  | datum (key : String) : IsResponseField (dataMark ++ key)

/-- What the names of the fields of a command begin with. The first letter is
enough to tell that a name is none of them. -/
theorem IsCommandField.head?_mem {name : String} (h : IsCommandField name) :
    name.toList.head? ∈ [some 't', some 'a', some 'r', some 'p'] := by
  cases h with
  | parameter i ending hEnding =>
    rw [head?_parameterField_append]
    decide
  | _ => decide

/-- The field with the token of a parameter is one that a command may have. -/
theorem isCommandField_parameterField (i : Nat) : IsCommandField (parameterField i) := by
  have hField := IsCommandField.parameter i "" (by simp)
  rwa [String.append_empty] at hField

-- ---------------------------------------------------------------------------
-- Numbers of parameters
-- ---------------------------------------------------------------------------

/-- Numbers that have fields are no more than there are fields, because they
have different fields. -/
theorem le_length_of_isSome {pairs : List (String × String)} {n : Nat}
    (h : ∀ i < n, (field? pairs (parameterField i)).isSome) : n ≤ pairs.length := by
  have hInj : Function.Injective parameterField := by
    intro i j hij
    have hEmpty : parameterField i ++ "" = parameterField j ++ "" := by rw [hij]
    exact (parameterField_append_inj noDigit_empty noDigit_empty hEmpty).1
  have hNodup : ((List.range n).map parameterField).Nodup := List.Nodup.map hInj List.nodup_range
  have hSubset : (List.range n).map parameterField ⊆ pairs.map (·.1) := by
    intro name hName
    obtain ⟨i, hi, rfl⟩ := List.mem_map.mp hName
    obtain ⟨raw, hRaw⟩ := Option.isSome_iff_exists.mp (h i (List.mem_range.mp hi))
    exact List.mem_map.mpr ⟨_, mem_of_field? hRaw, rfl⟩
  simpa using (List.subperm_of_subset hNodup hSubset).length_le

/-- The numbers of the parameters are all up to the first that has no field,
which there is. So the bound that a reader stops at is never reached with a
parameter still to come. -/
theorem exists_parameterNumbers (pairs : List (String × String)) :
    ∃ n, parameterNumbers pairs = List.range n ∧
      (∀ i < n, (field? pairs (parameterField i)).isSome) ∧
      field? pairs (parameterField n) = none := by
  have hExists : ∃ n, field? pairs (parameterField n) = none := by
    by_contra hNone
    have hLong : pairs.length + 1 ≤ pairs.length := le_length_of_isSome fun i _ =>
      Option.isSome_iff_ne_none.mpr fun h => hNone ⟨i, h⟩
    omega
  have hBefore : ∀ i < Nat.find hExists, (field? pairs (parameterField i)).isSome := fun i hi =>
    Option.isSome_iff_ne_none.mpr (Nat.find_min hExists hi)
  refine ⟨Nat.find hExists, ?_, hBefore, Nat.find_spec hExists⟩
  exact Channel.takeWhile_range (le_length_of_isSome hBefore) hBefore
    (by rw [Nat.find_spec hExists]; rfl)

end Message

namespace Channel

open Message

variable {f : Formatting} {today : Date} {pairs pairs' extra : List (String × String)}

-- ---------------------------------------------------------------------------
-- Commands
-- ---------------------------------------------------------------------------

/-- A parameter is read from its own fields, so it is the same where these are
the same. -/
theorem readParameter_congr
    (h : ∀ name, IsCommandField name → field? pairs' name = field? pairs name) (i : Nat) :
    readParameter f today pairs' i = readParameter f today pairs i := by
  unfold readParameter field
  simp only
  rw [h _ (isCommandField_parameterField i), h _ (.parameter i "_type" (by simp)),
    h _ (.parameter i "_name" (by simp)), h _ (.parameter i "_source" (by simp))]

/-- The parameters have the same numbers, although there may be more fields to
look at. Both readers stop at the same number, the first without a field. -/
theorem parameterNumbers_congr
    (h : ∀ name, IsCommandField name → field? pairs' name = field? pairs name) :
    parameterNumbers pairs' = parameterNumbers pairs := by
  obtain ⟨n, hNumbers, hSome, hNone⟩ := exists_parameterNumbers pairs
  obtain ⟨n', hNumbers', hSome', hNone'⟩ := exists_parameterNumbers pairs'
  have hSame := fun i => h _ (isCommandField_parameterField i)
  have hle : n ≤ n' := by
    by_contra hlt
    have := hSome n' (by omega)
    rw [← hSame, hNone'] at this
    cases this
  have hge : n' ≤ n := by
    by_contra hlt
    have := hSome' n (by omega)
    rw [hSame, hNone] at this
    cases this
  rw [hNumbers, hNumbers', Nat.le_antisymm hle hge]

/-- What is read as a command depends on what is found under the names of its
fields. This holds of errors too, which come in the order in which the fields
are looked up and not in the one in which they were sent. -/
theorem readCommand_congr
    (h : ∀ name, IsCommandField name → field? pairs' name = field? pairs name) :
    readCommand f today pairs' = readCommand f today pairs := by
  have hParameters : readParameter f today pairs' = readParameter f today pairs :=
    funext (readParameter_congr h)
  unfold readCommand field
  rw [h _ .subject, h _ .action, h _ .raw, parameterNumbers_congr h, hParameters]

-- ---------------------------------------------------------------------------
-- Responses
-- ---------------------------------------------------------------------------

/-- The datum in a field, whose key is what follows the mark. Fields without the
mark have none. -/
def datum? (pair : String × String) : Option (String × Json) :=
  (Text.stripPrefix? dataMark pair.1).map fun key => (key, .string pair.2)

/-- The datum of a field has the key that follows the mark, and the value as a
text. -/
theorem datum?_eq_some {pair : String × String} {m : String × Json} :
    datum? pair = some m ↔ pair.1 = dataMark ++ m.1 ∧ m.2 = .string pair.2 := by
  obtain ⟨name, value⟩ := pair
  obtain ⟨key, datum⟩ := m
  rw [datum?, Option.map_eq_some_iff]
  constructor
  · rintro ⟨key', hKey, hm⟩
    obtain ⟨rfl, rfl⟩ := Prod.mk.inj hm
    exact ⟨(Text.stripPrefix?_eq_some_iff.mp hKey).symm, rfl⟩
  · rintro ⟨(rfl : name = dataMark ++ key), (rfl : datum = .string value)⟩
    exact ⟨key, stripPrefix?_dataMark key, rfl⟩

/-- Where no name occurs twice, there is one datum of each key, as the key is
all that tells such names apart. -/
theorem eq_of_mem_data (hKeys : (pairs.map (·.1)).Nodup) {m m' : String × Json}
    (hm : m ∈ pairs.filterMap datum?) (hm' : m' ∈ pairs.filterMap datum?) (hKey : m.1 = m'.1) :
    m = m' := by
  obtain ⟨pair, hPair, hDatum⟩ := List.mem_filterMap.mp hm
  obtain ⟨pair', hPair', hDatum'⟩ := List.mem_filterMap.mp hm'
  have hName : pair.1 = pair'.1 := by
    rw [(datum?_eq_some.mp hDatum).1, (datum?_eq_some.mp hDatum').1, hKey]
  obtain rfl := List.inj_on_of_nodup_map hKeys hPair hPair' hName
  exact Option.some.inj (hDatum.symm.trans hDatum')

/-- Data are read one by one, and fields of other names are passed over. So they
are the data that the fields have, put in from the left. -/
theorem readData_eq (pairs : List (String × String)) :
    readData pairs = (pairs.filterMap datum?).foldl (fun (data : Response.Data) m =>
      data.insert m.1 m.2) Response.Data.empty := by
  rw [readData, List.foldl_filterMap]
  congr 1
  funext data pair
  obtain ⟨name, value⟩ := pair
  cases hStrip : Text.stripPrefix? dataMark name <;> simp [datum?, hStrip]

/-- Data are the same in another order and among others that are none. Each is
put in at the place of its key, and there is one of each. -/
theorem readData_perm (hKeys : (pairs.map (·.1)).Nodup) (hPerm : pairs'.Perm (pairs ++ extra))
    (hExtra : ∀ pair ∈ extra, ¬IsResponseField pair.1) : readData pairs' = readData pairs := by
  have hNone : extra.filterMap datum? = [] := by
    rw [List.filterMap_eq_nil_iff]
    intro pair hPair
    rw [Option.eq_none_iff_forall_ne_some]
    intro m hm
    refine hExtra pair hPair ?_
    rw [(datum?_eq_some.mp hm).1]
    exact .datum m.1
  have hData : (pairs'.filterMap datum?).Perm (pairs.filterMap datum?) := by
    have hAll := hPerm.filterMap datum?
    rwa [List.filterMap_append, hNone, List.append_nil] at hAll
  rw [readData_eq, readData_eq]
  refine (hData.symm.foldl_eq' ?_ Response.Data.empty).symm
  intro m hm m' hm' data
  by_cases hKey : m.1 = m'.1
  · rw [eq_of_mem_data hKeys hm hm' hKey]
  · exact Response.Data.ext (Json.insert_comm (Ne.symm hKey) _ _ data.members)

/-- A response is the same in another order and among fields that are not known:
its two fields are looked up, and its data are sorted. -/
theorem readResponse_perm (hKeys : (pairs.map (·.1)).Nodup) (hPerm : pairs'.Perm (pairs ++ extra))
    (hExtra : ∀ pair ∈ extra, ¬IsResponseField pair.1) :
    readResponse pairs' = readResponse pairs := by
  unfold readResponse field
  rw [field?_perm hKeys hPerm hExtra .success, field?_perm hKeys hPerm hExtra .message,
    readData_perm hKeys hPerm hExtra]

-- ---------------------------------------------------------------------------
-- Parameters
-- ---------------------------------------------------------------------------

/-- Whether fields tell the parameter of a number. With a name and a place it
is a value of the kind that is told; if either is missing it is a text in a
slot, named as its field. -/
inductive Tells (f : Formatting) (today : Date) (pairs : List (String × String)) (i : Nat) :
    Parameter → Prop
  | placed {raw word name source : String} {kind : Kind} {place : Place}
      (hRaw : (parameterField i, raw) ∈ pairs) (hWord : (parameterField i ++ "_type", word) ∈ pairs)
      (hKind : Kind.ofName? word = some kind) (hName : (parameterField i ++ "_name", name) ∈ pairs)
      (hSource : (parameterField i ++ "_source", source) ∈ pairs)
      (hPlace : Place.ofName? source = some place) :
      Tells f today pairs i (Parameter.placed place name (Value.ofToken f today kind raw) raw)
  | text {raw word : String} {kind : Kind} (hRaw : (parameterField i, raw) ∈ pairs)
      (hWord : (parameterField i ++ "_type", word) ∈ pairs) (hKind : Kind.ofName? word = some kind)
      (hMissing : (∀ name, (parameterField i ++ "_name", name) ∉ pairs) ∨
        ∀ source, (parameterField i ++ "_source", source) ∉ pairs) :
      Tells f today pairs i (Parameter.placed .required (parameterField i) (.text raw) raw)

/-- A parameter that is read is the one that its fields tell. The cases are
those of the reader, and in each of them the fields that it has found are
there. -/
theorem tells_of_readParameter {i : Nat} {p : Parameter}
    (h : readParameter f today pairs i = .ok p) : Tells f today pairs i p := by
  unfold readParameter at h
  simp only at h
  obtain ⟨raw, hRaw, h⟩ := bind_eq_ok.mp h
  split at h
  · cases h
  · next word hWord =>
    obtain ⟨kind, hKind, h⟩ := bind_eq_ok.mp h
    split at h
    · next name source hName hSource =>
      obtain ⟨place, hPlace, h⟩ := bind_eq_ok.mp h
      obtain rfl := Except.ok.inj h
      exact .placed (mem_of_field hRaw) (mem_of_field? hWord) (of_known hKind) (mem_of_field? hName)
        (mem_of_field? hSource) (of_known hPlace)
    · next hMissing =>
      obtain rfl := Except.ok.inj h
      refine .text (mem_of_field hRaw) (mem_of_field? hWord) (of_known hKind) ?_
      -- one of the two fields is missing, whichever it is
      rw [← field?_eq_none_iff, ← field?_eq_none_iff]
      by_contra hNot
      obtain ⟨hName, hSource⟩ := not_or.mp hNot
      obtain ⟨name, hName⟩ := Option.ne_none_iff_exists'.mp hName
      obtain ⟨source, hSource⟩ := Option.ne_none_iff_exists'.mp hSource
      exact hMissing name source hName hSource

/-- The parameters of a command that is read are those of the numbers up to
the first without a field, in order. -/
theorem parameters_told {c : Command} (h : readCommand f today pairs = .ok c) :
    ∃ n, c.parameters.length = n ∧ (∀ i < n, ∃ raw, (parameterField i, raw) ∈ pairs) ∧
      (∀ raw, (parameterField n, raw) ∉ pairs) ∧
      ∀ i p, c.parameters[i]? = some p → Tells f today pairs i p := by
  have hParameters := parameters_of_readCommand h
  obtain ⟨n, hNumbers, hSome, hNone⟩ := exists_parameterNumbers pairs
  rw [hNumbers, mapM_eq_ok] at hParameters
  refine ⟨n, ?_, fun i hi => ?_, field?_eq_none_iff.mp hNone, fun i p hp => ?_⟩
  · rw [← hParameters.length_eq, List.length_range]
  · obtain ⟨raw, hRaw⟩ := Option.isSome_iff_exists.mp (hSome i hi)
    exact ⟨raw, mem_of_field? hRaw⟩
  · obtain ⟨hi, hp⟩ := List.getElem?_eq_some_iff.mp hp
    have hRead := hParameters.get (i := i) (by rw [hParameters.length_eq]; exact hi) hi
    rw [List.get_eq_getElem, List.get_eq_getElem, List.getElem_range, hp] at hRead
    exact tells_of_readParameter hRead

-- ---------------------------------------------------------------------------
-- Messages
-- ---------------------------------------------------------------------------

/-- Whether a message is of the expected kind is told by its scheme and its
host, and not by its fields. -/
theorem expect_congr {ch : Channel} {url url' : Url} (hScheme : url'.scheme = url.scheme)
    (hHost : url'.hostText = url.hostText) (host : String) :
    ch.expect host url' = ch.expect host url := by
  unfold expect
  rw [hScheme, hHost]

/-- Two messages, of which the second has the fields of the first in any order
and in between others that a reader does not know, are read alike, if no name
occurs twice in the first. A command that is read has as many parameters as
there are numbers before the first without a field, each told by the fields
of its number. -/
theorem decode_order (ch : Channel) (today : Date) {url url' : Url}
    {extra : List (String × String)} (hScheme : url'.scheme = url.scheme)
    (hHost : url'.hostText = url.hostText) (hKeys : (url.pairs.map (·.1)).Nodup)
    (hPerm : url'.pairs.Perm (url.pairs ++ extra)) :
    ((∀ pair ∈ extra, ¬IsCommandField pair.1) →
      ch.decodeCommand today url' = ch.decodeCommand today url) ∧
    ((∀ pair ∈ extra, ¬IsResponseField pair.1) →
      ch.decodeResponse url' = ch.decodeResponse url) ∧
    ∀ c, ch.decodeCommand today url = .ok c →
      ∃ n, c.parameters.length = n ∧ (∀ i < n, ∃ raw, (parameterField i, raw) ∈ url.pairs) ∧
        (∀ raw, (parameterField n, raw) ∉ url.pairs) ∧
        ∀ i p, c.parameters[i]? = some p → Tells ch.formatting today url.pairs i p := by
  refine ⟨fun hExtra => ?_, fun hExtra => ?_, fun c h => ?_⟩
  · have hField : ∀ name, IsCommandField name →
        field? url'.pairs name = field? url.pairs name :=
      fun name hName => field?_perm hKeys hPerm hExtra hName
    rw [decodeCommand, decodeCommand, expect_congr hScheme hHost, readCommand_congr hField]
  · rw [decodeResponse, decodeResponse, expect_congr hScheme hHost,
      readResponse_perm hKeys hPerm hExtra]
  · rw [decodeCommand, bind_eq_ok] at h
    obtain ⟨-, -, h⟩ := h
    exact parameters_told h

/-- A message with two parameters, of which the second is told in the short
way. -/
def sentMessage : Url :=
  { scheme := "famzoo"
    hasAuthority := true
    host := some (.name "command")
    path := ""
    query := some ("type=account&action=credit&raw=a+c&param_0=5&param_0_type=amount" ++
      "&param_0_name=sum&param_0_source=required&param_1=bike&param_1_type=text") }

/-- The same message in another order, and with a field that nobody knows. -/
def shuffledMessage : Url :=
  { sentMessage with
    query := some ("param_1_type=text&via=chat&param_0_source=required&raw=a+c&param_1=bike" ++
      "&param_0_name=sum&action=credit&param_0=5&param_0_type=amount&type=account") }

/-- The fields of the message. -/
def sentPairs : List (String × String) :=
  [("type", "account"), ("action", "credit"), ("raw", "a c"), ("param_0", "5"),
    ("param_0_type", "amount"), ("param_0_name", "sum"), ("param_0_source", "required"),
    ("param_1", "bike"), ("param_1_type", "text")]

/-- The fields of the other message, in the order in which they are sent
there. -/
def shuffledPairs : List (String × String) :=
  [("param_1_type", "text"), ("via", "chat"), ("param_0_source", "required"), ("raw", "a c"),
    ("param_1", "bike"), ("param_0_name", "sum"), ("action", "credit"), ("param_0", "5"),
    ("param_0_type", "amount"), ("type", "account")]

/-- Both messages are read as the same command, and its two parameters are the
ones that the fields tell. -/
theorem shuffled_read_alike :
    (ofScheme "famzoo" {}).decodeCommand giftDay shuffledMessage =
        (ofScheme "famzoo" {}).decodeCommand giftDay sentMessage ∧
      ∃ c, (ofScheme "famzoo" {}).decodeCommand giftDay sentMessage = .ok c ∧
        c.parameters.length = 2 ∧
        ∀ i p, c.parameters[i]? = some p → Tells {} giftDay sentMessage.pairs i p := by
  have hVia : ∀ pair ∈ [("via", "chat")], ¬IsCommandField pair.1 := by
    rintro _ hPair h
    obtain rfl := List.mem_singleton.mp hPair
    exact absurd h.head?_mem (by decide)
  have hSent : sentMessage.pairs = sentPairs := by decide +kernel
  have hShuffled : shuffledMessage.pairs = shuffledPairs := by decide +kernel
  have hKeys : (sentMessage.pairs.map (·.1)).Nodup := by
    rw [hSent]
    decide
  have hPerm : shuffledMessage.pairs.Perm (sentMessage.pairs ++ [("via", "chat")]) := by
    rw [hSent, hShuffled]
    decide
  have hScheme : shuffledMessage.scheme = sentMessage.scheme := rfl
  have hHost : shuffledMessage.hostText = sentMessage.hostText := rfl
  obtain ⟨hCommand, -, hTold⟩ :=
    decode_order (ofScheme "famzoo" {}) giftDay hScheme hHost hKeys hPerm
  have hRead : ((ofScheme "famzoo" {}).decodeCommand giftDay sentMessage).map
      (·.parameters.length) = .ok 2 := by decide +kernel
  obtain ⟨c, hc, hLength⟩ := exists_of_map_eq_ok hRead
  obtain ⟨-, -, -, -, hParameters⟩ := hTold c hc
  exact ⟨hCommand hVia, c, hc, hLength, hParameters⟩

end Channel

end HomeLedger
