import HomeLedger.Proofs.Message.Envelope
import HomeLedger.Proofs.Outcome
import HomeLedger.Proofs.Text.Occurrence

/-!
# HomeLedger — responses survive a message

The data of a response share one query with its other fields. They are told
apart by what their names begin with: a mark is put in front of each key and
taken away again, so that no key is too short or too clever, be it empty or
`success` or one that begins with the mark itself. The data of a response are
sorted by key, and so each datum that is read goes behind those that were read
before it.

What is sent of a datum is a text. A text comes back as it was, and all else
as the JSON that it was sent as.

Main results:

* `readData_responsePairs` — the data are read from the fields.
* `readResponse_responsePairs` — and so is the response.
* `decodeResponse_encodeResponse` — and from the URL that it is sent as.
-/

namespace HomeLedger

-- ---------------------------------------------------------------------------
-- Received data
-- ---------------------------------------------------------------------------

/-- A member whose key comes behind all others is put behind them. Sorted
members that are put in one by one stay in their order for this reason. -/
theorem Json.insert_of_forall_lt {key : String} {value : Json} {members : List (String × Json)}
    (h : ∀ m ∈ members, m.1 < key) : insert key value members = members ++ [(key, value)] := by
  induction members with
  | nil => rfl
  | cons m rest ih =>
    obtain ⟨k, v⟩ := m
    obtain ⟨hk, hRest⟩ := List.forall_mem_cons.mp h
    have hNotBefore : ¬key < k := String.lt_asymm hk
    have hne : key ≠ k := by
      rintro rfl
      exact String.lt_irrefl key hk
    rw [insert, if_neg hNotBefore, if_neg hne, ih hRest, List.cons_append]

namespace Response

/-- A value as it comes back from a message: a text as it is, and all else as
the text of its JSON. -/
def receivedValue : Json → Json
  | .string s => .string s
  | j => .string j.compact

/-- The data of a response as they come back from a message. -/
def receivedData (r : Response) : Data := (r.data.getD .empty).mapValues fun _ => receivedValue

/-- A response as it comes back from a message. Data without a member are none. -/
def received (r : Response) : Response :=
  { r with data := if r.members = [] then none else some r.receivedData }

end Response

namespace Channel

open Message

variable {c : Command} {r : Response}

/-- The text that is sent of a value, as a value again, is the value as it comes
back. -/
theorem string_dataText (j : Json) : .string (dataText j) = Response.receivedValue j := by
  cases j <;> rfl

-- ---------------------------------------------------------------------------
-- Data
-- ---------------------------------------------------------------------------

/-- The fields of a response that are not data. -/
def envelopePairs (c : Command) (r : Response) : List (String × String) :=
  [("success", if r.success then "true" else "false"), ("message", r.message), ("command", c.raw)]

/-- The field of a datum. The mark is put in front of every key, also of one
that has it already. -/
def dataPair (m : String × Json) : String × String := (dataMark ++ m.1, dataText m.2)

/-- The fields of a response are its own three, and then one for each datum. -/
theorem responsePairs_eq : responsePairs c r = envelopePairs c r ++ r.members.map dataPair := rfl

/-- A key is what is left of the name of its field, so no two keys have the same
field and none is lost. -/
theorem stripPrefix?_dataMark (key : String) :
    Text.stripPrefix? dataMark (dataMark ++ key) = some key :=
  Text.stripPrefix?_eq_some_iff.mpr rfl

/-- Data are read one behind the other. By induction on those that are still to
come: the first of them has the greatest key so far, and goes to the end. -/
theorem foldl_dataPairs (before : Response.Data) {data : List (String × Json)}
    (hSorted : Json.SortedMembers data)
    (hBefore : ∀ m ∈ before.members, ∀ m' ∈ data, m.1 < m'.1) :
    ((data.map dataPair).foldl (fun data (name, value) =>
      match Text.stripPrefix? dataMark name with
      | some key => data.insert key (.string value)
      | none => data) before).members =
    before.members ++ data.map fun m => (m.1, Response.receivedValue m.2) := by
  induction data generalizing before with
  | nil => simp
  | cons m rest ih =>
    obtain ⟨key, value⟩ := m
    obtain ⟨hKey, hRest⟩ := List.pairwise_cons.mp hSorted
    have hLast : (before.insert key (Response.receivedValue value)).members =
        before.members ++ [(key, Response.receivedValue value)] :=
      Json.insert_of_forall_lt fun m hm => hBefore m hm _ List.mem_cons_self
    -- what has been read so far still comes before the others
    have hNext : ∀ m ∈ (before.insert key (Response.receivedValue value)).members, ∀ m' ∈ rest,
        m.1 < m'.1 := by
      rw [hLast]
      intro m hm m' hm'
      rcases List.mem_append.mp hm with hMem | hMem
      · exact hBefore m hMem m' (List.mem_cons_of_mem _ hm')
      · rw [List.mem_singleton.mp hMem]
        exact hKey m' hm'
    rw [List.map_cons, List.foldl_cons]
    simp only [dataPair, stripPrefix?_dataMark, string_dataText]
    rw [ih _ hRest hNext, hLast, List.append_assoc, List.map_cons, List.singleton_append]

/-- The data that are read are those that were sent, as texts. The three other
fields have no mark, and are passed over. -/
theorem readData_responsePairs : readData (responsePairs c r) = r.receivedData := by
  have hData := foldl_dataPairs .empty (r.data.getD .empty).sorted (List.forall_mem_nil _)
  refine Response.Data.ext ?_
  rw [responsePairs_eq, readData, List.foldl_append]
  exact hData

-- ---------------------------------------------------------------------------
-- The other fields
-- ---------------------------------------------------------------------------

/-- A field that is not of a datum is found, whatever the keys of the data are,
for a name with the mark is none of the three. -/
theorem field?_envelope {name value : String} (h : (name, value) ∈ envelopePairs c r) :
    field? (responsePairs c r) name = some value := by
  have hMem : (name, value) ∈ responsePairs c r := List.mem_append_left _ h
  refine field?_eq_some hMem fun value' h' => ?_
  simp only [envelopePairs, List.mem_cons, Prod.mk.injEq, List.not_mem_nil, or_false] at h
  rcases List.mem_append.mp h' with hEnvelope | hData
  · simp only [List.mem_cons, Prod.mk.injEq, List.not_mem_nil, or_false] at hEnvelope
    rcases h with ⟨rfl, rfl⟩ | ⟨rfl, rfl⟩ | ⟨rfl, rfl⟩ <;> simpa using hEnvelope
  · obtain ⟨⟨key, datum⟩, -, hPair⟩ := List.mem_map.mp hData
    have hHead : name.toList.head? = some 'd' := by
      rw [← (Prod.mk.inj hPair).1, String.toList_append]
      rfl
    rcases h with ⟨rfl, -⟩ | ⟨rfl, -⟩ | ⟨rfl, -⟩ <;> exact absurd hHead (by decide)

/-- The response that is read is the one that was sent, with its data as
texts. -/
theorem readResponse_responsePairs : readResponse (responsePairs c r) = .ok r.received := by
  have hSuccess : field? (responsePairs c r) "success" =
      some (if r.success then "true" else "false") := field?_envelope (by simp [envelopePairs])
  have hMessage : field? (responsePairs c r) "message" = some r.message :=
    field?_envelope (by simp [envelopePairs])
  have hTruth : ((if r.success then "true" else "false") == "true") = r.success := by
    cases r.success <;> rfl
  have hEmpty : r.receivedData.members.isEmpty = true ↔ r.members = [] := by
    rw [List.isEmpty_iff]
    exact List.map_eq_nil_iff
  unfold readResponse
  simp only [field, hSuccess, hMessage, readData_responsePairs, hTruth, bind, Except.bind, pure,
    Except.pure, hEmpty, Response.received]

-- ---------------------------------------------------------------------------
-- Messages
-- ---------------------------------------------------------------------------

/-- Whatever a response holds, it is sent as a URL from which it comes back,
its data as texts; and no command is read from that URL. -/
theorem decodeResponse_encodeResponse (scheme : String) (hScheme : Url.isScheme scheme = true)
    (f : Formatting) (today : Date) (c : Command) (r : Response) :
    ∃ url, (ofScheme scheme f).encodeResponse c r = .ok url ∧
      (ofScheme scheme f).decodeResponse url = .ok r.received ∧
      (ofScheme scheme f).decodeCommand today url = .error (.wrongHost resultHost) := by
  obtain ⟨url, hBlank, hFrom, hQuery⟩ := exists_blank hScheme isHostWord_resultHost f
  have hMessage := hFrom.addPairs (responsePairs c r)
  refine ⟨url.addPairs (responsePairs c r), ?_, ?_, ?_⟩
  · rw [encodeResponse, bind_eq_ok]
    exact ⟨url, hBlank, rfl⟩
  · rw [decodeResponse, bind_eq_ok]
    refine ⟨(), hMessage.expect_eq_ok, ?_⟩
    rw [Url.pairs_addPairs hQuery]
    exact readResponse_responsePairs
  · have hRefused := hMessage.expect_eq_error (show resultHost ≠ commandHost by decide)
    rw [decodeCommand, hRefused]
    rfl

/-- A response with data under keys that look like other fields. -/
def oddResponse : Response :=
  { success := false
    message := "50 % of a+b & c = ü"
    data := some ⟨[("", .string ""), ("data_x", .array [.integer 1, .null]),
      ("message", .string "=&"), ("success", .bool true)], by decide +kernel⟩ }

/-- The response comes back with its four data, of which two were texts and the
others are texts now. No datum is taken for the success or the message. -/
theorem oddResponse_survives_message :
    Url.isScheme "HTTPS" = true ∧
    ∃ url, (ofScheme "HTTPS" {}).encodeResponse ⟨.list, .show, [], "l s"⟩ oddResponse = .ok url ∧
      (ofScheme "HTTPS" {}).decodeResponse url = .ok
        { oddResponse with
          data := some ⟨[("", .string ""), ("data_x", .string "[1,null]"),
            ("message", .string "=&"), ("success", .string "true")], by decide +kernel⟩ } ∧
      (ofScheme "HTTPS" {}).decodeCommand ⟨2026, 1, 4, by decide⟩ url =
        .error (.wrongHost "result") :=
  ⟨by decide, decodeResponse_encodeResponse "HTTPS" (by decide) {} ⟨2026, 1, 4, by decide⟩
    ⟨.list, .show, [], "l s"⟩ oddResponse⟩

end Channel

end HomeLedger
