import HomeLedger.Message
import HomeLedger.Proofs.Url.Form
import HomeLedger.Proofs.Url.Scheme

/-!
# HomeLedger — what all messages have in common

A message is a URL of the scheme of its channel. Its host says what kind of
message it is, and what it holds are fields in the query. The host of one kind
is refused where the other is expected.

Main results:

* `field?_eq_some` / `field?_eq_none` — when a field is found.
* `exists_blank` — every channel has an empty message of each kind.
* `Channel.From.expect_eq_ok` / `Channel.From.expect_eq_error` — where it is
  expected.
-/

namespace HomeLedger

namespace Message

-- ---------------------------------------------------------------------------
-- Looking fields up
-- ---------------------------------------------------------------------------

/-- A field is found if there is one of its name, and all of that name say the
same. Of several the last one counts, which no sender should rely on. -/
theorem field?_eq_some {pairs : List (String × String)} {name value : String}
    (hMem : (name, value) ∈ pairs) (hSame : ∀ value', (name, value') ∈ pairs → value' = value) :
    field? pairs name = some value := by
  unfold field?
  cases hFind : pairs.reverse.find? (·.1 == name) with
  | none =>
    have := List.find?_eq_none.mp hFind (name, value) (List.mem_reverse.mpr hMem)
    simp at this
  | some found =>
    obtain ⟨name', value'⟩ := found
    obtain rfl : name' = name := by simpa using List.find?_some hFind
    have hFound : (name', value') ∈ pairs := List.mem_reverse.mp (List.mem_of_find?_eq_some hFind)
    rw [Option.map_some, hSame value' hFound]

theorem field?_eq_none {pairs : List (String × String)} {name : String}
    (h : ∀ value, (name, value) ∉ pairs) : field? pairs name = none := by
  unfold field?
  rw [Option.map_eq_none_iff, List.find?_eq_none]
  rintro ⟨name', value⟩ hMem
  have hPair : (name', value) ∈ pairs := List.mem_reverse.mp hMem
  have hne : name' ≠ name := by
    rintro rfl
    exact h value hPair
  simpa using hne

end Message

namespace Channel

open Message

variable {ch : Channel} {scheme host : String} {url : Url}

-- ---------------------------------------------------------------------------
-- Hosts
-- ---------------------------------------------------------------------------

/-- A word is the same host in every scheme if it consists of letters and is a
domain as it stands. In some schemes a host is read as a domain, which folds
letters, and in all others it is kept as it is. -/
theorem isHostWord_of_domain {word : String} (hAlpha : word.toList.all Char.isAlpha = true)
    (hNonempty : word.toList ≠ []) (hLocalhost : word ≠ "localhost")
    (hPlain : Host.ofPlain word.toList = .ok (.name word))
    (hBracket : Host.bracketed? word.toList = none)
    (hDecoded : Text.decodeUtf8 (Url.percentDecode word.toList) = word.toList)
    (hDomain : Url.domain? word.toList = some word.toList)
    (hNumber : Url.endsInNumber word.toList = false) : Url.IsHostWord word := by
  have hSpecial : Host.ofSpecial word.toList = .ok (.name word) := by
    unfold Host.ofSpecial
    simp only [hBracket, hDecoded, hDomain, hNumber, String.ofList_toList,
      Bool.false_eq_true, if_false]
  exact ⟨hPlain, hSpecial, List.all_eq_true.mp hAlpha, hNonempty, hLocalhost⟩

theorem isHostWord_commandHost : Url.IsHostWord commandHost :=
  isHostWord_of_domain (by decide) (by decide) (by decide) rfl rfl (by decide)
    (by decide) (by decide)

theorem isHostWord_resultHost : Url.IsHostWord resultHost :=
  isHostWord_of_domain (by decide) (by decide) (by decide) rfl rfl (by decide)
    (by decide) (by decide)

-- ---------------------------------------------------------------------------
-- Messages of a kind
-- ---------------------------------------------------------------------------

/-- A URL is a message of a channel, of the kind that a host stands for. The
fields do not matter for this, so it can be told before any of them is read. -/
structure From (ch : Channel) (host : String) (url : Url) : Prop where
  scheme : url.scheme = ch.scheme
  host : url.hostText = host

namespace From

theorem addPairs (h : ch.From host url) (pairs : List (String × String)) :
    ch.From host (url.addPairs pairs) :=
  ⟨h.scheme, h.host⟩

theorem expect_eq_ok (h : ch.From host url) : ch.expect host url = .ok () := by
  unfold expect
  rw [if_neg (not_not_intro h.scheme), if_neg (not_not_intro h.host)]

/-- A message of another kind is refused, and the error tells its kind. -/
theorem expect_eq_error (h : ch.From host url) {other : String} (hne : host ≠ other) :
    ch.expect other url = .error (.wrongHost host) := by
  unfold expect
  rw [if_neg (not_not_intro h.scheme), h.host, if_pos hne]

end From

/-- In every scheme there is a message of each kind without any fields. This is
where the scheme has to be one: anything else in its place would not be read as
a URL. -/
theorem exists_blank (hScheme : Url.isScheme scheme = true) (hHost : Url.IsHostWord host)
    (f : Formatting) :
    ∃ url, (ofScheme scheme f).blank host = .ok url ∧ (ofScheme scheme f).From host url ∧
      url.query = none := by
  obtain ⟨hLower, hSame⟩ := Url.lower_of_isScheme hScheme
  obtain ⟨path, hRead⟩ := Url.read_scheme_host hLower hSame hHost
  refine ⟨⟨Text.lower scheme, true, "", some (.name host), none, path, none, none⟩, ?_,
    ⟨rfl, rfl⟩, rfl⟩
  rw [blank, show (ofScheme scheme f).scheme = Text.lower scheme from rfl, hRead]

end Channel

end HomeLedger
