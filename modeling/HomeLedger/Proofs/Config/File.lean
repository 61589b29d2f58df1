import HomeLedger.Proofs.Config.Fields
import HomeLedger.Proofs.Storage

/-!
# HomeLedger — the configuration file

A configuration is written as a file of two parts: the fields that are values,
and the formatting, a table behind them. Whatever the texts in it are, the
file is read again as the configuration that was written.

Main results:

* `ofFile_toFile` — a file that was written is read again.
* `saved_loads_again` — so is one that was saved, and what a file does not say
  is as the defaults have it.
-/

namespace HomeLedger

open Toml

-- ---------------------------------------------------------------------------
-- The lines of the file
-- ---------------------------------------------------------------------------

namespace Toml

instance (key : String) : Decidable (IsKey key) :=
  decidable_of_iff (key.toList ≠ [] ∧ key.toList.all isKeyChar = true)
    ⟨fun h => ⟨h.1, List.all_eq_true.mp h.2⟩, fun h => ⟨h.nonempty, List.all_eq_true.mpr h.chars⟩⟩

/-- The entry of a text. -/
def Line.ofText (key s : String) (isKey : IsKey key) : Line :=
  ⟨key, writeText s, .string s, isKey, writes_text s⟩

/-- The entry of a truth value. -/
def Line.ofTruth (key : String) (b : Bool) (isKey : IsKey key) : Line :=
  ⟨key, if b then "true" else "false", .boolean b, isKey, writes_boolean b⟩

/-- The entry of a natural number. -/
def Line.ofNat32 (key : String) (n : UInt32) (isKey : IsKey key) : Line where
  key := key
  text := String.ofList (Text.decimal n.toNat)
  value := .integer n.toNat
  isKey := isKey
  writes := by
    rw [String.toList_ofList]
    exact writes_natural (n.toNat_lt.trans (by decide))

/-- What is true of all that lines say is true of the members they are read as,
wherever these stand. Reading adds the place of each value, which no field looks
at. -/
theorem forall_members {members : Members} {lines : List Line}
    (hMembers : contents members = lines.map (·.content)) {p : String × Span × Toml → Prop}
    (h : ∀ l ∈ lines, ∀ place, p (l.key, place, l.value)) : ∀ m ∈ members, p m := by
  rintro ⟨key, place, v⟩ hm
  have hContent : (key, v) ∈ lines.map (·.content) := hMembers ▸ List.mem_map.mpr ⟨_, hm, rfl⟩
  obtain ⟨l, hl, hKey⟩ := List.mem_map.mp hContent
  obtain ⟨rfl, rfl⟩ := Prod.mk.inj hKey
  exact h l hl place

end Toml

namespace Formatting

/-- The entries of a formatting. -/
def lines (f : Formatting) : List Line :=
  [.ofText "currency_symbol" f.currencySymbol (by decide),
    .ofText "currency_code" f.currencyCode (by decide),
    .ofText "grouping_separator" f.groupingSeparator (by decide),
    .ofNat32 "fraction_digits" f.fractionDigits (by decide),
    .ofText "short_date_format" f.shortDatePattern (by decide),
    .ofText "short_date_time_format" f.shortDateTimePattern (by decide)]

/-- The entries of a formatting have the names of its fields, in their order. -/
theorem keys_lines (f : Formatting) : f.lines.map (·.key) = fieldNames := rfl

section

variable {f : Formatting} {members : Members}

/-- Each of these lines can be read, whatever the texts are. -/
theorem ofToml_line (place : Span) (origin : Origin) : ∀ l ∈ f.lines, ∀ spot,
    ∃ g, ofToml (place, .table origin [(l.key, spot, l.value)]) = .ok g := by
  simp only [lines, List.forall_mem_cons, ofToml_single]
  refine ⟨fun _ => ⟨_, rfl⟩, fun _ => ⟨_, rfl⟩, fun _ => ⟨_, rfl⟩, fun spot => ?_,
    fun _ => ⟨_, rfl⟩, fun _ => ⟨_, rfl⟩, by simp⟩
  exact ⟨_, bind_eq_ok.mpr ⟨_, nat32_toNat f.fractionDigits spot, rfl⟩⟩

/-- A table of these lines is read as nothing but the formatting. Each field has
its line, and no two lines have the same key. -/
theorem eq_of_isRead (hMembers : contents members = f.lines.map (·.content)) {place : Span}
    {origin : Origin} {g : Formatting} (hRead : IsRead (place, .table origin members) g) :
    g = f := by
  obtain ⟨fields, hFields, hFollows⟩ := hRead
  obtain rfl := Except.ok.inj hFields
  -- the members are looked at by sorted key, and no key occurs twice either way
  have hSorted : (contents (sorted members)).Perm (f.lines.map (·.content)) :=
    hMembers ▸ perm_contents_sorted members
  have hKeys : ((contents (sorted members)).map (·.1)).Nodup :=
    (hSorted.map _).nodup_iff.mpr (by rw [map_fst_content, keys_lines]; decide)
  have hMem : ∀ l ∈ f.lines, l.content ∈ contents (sorted members) :=
    fun l hl => hSorted.mem_iff.mpr (List.mem_map_of_mem hl)
  simp only [lines, List.forall_mem_cons] at hMem
  obtain ⟨hSymbol, hCode, hSeparator, hDigits, hDate, hDateTime, -⟩ := hMem
  have hSymbol := hFollows.currencySymbol.text_of_mem hKeys hSymbol
  have hCode := hFollows.currencyCode.text_of_mem hKeys hCode
  have hSeparator := hFollows.groupingSeparator.text_of_mem hKeys hSeparator
  have hDate := hFollows.shortDatePattern.text_of_mem hKeys hDate
  have hDateTime := hFollows.shortDateTimePattern.text_of_mem hKeys hDateTime
  obtain ⟨there, hDigits⟩ := hFollows.fractionDigits.of_mem hKeys hDigits
  have hDigits : g.fractionDigits = f.fractionDigits :=
    UInt32.toNat_inj.mp (Int.natCast_inj.mp (Toml.integer.inj hDigits).symm)
  obtain ⟨_, _, _, _, _, _⟩ := g
  simp only at hSymbol hCode hSeparator hDate hDateTime hDigits
  rw [hSymbol, hCode, hSeparator, hDate, hDateTime, hDigits]

end

end Formatting

namespace Config

/-- The lines in front of the formatting. -/
def lines (c : Config) : List Line :=
  .ofText "message_scheme" c.messageScheme (by decide) ::
    (c.defaultAccount.toList.map fun s => .ofText "default_account" s (by decide)) ++
    [.ofText "log_level" c.logLevel (by decide),
      .ofTruth "warn_on_abbreviation_collisions" c.warnOnCollisions (by decide)]

/-- The keys of the lines in front; only the account may be missing. -/
theorem keys_lines (c : Config) : c.lines.map (·.key) =
    "message_scheme" :: (if c.defaultAccount.isSome then ["default_account"] else []) ++
      ["log_level", "warn_on_abbreviation_collisions"] := by
  rw [lines]
  cases c.defaultAccount <;> rfl

/-- No key occurs twice, the formatting included, so that each field has one
line at most. -/
theorem nodup_keys (c : Config) : (c.lines.map (·.key) ++ ["formatting"]).Nodup := by
  rw [keys_lines]
  split <;> decide

/-- The text of the file is the lines one after the other, with the header of
the formatting between them. -/
theorem toList_toFile (c : Config) :
    c.toFile.toList = c.lines.flatMap (·.chars) ++ ((writeHeader "formatting").toList ++
      c.formatting.lines.flatMap (·.chars)) := by
  obtain ⟨formatting, scheme, account, level, warns⟩ := c
  cases account <;>
    simp [toFile, lines, Formatting.lines, Line.chars, Line.ofText, Line.ofTruth, Line.ofNat32,
      writeTextEntry, Formatting.places, String.toList_append]

/-- Each of the lines in front can be read, whatever the texts are. -/
theorem ofMembers_line (c : Config) : ∀ l ∈ c.lines, ∀ place,
    ∃ c', ofMembers [(l.key, place, l.value)] = .ok c' := by
  simp only [lines, List.forall_mem_append, List.forall_mem_cons, List.forall_mem_map,
    ofMembers_single]
  exact ⟨⟨fun _ => ⟨_, rfl⟩, fun _ _ _ => ⟨_, rfl⟩⟩, fun _ => ⟨_, rfl⟩, fun _ => ⟨_, rfl⟩, by simp⟩

/-- Members that say what these lines say, and a table with the formatting
behind them, are read as nothing but the configuration. An account that is not
named has no line, and then its field keeps its default, which is that none is
named. -/
theorem eq_of_follows {c c' : Config} {members table : Members}
    (hTable : contents table = c.formatting.lines.map (·.content))
    (hMembers : contents members =
      c.lines.map (·.content) ++ [("formatting", .table .header table)])
    (hFollows : Follows {} members c') : c' = c := by
  have hKeys : ((contents members).map (·.1)).Nodup := by
    rw [hMembers, List.map_append, map_fst_content]
    exact c.nodup_keys
  have hMem : ∀ l ∈ c.lines, l.content ∈ contents members :=
    fun l hl => hMembers ▸ List.mem_append_left _ (List.mem_map_of_mem hl)
  simp only [lines, List.forall_mem_append, List.forall_mem_cons, List.forall_mem_map] at hMem
  obtain ⟨⟨hScheme, hAccount⟩, hLevel, hWarns, -⟩ := hMem
  have hScheme := hFollows.messageScheme.text_of_mem hKeys hScheme
  have hLevel := hFollows.logLevel.text_of_mem hKeys hLevel
  obtain ⟨there, hWarns⟩ := hFollows.warnOnCollisions.of_mem hKeys hWarns
  have hWarns : c'.warnOnCollisions = c.warnOnCollisions := (Toml.boolean.inj hWarns).symm
  have hFormatting : c'.formatting = c.formatting := by
    -- the table is a member like the others, and has the lines of the formatting
    have hThere : ("formatting", .table .header table) ∈ contents members := by
      rw [hMembers]
      exact List.mem_append_right _ List.mem_cons_self
    obtain ⟨there, hRead⟩ := hFollows.formatting.of_mem hKeys hThere
    exact Formatting.eq_of_isRead hTable hRead
  have hAccount : c'.defaultAccount = c.defaultAccount := by
    -- the account has a line only if there is one
    cases hAsked : c.defaultAccount with
    | none =>
      refine hFollows.defaultAccount.of_not_mem ?_
      rw [hMembers, List.map_append, map_fst_content, keys_lines, hAsked]
      show "default_account" ∉ ["message_scheme", "log_level", "warn_on_abbreviation_collisions",
        "formatting"]
      decide
    | some s =>
      obtain ⟨there, s', hs', hEq⟩ := hFollows.defaultAccount.of_mem hKeys
        (hAccount s (by simp [hAsked]))
      rw [hEq, Toml.string.inj hs']
  obtain ⟨_, _, _, _, _⟩ := c'
  simp only at hScheme hLevel hWarns hFormatting hAccount
  rw [hScheme, hLevel, hWarns, hFormatting, hAccount]

/-- A file that was written is read again. The texts in it may hold anything,
since quotes and breaks are escaped where no form holds them as they are. -/
theorem ofFile_toFile (c : Config) : ofFile c.toFile = .ok c := by
  have hInner : (c.formatting.lines.map (·.key)).Nodup := by
    rw [Formatting.keys_lines]
    decide
  obtain ⟨front, place, table, hRead, hFront, hTable⟩ :=
    read_lines (by decide) c.nodup_keys hInner (toList_toFile c)
  -- each member can be read by itself, which is enough for all of them together
  have hAll : ∀ m ∈ front ++ [("formatting", place, .table .header table)],
      ∃ c', ofMembers [m] = .ok c' := by
    rw [List.forall_mem_append, List.forall_mem_singleton, ofMembers_single]
    refine ⟨forall_members hFront c.ofMembers_line, ?_⟩
    obtain ⟨f, hf⟩ := (Formatting.ofToml_table_iff place .header table).mpr
      (forall_members hTable (Formatting.ofToml_line place .header))
    exact ⟨_, bind_eq_ok.mpr ⟨f, hf, rfl⟩⟩
  obtain ⟨c', hc'⟩ := (ofMembers_iff _).mpr hAll
  obtain rfl : c' = c := by
    refine eq_of_follows hTable ?_ (ofMembers_follows hc')
    rw [← hFront]
    exact List.map_append
  rw [ofFile, hRead]
  simp only [hc']

-- ---------------------------------------------------------------------------
-- Saving and loading
-- ---------------------------------------------------------------------------

/-- A configuration that is saved in a directory is loaded again as it was. A
file of any kind can be loaded if each of its members can be on its own, and
what it does not say, in the formatting or outside of it, is as the defaults
have it. -/
theorem saved_loads_again :
    (∀ (c : Config) (d : Directory), ∃ d', d.lockedWrite fileName c.toFile = (true, d') ∧
        load (d'.read? fileName) = .ok c) ∧
    ∀ file members, Toml.read file = .ok members →
      ((∃ c, load (some file) = .ok c) ↔ ∀ m ∈ members, ∃ c, ofMembers [m] = .ok c) ∧
      ∀ c, load (some file) = .ok c → Follows {} members c := by
  have hPath : Destination.ofPath? fileName = some ⟨fileName, true, false⟩ := by decide +kernel
  refine ⟨fun c d => ⟨_, Directory.lockedWrite_eq hPath (by decide) d c.toFile, ?_⟩, ?_⟩
  · rw [Directory.read?_atomicWrite, load]
    exact ofFile_toFile c
  · intro file members hRead
    have hLoad : ∀ c, load (some file) = .ok c ↔ ofMembers members = .ok c := by
      intro c
      rw [load, ofFile, hRead]
      cases hMembers : ofMembers members <;> simp [hMembers]
    simp only [hLoad]
    exact ⟨ofMembers_iff members, fun c hc => ofMembers_follows hc⟩

/-- A configuration with all sorts of quotes, breaks and control characters. -/
def quoted : Config where
  formatting :=
    { currencySymbol := "\"\"\"\n'''\\", currencyCode := "", groupingSeparator := "\r\n"
      fractionDigits := 4294967295, shortDatePattern := "'\"", shortDateTimePattern := "\x00\x7f" }
  messageScheme := "\\u0041"
  defaultAccount := some "[formatting]\n# ''''"
  logLevel := "\ufeff"
  warnOnCollisions := false

/-- A file that says next to nothing. -/
def sparse : String := "\n[formatting]\ncurrency_code = \"EUR\"\n"

/-- All these texts come back from the file, and what the other file says is
kept where it says it. -/
theorem quoted_loads_again :
    (∃ d', Directory.lockedWrite [] fileName quoted.toFile = (true, d') ∧
      load (d'.read? fileName) = .ok quoted) ∧
    ∃ members, Toml.read sparse = .ok members ∧ ∃ c, load (some sparse) = .ok c ∧
      c.logLevel = "info" ∧ c.formatting.currencyCode = "EUR" ∧
      c.formatting.currencySymbol = "$" := by
  obtain ⟨front, place, table, hRead, hFront, hTable⟩ :=
    @read_lines sparse "formatting" [] [.ofText "currency_code" "EUR" (by decide)] (by decide)
      (by decide) (by decide) rfl
  obtain rfl := List.map_eq_nil_iff.mp hFront
  refine ⟨saved_loads_again.1 quoted [], _, hRead, ?_⟩
  obtain ⟨hLoads, hSays⟩ := saved_loads_again.2 sparse _ hRead
  obtain ⟨f, hf⟩ := (Formatting.ofToml_table_iff place .header table).mpr <|
    forall_members hTable fun l hl spot => by
      obtain rfl := List.mem_singleton.mp hl
      rw [Formatting.ofToml_single]
      exact ⟨_, rfl⟩
  -- the one table is read, and all other fields are the defaults
  obtain ⟨c, hc⟩ := hLoads.mpr <| by
    rw [List.nil_append, List.forall_mem_singleton, ofMembers_single]
    exact ⟨_, bind_eq_ok.mpr ⟨f, hf, rfl⟩⟩
  have hFollows := hSays c hc
  have hLevel : "log_level" ∉ ["formatting"] := by decide
  have hOne : ["formatting"].Nodup := by decide
  obtain ⟨there, fields, hFields, hFormatting⟩ :=
    hFollows.formatting.of_mem hOne List.mem_cons_self
  obtain rfl := Except.ok.inj hFields
  have hSorted : contents (sorted table) = [("currency_code", .string "EUR")] := by
    have hTable : contents table = [("currency_code", .string "EUR")] := hTable
    exact List.perm_singleton.mp (hTable ▸ perm_contents_sorted table)
  refine ⟨c, hc, hFollows.logLevel.of_not_mem hLevel, ?_, ?_⟩
  · refine hFormatting.currencyCode.text_of_mem ?_ ?_
    · rw [hSorted]
      decide
    · rw [hSorted]
      exact List.mem_cons_self
  · refine hFormatting.currencySymbol.of_not_mem ?_
    rw [hSorted]
    decide

end Config

end HomeLedger
