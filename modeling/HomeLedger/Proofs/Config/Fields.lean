import HomeLedger.Config
import HomeLedger.Proofs.Outcome
import HomeLedger.Proofs.Toml.File
import Mathlib.Data.List.Nodup

/-!
# HomeLedger — the fields of a configuration

A record is read from the members of a table, one after the other. A field
that has a member is as this member says, and a field that has none keeps its
default, whatever the other members are. The same is true of the formatting,
which is a record inside of the configuration.

Both records are read by steps. What one step does to all fields is stated
once for each record (`withField_follows`), and the rest follows from how
steps are put together.

Main results:

* `IsField.append` — a field, from one list of members to the next.
* `foldlM_ok_iff` — a record can be read if each member can be on its own.
* `Formatting.Follows`, `Config.Follows` — what all members make of a record.
* `Config.ofMembers_follows` — a configuration is what its members say.
-/

namespace HomeLedger

open Toml

-- ---------------------------------------------------------------------------
-- Fields
-- ---------------------------------------------------------------------------

namespace Toml

/-- Whether a field is as the members of a record say: what a member with its
key is read as, or what it has been if no member has this key. Nothing is said
of other members, so that fields do not depend on each other. -/
def IsField {α : Type} (members : Members) (key : String) (reads : Span × Toml → α → Prop)
    (initial value : α) : Prop :=
  (∃ m ∈ members, m.1 = key ∧ reads m.2 value) ∨
    (key ∉ members.map (·.1) ∧ value = initial)

/-- Whether a value is a text. -/
def IsText (v : Span × Toml) (s : String) : Prop := v.2 = .string s

/-- Whether a value is a truth value. -/
def IsTruth (v : Span × Toml) (b : Bool) : Prop := v.2 = .boolean b

/-- Whether a value is a natural number of at most 32 bits. -/
def IsNat32 (v : Span × Toml) (n : UInt32) : Prop := v.2 = .integer n.toNat

theorem isText_of_ok {v : Span × Toml} {s : String} (h : text v = .ok s) : IsText v s := by
  obtain ⟨place, v⟩ := v
  cases v <;> cases h
  rfl

theorem isTruth_of_ok {v : Span × Toml} {b : Bool} (h : truth v = .ok b) : IsTruth v b := by
  obtain ⟨place, v⟩ := v
  cases v <;> cases h
  rfl

/-- A value that is read as a number of 32 bits is that number, and within its
bounds. -/
theorem isNat32_of_ok {v : Span × Toml} {n : UInt32} (h : nat32 v = .ok n) : IsNat32 v n := by
  obtain ⟨place, v⟩ := v
  unfold nat32 at h
  split at h
  · next i hi =>
    split at h
    · next hBounds =>
      obtain rfl := Except.ok.inj h
      have hlt : i.toNat < UInt32.size := by
        rw [show UInt32.size = 2 ^ 32 from rfl]
        omega
      have hNat : ((UInt32.ofNat i.toNat).toNat : Int) = i := by
        rw [UInt32.toNat_ofNat_of_lt' hlt, Int.toNat_of_nonneg hBounds.1]
      exact hi.trans (congrArg Toml.integer hNat.symm)
    · split at h <;> cases h
  · cases h

/-- A number of 32 bits is read again, as it is within the bounds. -/
theorem nat32_toNat (n : UInt32) (place : Span) : nat32 (place, .integer n.toNat) = .ok n := by
  have hBounds : (0 : Int) ≤ n.toNat ∧ (n.toNat : Int) < 2 ^ 32 := by
    have hlt := n.toNat_lt
    omega
  unfold nat32
  simp only
  rw [if_pos hBounds, Int.toNat_natCast, UInt32.ofNat_toNat]

section IsField

variable {α : Type} {members members' : Members} {name key : String} {v : Span × Toml}
  {reads : Span × Toml → α → Prop} {x y z : α}

theorem IsField.nil : IsField [] key reads x x := Or.inr ⟨List.not_mem_nil, rfl⟩

theorem IsField.own (h : reads v y) : IsField [(key, v)] key reads x y :=
  Or.inl ⟨(key, v), List.mem_cons_self, rfl, h⟩

theorem IsField.other (h : name ≠ key) : IsField [(name, v)] key reads x x := by
  refine Or.inr ⟨fun hMem => h ?_, rfl⟩
  exact (List.mem_singleton.mp hMem).symm

/-- Of two lists of members, the second one says what a field is in the end. For
records without repeated keys this is the one that has the key. -/
theorem IsField.append (h : IsField members key reads x y) (h' : IsField members' key reads y z) :
    IsField (members ++ members') key reads x z := by
  rcases h' with ⟨m, hm, hKey, hReads⟩ | ⟨hNone', rfl⟩
  · exact Or.inl ⟨m, List.mem_append_right _ hm, hKey, hReads⟩
  · rcases h with ⟨m, hm, hKey, hReads⟩ | ⟨hNone, rfl⟩
    · exact Or.inl ⟨m, List.mem_append_left _ hm, hKey, hReads⟩
    · refine Or.inr ⟨fun hMem => ?_, rfl⟩
      rw [List.map_append, List.mem_append] at hMem
      exact hMem.elim hNone hNone'

/-- The order of the members makes no difference, since a key stands for one
member wherever it is. The members of a file are sorted before they are read. -/
theorem IsField.perm (hPerm : members.Perm members') (h : IsField members key reads x y) :
    IsField members' key reads x y := by
  rcases h with ⟨m, hm, hKey, hReads⟩ | ⟨hNone, hy⟩
  · exact Or.inl ⟨m, hPerm.mem_iff.mp hm, hKey, hReads⟩
  · exact Or.inr ⟨fun hMem => hNone ((hPerm.map _).mem_iff.mpr hMem), hy⟩

/-- A field is read from its member if no key occurs twice. -/
theorem IsField.of_mem {w : Toml} (h : IsField members key reads x y)
    (hKeys : ((contents members).map (·.1)).Nodup) (hMem : (key, w) ∈ contents members) :
    ∃ place, reads (place, w) y := by
  rcases h with ⟨⟨key', place, w'⟩, hm, rfl, hReads⟩ | ⟨hNone, -⟩
  · have hMem' : (key', w') ∈ contents members := List.mem_map.mpr ⟨_, hm, rfl⟩
    obtain ⟨-, rfl⟩ := Prod.mk.inj (List.inj_on_of_nodup_map hKeys hMem' hMem rfl)
    exact ⟨place, hReads⟩
  · refine absurd ?_ hNone
    rw [← map_fst_contents]
    exact List.mem_map.mpr ⟨_, hMem, rfl⟩

/-- So it is for a text, which is what most fields are. -/
theorem IsField.text_of_mem {x y s : String} (h : IsField members key IsText x y)
    (hKeys : ((contents members).map (·.1)).Nodup)
    (hMem : (key, .string s) ∈ contents members) : y = s := by
  obtain ⟨place, hs⟩ := h.of_mem hKeys hMem
  exact (Toml.string.inj hs).symm

/-- A field without a member keeps what it has been. Read from the defaults,
that is its default, whatever is said of the other fields. -/
theorem IsField.of_not_mem (h : IsField members key reads x y)
    (hNone : key ∉ (contents members).map (·.1)) : y = x := by
  rcases h with ⟨m, hm, rfl, -⟩ | ⟨-, rfl⟩
  · rw [map_fst_contents] at hNone
    exact absurd (List.mem_map.mpr ⟨m, hm, rfl⟩) hNone
  · rfl

end IsField

-- ---------------------------------------------------------------------------
-- Records
-- ---------------------------------------------------------------------------

theorem perm_contents_sorted (members : Members) :
    (contents (sorted members)).Perm (contents members) :=
  (List.mergeSort_perm members _).map _

section Record

variable {β : Type}

/-- What single steps do to a record adds up to what all of them do. The
induction is on the members, and what is followed is put together by
appending. -/
theorem follows_foldlM {step : β → String → Span × Toml → Except Flaw β}
    {follows : β → Members → β → Prop} (hNil : ∀ b, follows b [] b)
    (hAppend : ∀ {b b' b'' ms ms'}, follows b ms b' → follows b' ms' b'' →
      follows b (ms ++ ms') b'')
    (hStep : ∀ {b b' name v}, step b name v = .ok b' → follows b [(name, v)] b')
    {members : Members} {b b' : β} (h : members.foldlM (fun b m => step b m.1 m.2) b = .ok b') :
    follows b members b' := by
  induction members generalizing b with
  | nil =>
    obtain rfl := Except.ok.inj h
    exact hNil b
  | cons m members ih =>
    rw [List.foldlM_cons] at h
    obtain ⟨b₁, hFirst, hRest⟩ := bind_eq_ok.mp h
    exact hAppend (hStep hFirst) (ih hRest)

/-- Where a step does not look at what there is, a record can be read if each of
its members can be read on its own. So it is one member alone that makes a file
wrong. -/
theorem foldlM_ok_iff (step : β → String → Span × Toml → Except Flaw β)
    (hStep : ∀ {b name v} b', (∃ r, step b name v = .ok r) → ∃ r, step b' name v = .ok r)
    (members : Members) (b : β) :
    (∃ r, members.foldlM (fun b m => step b m.1 m.2) b = .ok r) ↔
      ∀ m ∈ members, ∃ r, step b m.1 m.2 = .ok r := by
  induction members generalizing b with
  | nil => exact ⟨fun _ => by simp, fun _ => ⟨b, rfl⟩⟩
  | cons m members ih =>
    rw [List.forall_mem_cons, List.foldlM_cons]
    constructor
    · rintro ⟨r, hr⟩
      obtain ⟨b₁, hFirst, hRest⟩ := bind_eq_ok.mp hr
      exact ⟨⟨b₁, hFirst⟩, fun m hm => hStep b ((ih b₁).mp ⟨r, hRest⟩ m hm)⟩
    · rintro ⟨⟨b₁, hFirst⟩, hAll⟩
      obtain ⟨r, hRest⟩ := (ih b₁).mpr fun m hm => hStep b₁ (hAll m hm)
      exact ⟨r, bind_eq_ok.mpr ⟨b₁, hFirst, hRest⟩⟩

/-- A record with a single member is what a single step makes of the defaults. -/
theorem foldlM_sorted_singleton (step : β → String → Span × Toml → Except Flaw β)
    (m : String × Span × Toml) (b : β) :
    (sorted [m]).foldlM (fun b m => step b m.1 m.2) b = step b m.1 m.2 := by
  rw [sorted, List.mergeSort_singleton, List.foldlM_cons]
  simp only [List.foldlM_nil, bind_pure]

/-- The order of the keys makes no difference to that. -/
theorem foldlM_sorted_iff (step : β → String → Span × Toml → Except Flaw β)
    (hStep : ∀ {b name v} b', (∃ r, step b name v = .ok r) → ∃ r, step b' name v = .ok r)
    (members : Members) (b : β) :
    (∃ r, (sorted members).foldlM (fun b m => step b m.1 m.2) b = .ok r) ↔
      ∀ m ∈ members, ∃ r, (sorted [m]).foldlM (fun b m => step b m.1 m.2) b = .ok r := by
  simp only [foldlM_ok_iff step hStep, sorted, List.mem_mergeSort, List.mem_singleton, forall_eq]

end Record

end Toml

-- ---------------------------------------------------------------------------
-- Formatting
-- ---------------------------------------------------------------------------

namespace Formatting

/-- What members make of a formatting, field by field. -/
structure Follows (initial : Formatting) (members : Members) (f : Formatting) : Prop where
  currencySymbol : IsField members "currency_symbol" IsText initial.currencySymbol f.currencySymbol
  currencyCode : IsField members "currency_code" IsText initial.currencyCode f.currencyCode
  groupingSeparator : IsField members "grouping_separator" IsText initial.groupingSeparator
    f.groupingSeparator
  fractionDigits : IsField members "fraction_digits" IsNat32 initial.fractionDigits
    f.fractionDigits
  shortDatePattern : IsField members "short_date_format" IsText initial.shortDatePattern
    f.shortDatePattern
  shortDateTimePattern : IsField members "short_date_time_format" IsText
    initial.shortDateTimePattern f.shortDateTimePattern

variable {f f' f'' : Formatting} {members members' : Members} {name : String} {v : Span × Toml}

theorem Follows.nil (f : Formatting) : Follows f [] f :=
  ⟨.nil, .nil, .nil, .nil, .nil, .nil⟩

/-- Field by field, what two lists of members make of a formatting is what both
together make of it. -/
theorem Follows.append (h : Follows f members f') (h' : Follows f' members' f'') :
    Follows f (members ++ members') f'' where
  currencySymbol := h.currencySymbol.append h'.currencySymbol
  currencyCode := h.currencyCode.append h'.currencyCode
  groupingSeparator := h.groupingSeparator.append h'.groupingSeparator
  fractionDigits := h.fractionDigits.append h'.fractionDigits
  shortDatePattern := h.shortDatePattern.append h'.shortDatePattern
  shortDateTimePattern := h.shortDateTimePattern.append h'.shortDateTimePattern

/-- A step reads the field of its name, and keeps all the others. A name that no
field has keeps all of them. -/
theorem withField_follows (h : f.withField name v = .ok f') : Follows f [(name, v)] f' := by
  unfold withField at h
  split at h
  case h_7 hCode hSymbol hDigits hSeparator hDate hDateTime =>
    obtain ⟨-, -, h⟩ := bind_eq_ok.mp h
    obtain rfl := Except.ok.inj h
    exact ⟨.other hSymbol, .other hCode, .other hSeparator, .other hDigits, .other hDate,
      .other hDateTime⟩
  all_goals
    obtain ⟨x, hx, h⟩ := bind_eq_ok.mp h
    obtain rfl := Except.ok.inj h
    constructor
    all_goals first
      | exact .other (by decide)
      | exact .own (isText_of_ok hx)
      | exact .own (isNat32_of_ok hx)

/-- Whether a step succeeds is up to its member, and not to the formatting that
it is taken with. -/
theorem withField_ok (f' : Formatting) (h : ∃ r, f.withField name v = .ok r) :
    ∃ r, f'.withField name v = .ok r := by
  obtain ⟨r, h⟩ := h
  unfold withField at h ⊢
  split at h <;>
    · obtain ⟨x, hx, -⟩ := bind_eq_ok.mp h
      exact ⟨_, bind_eq_ok.mpr ⟨x, hx, rfl⟩⟩

/-- The fields in the order of an array. -/
def fieldNames : List String :=
  ["currency_symbol", "currency_code", "grouping_separator", "fraction_digits",
    "short_date_format", "short_date_time_format"]

/-- Whether a formatting is what the fields of a value make of the defaults. -/
def IsRead (v : Span × Toml) (f : Formatting) : Prop :=
  ∃ fields, record fieldNames v = .ok fields ∧ Follows {} fields f

/-- A value that is read as a formatting is one by its fields, a table by their
names and an array by their order. -/
theorem isRead_of_ok (h : ofToml v = .ok f) : IsRead v f := by
  obtain ⟨fields, hFields, hFold⟩ := bind_eq_ok.mp h
  exact ⟨fields, hFields, follows_foldlM Follows.nil Follows.append withField_follows hFold⟩

/-- A table is a formatting if each of its members is one on its own. -/
theorem ofToml_table_iff (place : Span) (origin : Origin) (members : Members) :
    (∃ f, ofToml (place, .table origin members) = .ok f) ↔
      ∀ m ∈ members, ∃ f, ofToml (place, .table origin [m]) = .ok f :=
  foldlM_sorted_iff withField withField_ok members {}

theorem ofToml_single (place : Span) (origin : Origin) (m : String × Span × Toml) :
    ofToml (place, .table origin [m]) = ({} : Formatting).withField m.1 m.2 :=
  foldlM_sorted_singleton withField m {}

end Formatting

-- ---------------------------------------------------------------------------
-- The configuration
-- ---------------------------------------------------------------------------

namespace Config

/-- What members make of a configuration, field by field. -/
structure Follows (initial : Config) (members : Members) (c : Config) : Prop where
  formatting : IsField members "formatting" Formatting.IsRead initial.formatting c.formatting
  messageScheme : IsField members "message_scheme" IsText initial.messageScheme c.messageScheme
  defaultAccount : IsField members "default_account" (fun v account => ∃ s, IsText v s ∧
    account = some s) initial.defaultAccount c.defaultAccount
  logLevel : IsField members "log_level" IsText initial.logLevel c.logLevel
  warnOnCollisions : IsField members "warn_on_abbreviation_collisions" IsTruth
    initial.warnOnCollisions c.warnOnCollisions

variable {c c' c'' : Config} {members members' : Members} {name : String} {v : Span × Toml}

theorem Follows.nil (c : Config) : Follows c [] c :=
  ⟨.nil, .nil, .nil, .nil, .nil⟩

/-- Field by field, what two lists of members make of a configuration is what
both together make of it. -/
theorem Follows.append (h : Follows c members c') (h' : Follows c' members' c'') :
    Follows c (members ++ members') c'' where
  formatting := h.formatting.append h'.formatting
  messageScheme := h.messageScheme.append h'.messageScheme
  defaultAccount := h.defaultAccount.append h'.defaultAccount
  logLevel := h.logLevel.append h'.logLevel
  warnOnCollisions := h.warnOnCollisions.append h'.warnOnCollisions

theorem Follows.perm (hPerm : members.Perm members') (h : Follows c members c') :
    Follows c members' c' where
  formatting := h.formatting.perm hPerm
  messageScheme := h.messageScheme.perm hPerm
  defaultAccount := h.defaultAccount.perm hPerm
  logLevel := h.logLevel.perm hPerm
  warnOnCollisions := h.warnOnCollisions.perm hPerm

/-- A step reads the field of its name, and keeps all the others. The formatting
is one field here, whatever is in it. -/
theorem withField_follows (h : c.withField name v = .ok c') : Follows c [(name, v)] c' := by
  unfold withField at h
  split at h
  case h_6 hAccount hFormatting hLevel hScheme hWarn =>
    obtain ⟨-, -, h⟩ := bind_eq_ok.mp h
    obtain rfl := Except.ok.inj h
    exact ⟨.other hFormatting, .other hScheme, .other hAccount, .other hLevel, .other hWarn⟩
  all_goals
    obtain ⟨x, hx, h⟩ := bind_eq_ok.mp h
    obtain rfl := Except.ok.inj h
    constructor
    all_goals first
      | exact .other (by decide)
      | exact .own (isText_of_ok hx)
      | exact .own (isTruth_of_ok hx)
      | exact .own (Formatting.isRead_of_ok hx)
      | exact .own ⟨x, isText_of_ok hx, rfl⟩

/-- Whether a step succeeds is up to its member, as it is for a formatting. -/
theorem withField_ok (c' : Config) (h : ∃ r, c.withField name v = .ok r) :
    ∃ r, c'.withField name v = .ok r := by
  obtain ⟨r, h⟩ := h
  unfold withField at h ⊢
  split at h <;>
    · obtain ⟨x, hx, -⟩ := bind_eq_ok.mp h
      exact ⟨_, bind_eq_ok.mpr ⟨x, hx, rfl⟩⟩

/-- A configuration is what the members of the file make of the defaults. So
what a file does not say is as the defaults have it. -/
theorem ofMembers_follows (h : ofMembers members = .ok c) : Follows {} members c :=
  (follows_foldlM Follows.nil Follows.append withField_follows h).perm
    (List.mergeSort_perm members _)

/-- Members are a configuration if each of them is one on its own. -/
theorem ofMembers_iff (members : Members) : (∃ c, ofMembers members = .ok c) ↔
    ∀ m ∈ members, ∃ c, ofMembers [m] = .ok c :=
  foldlM_sorted_iff withField withField_ok members {}

theorem ofMembers_single (m : String × Span × Toml) :
    ofMembers [m] = ({} : Config).withField m.1 m.2 :=
  foldlM_sorted_singleton withField m {}

end Config

end HomeLedger
