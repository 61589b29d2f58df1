import HomeLedger.Formatting
import HomeLedger.Message
import HomeLedger.Toml.Read
import HomeLedger.Toml.Write

/-!
# HomeLedger — the configuration

What the user can choose, in a TOML file. Everything has a default, on its own: a file may say as
little as it likes, and what it says beyond the known fields is passed over. A file that cannot be
read is not the same as none: only where there is none the defaults are written
(`Config.loadOrCreate`).

A table of fields may also be written as an array of their values in order. The members of a table
are looked at in the order of their keys, and the items of an array in their own, so of two errors
the one of the lesser key or of the earlier item is reported. A number that nothing can hold is an
error wherever it stands.
-/

namespace HomeLedger

-- ---------------------------------------------------------------------------
-- Log levels
-- ---------------------------------------------------------------------------

/-- How much is logged. -/
inductive LogLevel where
  | off | error | warn | info | debug | trace
  deriving DecidableEq, Repr

namespace LogLevel

/-- Every level, from the least to the most. -/
def all : List LogLevel := [off, error, warn, info, debug, trace]

/-- The name of a level. -/
def name : LogLevel → String
  | off => "OFF"
  | error => "ERROR"
  | warn => "WARN"
  | info => "INFO"
  | debug => "DEBUG"
  | trace => "TRACE"

/-- The level of a name, up to the case of ASCII letters. -/
def ofName? (s : String) : Option LogLevel := all.find? (Text.equalFold ·.name s)

end LogLevel

-- ---------------------------------------------------------------------------
-- The configuration
-- ---------------------------------------------------------------------------

/-- What the user can choose. -/
structure Config where
  formatting : Formatting := {}
  /-- The scheme of URLs with messages. -/
  messageScheme : String := Channel.defaultScheme
  /-- The account that is selected in a new ledger. -/
  defaultAccount : Option String := none
  logLevel : String := "info"
  /-- Whether to warn of words with two meanings. -/
  warnOnCollisions : Bool := true
  deriving DecidableEq, Repr

namespace Config

/-- The level of the log; an unknown name means the usual one. -/
def level (c : Config) : LogLevel := (LogLevel.ofName? c.logLevel).getD .info

/-- Whether the level of the log is a known one. -/
def hasKnownLevel (c : Config) : Bool := (LogLevel.ofName? c.logLevel).isSome

/-- The channel for messages. -/
def channel (c : Config) : Channel := Channel.ofScheme c.messageScheme c.formatting

-- ---------------------------------------------------------------------------
-- Writing
-- ---------------------------------------------------------------------------

open Toml in
/-- The text of the configuration file. -/
def toFile (c : Config) : String :=
  let truth (b : Bool) : String := if b then "true" else "false"
  let account := match c.defaultAccount with
    | some name => writeTextEntry "default_account" name
    | none => ""
  writeTextEntry "message_scheme" c.messageScheme
    ++ account
    ++ writeTextEntry "log_level" c.logLevel
    ++ writeEntry "warn_on_abbreviation_collisions" (truth c.warnOnCollisions)
    ++ writeHeader "formatting"
    ++ writeTextEntry "currency_symbol" c.formatting.currencySymbol
    ++ writeTextEntry "currency_code" c.formatting.currencyCode
    ++ writeTextEntry "grouping_separator" c.formatting.groupingSeparator
    ++ writeEntry "fraction_digits" (String.ofList (Text.decimal c.formatting.places))
    ++ writeTextEntry "short_date_format" c.formatting.shortDatePattern
    ++ writeTextEntry "short_date_time_format" c.formatting.shortDateTimePattern

end Config

-- ---------------------------------------------------------------------------
-- Values of fields
-- ---------------------------------------------------------------------------

namespace Toml

/-- A character of a text that an error quotes. Control characters have escapes there, and so have a
double quote and a backslash. -/
def quoteChar (c : Char) : List Char :=
  match c with
  | '\t' => ['\\', 't']
  | '\n' => ['\\', 'n']
  | '\r' => ['\\', 'r']
  | '\x00' => ['\\', '0']
  | '"' => ['\\', '"']
  | '\\' => ['\\', '\\']
  | c =>
    if c.toNat < 0x20 ∨ 0x7F ≤ c.toNat ∧ c.toNat < 0xA0 then
      "\\u\x7b".toList ++ Nat.toDigits 16 c.toNat ++ ['\x7d']
    else [c]

/-- An integer in words. One that does not fit into 64 bits is said to be wider. -/
def describeInteger (i : Int) : String :=
  if -2 ^ 63 ≤ i ∧ i < 2 ^ 64 then s!"integer `{i}`"
  else if i < 2 ^ 127 then s!"integer `{i}` as i128"
  else s!"integer `{i}` as u128"

/-- A binary number in words. A finite one has a point. -/
def describeFloat (x : Binary64) : String :=
  let text := x.plainText
  let decimals := if x.isFinite && !text.contains '.' then ".0" else ""
  s!"floating point `{text}{decimals}`"

/-- What a value is, in words. -/
def describe : Toml → String
  | string s => "string \"" ++ String.ofList (s.toList.flatMap quoteChar) ++ "\""
  | integer i => describeInteger i
  | float x => describeFloat x
  | outsized _ => "number"
  | boolean b => s!"boolean `{b}`"
  | array _ | tables _ => "sequence"
  | table _ _ | dateTime _ => "map"

/-- What is wrong with a value where another one is expected. A number that nothing can hold is
wrong wherever it stands. -/
def refusal (expected : String) : Toml → String
  | outsized true => "integer number overflowed"
  | outsized false => "floating-point number overflowed"
  | v => s!"invalid type: {describe v}, expected {expected}"

/-- Refuses a value. -/
def refuse {α : Type} (expected : String) (value : Span × Toml) : Except Flaw α :=
  .error ⟨value.1, refusal expected value.2⟩

/-- A text. -/
def text (value : Span × Toml) : Except Flaw String :=
  match value.2 with
  | string s => .ok s
  | _ => refuse "a string" value

/-- A truth value. -/
def truth (value : Span × Toml) : Except Flaw Bool :=
  match value.2 with
  | boolean b => .ok b
  | _ => refuse "a boolean" value

/-- A natural number of at most 32 bits. A number of at most 64 bits has the right type all the
same. -/
def nat32 (value : Span × Toml) : Except Flaw UInt32 :=
  match value.2 with
  | integer i =>
    if 0 ≤ i ∧ i < 2 ^ 32 then .ok (UInt32.ofNat i.toNat)
    else if -2 ^ 63 ≤ i ∧ i < 2 ^ 64 then
      .error ⟨value.1, s!"invalid value: {describeInteger i}, expected u32"⟩
    else refuse "u32" value
  | _ => refuse "u32" value

/-- The members of a table in the order of their keys. -/
def sorted (members : Members) : Members := members.mergeSort fun a b => a.1 ≤ b.1

/-- The members of a record that has these fields: those of a table, or the items of an array in
order. A time is a record that has none of them. -/
def record (names : List String) (value : Span × Toml) : Except Flaw Members :=
  match value.2 with
  | table _ members => .ok (sorted members)
  | array items => .ok (names.zip items)
  | tables items =>
    .ok (names.zip (items.map fun (place, members) => (place, table .header members)))
  | dateTime _ => .ok []
  | _ => refuse "struct Formatting" value

/-- The flaw that stands with the least key. -/
def firstFlaw? (flaws : List (String × Flaw)) : Option Flaw :=
  ((flaws.mergeSort fun a b => a.1 ≤ b.1).head?).map (·.2)

mutual

/-- The first number in a value that nothing can hold. -/
def outsizedAt? (place : Span) : Toml → Option Flaw
  | outsized isWhole => some ⟨place, refusal "" (.outsized isWhole)⟩
  | array items => outsizedInItems? items
  | table _ members => firstFlaw? (outsizedInMembers members)
  | tables items => outsizedInTables? items
  | _ => none

/-- The first such number in the items of an array. -/
def outsizedInItems? : List (Span × Toml) → Option Flaw
  | [] => none
  | (place, item) :: items => outsizedAt? place item <|> outsizedInItems? items

/-- The first such number in each member that has one. -/
def outsizedInMembers : List (String × Span × Toml) → List (String × Flaw)
  | [] => []
  | (key, place, value) :: members =>
    ((outsizedAt? place value).map (key, ·)).toList ++ outsizedInMembers members

/-- The first such number in a list of tables. -/
def outsizedInTables? : List (Span × List (String × Span × Toml)) → Option Flaw
  | [] => none
  | (_, members) :: items => firstFlaw? (outsizedInMembers members) <|> outsizedInTables? items

end

/-- Passes over a value that no field wants. -/
def pass (value : Span × Toml) : Except Flaw Unit :=
  match outsizedAt? value.1 value.2 with
  | some flaw => .error flaw
  | none => .ok ()

end Toml

-- ---------------------------------------------------------------------------
-- Reading
-- ---------------------------------------------------------------------------

open Toml

/-- The formatting with the field of a name read from a value. -/
def Formatting.withField (f : Formatting) (name : String) (value : Span × Toml) :
    Except Flaw Formatting := do
  match name with
  | "currency_code" => return { f with currencyCode := ← text value }
  | "currency_symbol" => return { f with currencySymbol := ← text value }
  | "fraction_digits" => return { f with fractionDigits := ← nat32 value }
  | "grouping_separator" => return { f with groupingSeparator := ← text value }
  | "short_date_format" => return { f with shortDatePattern := ← text value }
  | "short_date_time_format" => return { f with shortDateTimePattern := ← text value }
  | _ =>
    pass value
    return f

/-- The formatting that a value denotes. -/
def Formatting.ofToml (value : Span × Toml) : Except Flaw Formatting := do
  let fields ← record ["currency_symbol", "currency_code", "grouping_separator",
    "fraction_digits", "short_date_format", "short_date_time_format"] value
  fields.foldlM (fun f (name, value) => f.withField name value) {}

namespace Config

/-- The configuration with the field of a name read from a value. -/
def withField (c : Config) (name : String) (value : Span × Toml) : Except Flaw Config := do
  match name with
  | "default_account" => return { c with defaultAccount := some (← Toml.text value) }
  | "formatting" => return { c with formatting := ← Formatting.ofToml value }
  | "log_level" => return { c with logLevel := ← Toml.text value }
  | "message_scheme" => return { c with messageScheme := ← Toml.text value }
  | "warn_on_abbreviation_collisions" => return { c with warnOnCollisions := ← truth value }
  | _ =>
    pass value
    return c

/-- The configuration in the root table of a file. -/
def ofMembers (members : Members) : Except Flaw Config :=
  (sorted members).foldlM (fun c (name, value) => c.withField name value) {}

/-- Why there is no configuration. -/
inductive LoadError where
  /-- There is no file. -/
  | missing
  /-- The file cannot be read. The report quotes the line that is wrong, and a text if it stands
  where something else is expected. -/
  | malformed (report : Report)
  deriving DecidableEq, Repr

/-- What says that there is no file. -/
def missingText : String := "Config file not found"

/-- The name of the configuration file. -/
def fileName : String := "config.toml"

/-- What is wrong with the file at a path, in words. -/
def LoadError.message (e : LoadError) (path : String := fileName) : String :=
  match e with
  | missing => missingText
  | malformed report => s!"Failed to parse config file '{path}': {report.text}"

/-- Whether an error says that there is no file. It is told by the words, so that a line which
quotes them says so too, and so does a path. -/
def LoadError.saysMissing (e : LoadError) (path : String := fileName) : Bool :=
  Text.occursIn missingText.toList (e.message path).toList

/-- The configuration in the text of a file. -/
def ofFile (file : String) : Except LoadError Config :=
  match Toml.read file with
  | .error flaw => .error (.malformed (report file flaw))
  | .ok members =>
    match ofMembers members with
    | .ok c => .ok c
    | .error flaw => .error (.malformed (report file flaw))

/-- The configuration in a file that may not be there. -/
def load : Option String → Except LoadError Config
  | none => .error .missing
  | some file => ofFile file

/-- The configuration, whether it has just been created, and the file at a path afterwards. Where
the file is said to be missing, the defaults are written. -/
def loadOrCreate (file : Option String) (path : String := fileName) :
    Except LoadError (Config × Bool × Option String) :=
  match load file with
  | .ok c => .ok (c, false, file)
  | .error e =>
    if e.saysMissing path then
      let c : Config := {}
      .ok (c, true, some c.toFile)
    else .error e

end Config

end HomeLedger
