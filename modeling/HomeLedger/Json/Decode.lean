import HomeLedger.Binary64.Shortest
import HomeLedger.Calendar.Instant
import HomeLedger.Decimal.Text
import HomeLedger.Json.Node

/-!
# HomeLedger — decoding JSON

How the nodes of a text become values of the library's types. A record is an object of named members
or an array of the same values in order. A member that the record does not have is passed over; one
that occurs twice is an error. A constant is its name, or an object whose only member has that name
and the value `null`. An amount is a string, or a number of either kind.
-/

namespace HomeLedger.Node

-- ---------------------------------------------------------------------------
-- Plain values
-- ---------------------------------------------------------------------------

/-- A text. -/
def text? : Node → Option String
  | .string s => s
  | _ => none

/-- A truth value. -/
def bool? : Node → Option Bool
  | .bool b => some b
  | _ => none

/-- A binary number; an integer is read as the nearest one. -/
def binary? : Node → Option Binary64
  | .number n =>
    match n.toJson? with
    | some (.integer i) => some (Binary64.ofRatio (i < 0) i.natAbs 1)
    | some (.float x) => some x
    | _ => none
  | _ => none

/-- A natural number of at most 32 bits. -/
def nat32? : Node → Option Nat
  | .number n =>
    match n.toJson? with
    | some (.integer i) => if 0 ≤ i ∧ i < 2 ^ 32 then some i.toNat else none
    | _ => none
  | _ => none

/-- An amount: the decimal in a string, an integer, or the decimal that a binary number is written
as. -/
def decimal? : Node → Option Decimal
  | .string s => s.bind fun s => Decimal.read s.toList
  | .number n =>
    match n.toJson? with
    | some (.integer i) => Decimal.ofInt? i
    | some (.float x) => Decimal.read x.plainText.toList
    | _ => none
  | _ => none

/-- A date in a string. -/
def date? (n : Node) : Option Date := n.text?.bind fun s => Date.ofIso? s.toList

/-- An instant in a string. -/
def instant? (n : Node) : Option Instant := n.text?.bind fun s => Instant.read? s.toList

-- ---------------------------------------------------------------------------
-- Compound values
-- ---------------------------------------------------------------------------

/-- An array of values. -/
def list? {α : Type} (decode : Node → Option α) : Node → Option (List α)
  | .array items => items.mapM decode
  | _ => none

/-- A value that may be `null`. -/
def option? {α : Type} (decode : Node → Option α) : Node → Option (Option α)
  | .null => some none
  | n => (decode n).map some

/-- Constants, each under its name. -/
def tagged {α : Type} (name : α → String) (all : List α) : List (String × α) :=
  all.map fun a => (name a, a)

/-- One of a list of constants, by its name. -/
def constant? {α : Type} (names : List (String × α)) : Node → Option α
  | .string s => s.bind (Json.lookup? · names)
  | .object [(some s, .null)] => Json.lookup? s names
  | _ => none

/-- One of a list of constants, in a node that was put aside before its reader was known: there an
empty object does for the `null`. -/
def constantAside? {α : Type} (names : List (String × α)) : Node → Option α
  | .object [(some s, .object [])] => Json.lookup? s names
  | n => constant? names n

-- ---------------------------------------------------------------------------
-- Records
-- ---------------------------------------------------------------------------

/-- The members of a record that has these names, in an object or in order in an array. -/
def record? (names : List String) : Node → Option (List (String × Node))
  | .array items => if items.length ≤ names.length then some (names.zip items) else none
  | .object members => do
    let members ← members.mapM fun (key, value) => key.map (·, value)
    let known := members.filter (names.contains ·.1)
    if names.all fun name => (known.filter (·.1 == name)).length ≤ 1 then some known else none
  | _ => none

/-- A member that has to be there. -/
def need {α : Type} (members : List (String × Node)) (name : String) (decode : Node → Option α) :
    Option α :=
  (Json.lookup? name members).bind decode

/-- A member that has a default. -/
def needOr {α : Type} (members : List (String × Node)) (name : String) (default : α)
    (decode : Node → Option α) : Option α :=
  match Json.lookup? name members with
  | some n => decode n
  | none => some default

end HomeLedger.Node
