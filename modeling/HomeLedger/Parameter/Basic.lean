import HomeLedger.Binary64.Read
import HomeLedger.Decimal.OfBinary
import HomeLedger.Formatting
import HomeLedger.Problem
import HomeLedger.Token

/-!
# HomeLedger — parameters of a command

A parameter is a value with a name. It keeps the token that it was read from, so that it can be
written again and read in another way, and it knows in which place of the line it stood
(`Place`): in a slot that the action requires, in a flag `--name value` or `--name`, in a switch
`-name`, or on its own.

* `Parameter.problem?` is the rule that a value of each kind has to keep.
* `Parameter.tokens` writes a parameter as the tokens it was read from.
* `Parameter.display` writes it for the user, amounts and dates as the user writes them.
-/

namespace HomeLedger

-- ---------------------------------------------------------------------------
-- Values
-- ---------------------------------------------------------------------------

/-- The value of a parameter. -/
inductive Value where
  | amount (d : Decimal)
  | text (s : String)
  | date (d : Date)
  | member (s : String)
  | account (s : String)
  | boolean (b : Bool)
  | number (x : Binary64)
  /-- A token that is no value of the kind it should be. -/
  | unread (kind : Kind) (token : String)
  deriving DecidableEq, Repr

/-- The kind of a value. -/
def Value.kind : Value → Kind
  | amount _ => .amount
  | text _ => .text
  | date _ => .date
  | member _ => .member
  | account _ => .account
  | boolean _ => .boolean
  | number _ => .number
  | unread kind _ => kind

/-- The words that mean yes. -/
def yesWords : List String := ["true", "yes", "1", "on", "enable", "enabled"]

/-- Whether a token means yes, in any case. -/
def meansYes (token : String) : Bool := yesWords.contains (Text.lower token)

-- ---------------------------------------------------------------------------
-- Places
-- ---------------------------------------------------------------------------

/-- Where a parameter stands in a line. -/
inductive Place where
  /-- In a slot that the action requires. -/
  | required
  /-- Behind `--name`, or `--name` itself. -/
  | longFlag
  /-- In `-name`. -/
  | shortFlag
  /-- On its own, behind the required slots. -/
  | positional
  deriving DecidableEq, Repr

namespace Place

/-- Every place. -/
def all : List Place := [required, longFlag, shortFlag, positional]

/-- The name of a place in messages. -/
def name : Place → String
  | required => "required"
  | longFlag => "long_flag"
  | shortFlag => "short_flag"
  | positional => "positional"

/-- The place of an exact name. -/
def ofName? (s : String) : Option Place := all.find? (·.name == s)

end Place

-- ---------------------------------------------------------------------------
-- Parameters
-- ---------------------------------------------------------------------------

/-- A parameter of a command. -/
structure Parameter where
  name : String
  value : Value
  /-- The token that the value was read from. -/
  raw : String
  /-- Whether the parameter counts as one that the action requires. -/
  isRequired : Bool
  place : Place
  deriving DecidableEq, Repr

namespace Parameter

/-- A parameter at its place; those in a required slot count as required. -/
def placed (place : Place) (name : String) (value : Value) (raw : String) : Parameter :=
  { name, value, raw, isRequired := place == .required, place }

/-- The text of a value, without the marks that make it a token. -/
def plainText : Value → String
  | .amount d => d.text
  | .date d => d.isoText
  | .boolean b => if b then "true" else "false"
  | .number x => x.plainText
  | .text s | .member s | .account s | .unread _ s => s

/-- A value in a required slot, under the name that its kind has there. -/
def required (value : Value) : Parameter :=
  Parameter.placed .required value.kind.parameterName value (plainText value)

/-- The kind of a parameter is that of its value. -/
def kind (p : Parameter) : Kind := p.value.kind

-- ---------------------------------------------------------------------------
-- The value in other ways
-- ---------------------------------------------------------------------------

/-- The parameter as an amount: a number by its exact digits, all else by its token. -/
def decimal? (p : Parameter) : Option Decimal :=
  match p.value with
  | .amount d => some d
  | .number x => Decimal.ofBinary? x
  | _ => Decimal.read (Text.trim p.raw.toList)

/-- The date of a parameter. -/
def date? (p : Parameter) : Option Date :=
  match p.value with
  | .date d => some d
  | _ => none

/-- The parameter as a truth value: if it is none, whether its token means yes. -/
def isYes (p : Parameter) : Bool :=
  match p.value with
  | .boolean b => b
  | _ => meansYes p.raw

/-- The parameter as a number: if it is none, the one its token denotes. -/
def number? (p : Parameter) : Option Binary64 :=
  match p.value with
  | .number x => some x
  | _ => Binary64.read? (Text.trim p.raw.toList)

/-- The text of a parameter that is a text or names a member or an account. -/
def text? (p : Parameter) : Option String :=
  match p.value with
  | .text s | .member s | .account s => some s
  | _ => none

-- ---------------------------------------------------------------------------
-- What is wrong with it
-- ---------------------------------------------------------------------------

/-- The problem with a value, if there is one: an amount has to be positive, a text must not be
blank and a number has to be finite. -/
def problem? (p : Parameter) : Option Problem :=
  match p.value with
  | .amount d => if d.isPositive then none else some .notPositive
  | .text s | .member s | .account s => if Text.isAllBlank s then some (.malformed p.name) else none
  | .number x => if x.isFinite then none else some (.malformed p.name)
  | .date _ | .boolean _ => none
  | .unread _ _ => some (.malformed p.name)

-- ---------------------------------------------------------------------------
-- Writing
-- ---------------------------------------------------------------------------

/-- The tokens of a line that a parameter is read from. -/
def tokens (p : Parameter) : List String :=
  match p.place with
  | .required | .positional => [p.raw]
  | .shortFlag => ["-" ++ p.name]
  | .longFlag => if p.value = .boolean true then ["--" ++ p.name] else ["--" ++ p.name, p.raw]

/-- The value for the user: an amount and a date in the user's form, all else as its token. -/
def valueText (f : Formatting) (p : Parameter) : Except Fault String :=
  match p.value with
  | .amount d => f.currency d
  | .date d => .ok (f.shortDate d)
  | _ => .ok (quote p.raw)

/-- The parameter for the user, at the place where it stands. -/
def display (f : Formatting) (p : Parameter) : Except Fault String := do
  let value ← p.valueText f
  return match p.place with
    | .required | .positional => value
    | .shortFlag => "-" ++ p.name
    | .longFlag => if p.value = .boolean true then "--" ++ p.name else s!"--{p.name} {value}"

end Parameter

end HomeLedger
