import HomeLedger.Parameter.Basic

/-!
# HomeLedger — reading parameters

The tokens behind the action of a line become parameters. The first ones fill the slots that the
action requires, whatever they look like; the rest are flags, switches and single tokens. Reading
never fails: an amount that is none becomes zero, and a date or a number that is none is kept as a
token, so that what is wrong with it is said in one place only, `Parameter.problem?`.
-/

namespace HomeLedger

/-- The value of a kind that a token denotes. -/
def Value.ofToken (f : Formatting) (today : Date) (kind : Kind) (token : String) : Value :=
  match kind with
  | .amount => .amount ((f.amount? token).getD Decimal.zero)
  | .date =>
    match f.date? token today with
    | some d => .date d
    | none => .unread .date token
  | .boolean => .boolean (meansYes token)
  | .number =>
    match Binary64.read? (Text.trim token.toList) with
    | some x => .number x
    | none => .unread .number token
  | .text => .text token
  | .member => .member token
  | .account => .account token

namespace Parameter

/-- A token in a required slot. -/
def ofSlot (f : Formatting) (today : Date) (kind : Kind) (token : String) : Parameter :=
  Parameter.placed .required kind.parameterName (Value.ofToken f today kind token) token

/-- A flag with a value. -/
def flag (name value : String) : Parameter := Parameter.placed .longFlag name (.text value) value

/-- A flag or a switch without a value. -/
def switch (place : Place) (name : String) : Parameter :=
  Parameter.placed place name (.boolean true) "true"

/-- A token on its own, by its number among the parameters that are not required. -/
def bare (number : Nat) (token : String) : Parameter :=
  Parameter.placed .positional s!"arg{number}" (.text token) token

/-- Whether a token begins a flag. -/
def isLongFlag (token : String) : Bool := "--".toList.isPrefixOf token.toList

/-- The parameters that are not required, of which `count` have been read already. A flag takes the
next token as its value unless that begins a flag itself. -/
def ofExtras (count : Nat) : List String → List Parameter
  | [] => []
  | token :: rest =>
    match Text.stripPrefix? "--" token, Text.stripPrefix? "-" token with
    | some name, _ =>
      match rest with
      | [] => [switch .longFlag name]
      | next :: rest =>
        if isLongFlag next then switch .longFlag name :: ofExtras (count + 1) (next :: rest)
        else flag name next :: ofExtras (count + 1) rest
    | none, some name => switch .shortFlag name :: ofExtras (count + 1) rest
    | none, none => bare count token :: ofExtras (count + 1) rest

/-- The parameters of the tokens behind an action. -/
def ofTokens (f : Formatting) (today : Date) (action : Action) (tokens : List String) :
    List Parameter :=
  List.zipWith (ofSlot f today) action.required tokens
    ++ ofExtras 0 (tokens.drop action.required.length)

end Parameter

end HomeLedger
