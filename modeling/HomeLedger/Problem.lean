import HomeLedger.Json.Decode
import HomeLedger.Vocabulary

/-!
# HomeLedger — what may be wrong with a command

A line that is no command, or a command whose values are wrong, is answered with its problems in
words. `Problem.message` is the wording of one problem and `Problem.summary` that of several.
-/

namespace HomeLedger

/-- What is wrong with a line or with a command. -/
inductive Problem where
  /-- An action requires a value of this kind and has none. -/
  | missing (kind : Kind)
  /-- The value of the parameter of this name is none of its kind. -/
  | malformed (name : String)
  /-- The user may not do this. -/
  | forbidden
  | unknownAccount
  | unknownMember
  /-- An amount is zero or negative. -/
  | notPositive
  /-- The line is blank. -/
  | empty
  /-- The line does not begin with a subject and an action that it accepts. -/
  | unknownCommand
  deriving DecidableEq, Repr

namespace Problem

/-- A problem in words. -/
def message : Problem → String
  | missing kind => s!"Missing required parameter: {kind.name}"
  | malformed name => s!"Invalid format for parameter: {name}"
  | forbidden => "Insufficient permissions to execute this command"
  | unknownAccount => "Invalid or unknown account"
  | unknownMember => "Invalid or unknown member"
  | notPositive => "Amount must be greater than zero"
  | empty => "Command cannot be empty"
  | unknownCommand => "Unknown command"

/-- Several problems in words, on one line. -/
def summary (problems : List Problem) : String := "; ".intercalate (problems.map message)

-- ---------------------------------------------------------------------------
-- Machine form
-- ---------------------------------------------------------------------------

/-- The tags of the problems that say nothing more. -/
def plainTags : List (String × Problem) :=
  [("InsufficientPermissions", forbidden), ("InvalidAccount", unknownAccount),
    ("InvalidMember", unknownMember), ("InvalidAmount", notPositive), ("EmptyCommand", empty),
    ("UnknownCommand", unknownCommand)]

/-- A problem in JSON: its tag, which is the key of what it says if it says more. -/
def toJson : Problem → Json
  | missing kind => .object [("MissingRequiredParameter", .string kind.name)]
  | malformed name => .object [("InvalidParameterFormat", .string name)]
  | forbidden => .string "InsufficientPermissions"
  | unknownAccount => .string "InvalidAccount"
  | unknownMember => .string "InvalidMember"
  | notPositive => .string "InvalidAmount"
  | empty => .string "EmptyCommand"
  | unknownCommand => .string "UnknownCommand"

end Problem

/-- A kind by its exact name. -/
def Kind.ofNode? : Node → Option Kind := Node.constant? (Node.tagged Kind.name Kind.all)

/-- The problem that a node of JSON denotes. -/
def Problem.ofNode? : Node → Option Problem
  | .object [(some "MissingRequiredParameter", n)] => (Kind.ofNode? n).map missing
  | .object [(some "InvalidParameterFormat", n)] => n.text?.map malformed
  | n => Node.constant? plainTags n

/-- The problems that a record of them denotes. -/
def Problem.listOfNode? (n : Node) : Option (List Problem) := do
  let members ← n.record? ["errors"]
  Node.need members "errors" (Node.list? Problem.ofNode?)

end HomeLedger
