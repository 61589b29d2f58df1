import HomeLedger.Command.Basic
import HomeLedger.Json.Write

/-!
# HomeLedger — commands in JSON

The machine form of a command: an object with the names of its subject and action, its parameters
and its line. A value is an object of its kind and what it holds, in either order. An amount and a
date are strings, so that no digit is lost; a number that is not finite is written as `null` and
cannot be read again.
-/

namespace HomeLedger

-- ---------------------------------------------------------------------------
-- Writing
-- ---------------------------------------------------------------------------

/-- The tag of a value that is kept as a token. -/
def unreadTag : String := "unparsed"

namespace Value

/-- The tag of a value. -/
def tag : Value → String
  | unread _ _ => unreadTag
  | v => v.kind.name

/-- What a value holds. -/
def content : Value → Json
  | amount d => .string d.text
  | text s | member s | account s => .string s
  | date d => .string d.isoText
  | boolean b => .bool b
  | number x => .float x
  | unread kind token => .object [("kind", .string kind.name), ("raw", .string token)]

/-- A value in JSON. -/
def toJson (v : Value) : Json := .object [("type", .string v.tag), ("value", v.content)]

end Value

/-- A parameter in JSON. -/
def Parameter.toJson (p : Parameter) : Json :=
  .object [("name", .string p.name), ("value", p.value.toJson), ("raw", .string p.raw),
    ("is_required", .bool p.isRequired), ("source", .string p.place.name)]

/-- A command in JSON. -/
def Command.toJson (c : Command) : Json :=
  .object [("type", .string c.subject.name), ("action", .string c.action.name),
    ("parameters", .array (c.parameters.map (·.toJson))), ("raw_text", .string c.raw)]

-- ---------------------------------------------------------------------------
-- Reading
-- ---------------------------------------------------------------------------

namespace Value

/-- The tags of values: a kind, or none for a value that is kept as a token. -/
def tags : List (String × Option Kind) :=
  Kind.all.map (fun k => (k.name, some k)) ++ [(unreadTag, none)]

/-- The value of a kind that a node denotes. The kind of an unread token is a constant, which
`kind?` reads. -/
def ofContent? (kind? : Node → Option Kind) : Option Kind → Node → Option Value
  | some .amount, n => n.decimal?.map amount
  | some .text, n => n.text?.map text
  | some .date, n => n.date?.map date
  | some .member, n => n.text?.map member
  | some .account, n => n.text?.map account
  | some .boolean, n => n.bool?.map boolean
  | some .number, n => n.binary?.map number
  | none, .object members => do
    let members ← Node.record? ["kind", "raw"] (.object members)
    return unread (← Node.need members "kind" kind?) (← Node.need members "raw" Node.text?)
  | none, _ => none

/-- How deep the content of a value may be nested when it stands in front of its tag. It is then put
aside as a whole, and it is inside of a command, its parameters, a parameter and a value. -/
def asideDepth : Nat := Node.maxDepth - 4

/-- The value that a node denotes. -/
def ofNode? : Node → Option Value
  | .array [tag, content] => (Node.constant? tags tag).bind (ofContent? Kind.ofNode? · content)
  | .object members => do
    let known ← Node.record? ["type", "value"] (.object members)
    let tag ← Node.need known "type" (Node.constant? tags)
    let content ← Json.lookup? "value" known
    if known.head?.map (·.1) = some "value" then
      if (content.toJson? asideDepth).isNone then none
      else ofContent? (Node.constantAside? (Node.tagged Kind.name Kind.all)) tag content
    else ofContent? Kind.ofNode? tag content
  | _ => none

end Value

/-- The parameter that a node denotes. -/
def Parameter.ofNode? (n : Node) : Option Parameter := do
  let members ← n.record? ["name", "value", "raw", "is_required", "source"]
  return {
    name := ← Node.need members "name" Node.text?
    value := ← Node.need members "value" Value.ofNode?
    raw := ← Node.need members "raw" Node.text?
    isRequired := ← Node.need members "is_required" Node.bool?
    place := ← Node.need members "source" (Node.constant? (Node.tagged Place.name Place.all)) }

/-- The command that a node denotes. -/
def Command.ofNode? (n : Node) : Option Command := do
  let members ← n.record? ["type", "action", "parameters", "raw_text"]
  return {
    subject := ← Node.need members "type" (Node.constant? (Node.tagged Subject.name Subject.all))
    action := ← Node.need members "action" (Node.constant? (Node.tagged Action.name Action.all))
    parameters := ← Node.need members "parameters" (Node.list? Parameter.ofNode?)
    raw := ← Node.need members "raw_text" Node.text? }

/-- The command that a JSON text denotes. -/
def Command.ofJson? (text : String) : Option Command := (Node.parse? text).bind ofNode?

end HomeLedger
