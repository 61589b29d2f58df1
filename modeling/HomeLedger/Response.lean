import HomeLedger.Json.Node
import HomeLedger.Json.Decode
import HomeLedger.Json.Write
import HomeLedger.Vocabulary

/-!
# HomeLedger — responses

Every command is answered with a response: whether it succeeded, a message for the user, and data
for programs. The data are members sorted by key (`Response.Data`), so that they do not tell in
which order a handler has put them in.
-/

namespace HomeLedger

-- ---------------------------------------------------------------------------
-- Data
-- ---------------------------------------------------------------------------

/-- The data of a response: members sorted by key. No key occurs twice, since a datum takes the
place of the one that has had its key. -/
@[ext] structure Response.Data where
  members : List (String × Json)
  sorted : Json.SortedMembers members
  deriving Repr

namespace Response.Data

/-- No data. -/
def empty : Data := ⟨[], List.Pairwise.nil⟩

/-- The data with one more member. -/
def insert (key : String) (value : Json) (d : Data) : Data :=
  ⟨Json.insert key value d.members, d.sorted.insert⟩

/-- The data with other values under the same keys. -/
def mapValues (change : String → Json → Json) (d : Data) : Data where
  members := d.members.map fun m => (m.1, change m.1 m.2)
  sorted := by
    rw [Json.SortedMembers, List.pairwise_map]
    exact d.sorted

end Response.Data

-- ---------------------------------------------------------------------------
-- Responses
-- ---------------------------------------------------------------------------

/-- The answer to a command. -/
structure Response where
  success : Bool
  message : String
  data : Option Response.Data := none
  deriving Repr

namespace Response

/-- The members of the data, if there are any. -/
def members (r : Response) : List (String × Json) := (r.data.getD .empty).members

/-- A success without data. -/
def ok (message : String) : Response := { success := true, message }

/-- A failure. -/
def failure (message : String) : Response := { success := false, message }

/-- The answer to a command that nothing handles. -/
def notImplemented (subject : Subject) (action : Action) : Response :=
  failure s!"Command not yet implemented: {subject.name} {action.name}"

/-- The response with one more member in its data. -/
def withData (r : Response) (key : String) (value : Json) : Response :=
  { r with data := some ((r.data.getD .empty).insert key value) }

/-- The response with a text in its data. -/
def withText (r : Response) (key value : String) : Response := r.withData key (.string value)

/-- A response in JSON. -/
def toJson (r : Response) : Json :=
  .object ([("success", .bool r.success), ("message", .string r.message)]
    ++ (r.data.map fun d => ("data", Json.object d.members)).toList)

/-- How deep data may be nested: they stand inside of a response. -/
def dataDepth : Nat := Node.maxDepth - 1

/-- The data that a node denotes. -/
def dataOfNode? (n : Node) : Option Data :=
  match h : n.toJson? dataDepth with
  | some (.object members) => some ⟨members, Node.sortedMembers_of_toJson? h⟩
  | _ => none

/-- The response that a node denotes. -/
def ofNode? (n : Node) : Option Response := do
  let members ← n.record? ["success", "message", "data"]
  return {
    success := ← Node.need members "success" Node.bool?
    message := ← Node.need members "message" Node.text?
    data := ← Node.needOr members "data" none (Node.option? dataOfNode?) }

/-- The response that a JSON text denotes. -/
def ofJson? (text : String) : Option Response := (Node.parse? text).bind ofNode?

end Response

end HomeLedger
