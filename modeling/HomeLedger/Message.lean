import HomeLedger.Command.Basic
import HomeLedger.Parameter.Read
import HomeLedger.Response
import HomeLedger.Url.Basic

/-!
# HomeLedger — messages

Commands and responses travel between the participants of a chat as URLs:
`famzoo://command?type=account&action=balance&raw=a+b` and
`famzoo://result?success=true&message=...`. A parameter travels as its token and is read anew by the
receiver, on the receiver's day. A parameter without a name or a place is a text; that is how older
participants write them.

Reading depends on the pairs of a URL and not on their order: the last pair of each name counts.
-/

namespace HomeLedger

-- ---------------------------------------------------------------------------
-- Errors
-- ---------------------------------------------------------------------------

/-- Why a message is not written or not read. -/
inductive MessageError where
  | badUrl (why : UrlError)
  | wrongScheme (scheme : String)
  | wrongHost (host : String)
  | missingField (name : String)
  | unknownSubject (word : String)
  | unknownAction (word : String)
  | unknownKind (word : String)
  | unknownPlace (word : String)
  deriving DecidableEq, Repr

/-- What is wrong with a message, in words. -/
def MessageError.message : MessageError → String
  | badUrl why => s!"Invalid URL: {why.message}"
  | wrongScheme scheme => s!"Unexpected URL scheme '{scheme}'"
  | wrongHost host => s!"Unexpected message kind '{host}'"
  | missingField name => s!"Missing query item '{name}'"
  | unknownSubject word => s!"Unknown command type '{word}'"
  | unknownAction word => s!"Unknown command action '{word}'"
  | unknownKind word => s!"Unknown parameter type '{word}'"
  | unknownPlace word => s!"Unknown parameter source '{word}'"

-- ---------------------------------------------------------------------------
-- Fields
-- ---------------------------------------------------------------------------

namespace Message

/-- The host of a message with a command. -/
def commandHost : String := "command"

/-- The host of a message with a response. -/
def resultHost : String := "result"

/-- What the name of a field with data begins with. -/
def dataMark : String := "data_"

/-- The name of the field of a parameter. -/
def parameterField (i : Nat) : String := s!"param_{i}"

/-- The value of a field: that of the last pair of its name. -/
def field? (pairs : List (String × String)) (name : String) : Option String :=
  (pairs.reverse.find? (·.1 == name)).map (·.2)

/-- The value of a field that has to be there. -/
def field (pairs : List (String × String)) (name : String) : Except MessageError String :=
  match field? pairs name with
  | some value => .ok value
  | none => .error (.missingField name)

/-- What a word stands for, or an error that tells the word. -/
def known {α : Type} (unknown : String → MessageError) (resolve? : String → Option α)
    (word : String) : Except MessageError α :=
  match resolve? word with
  | some a => .ok a
  | none => .error (unknown word)

-- ---------------------------------------------------------------------------
-- Parameters
-- ---------------------------------------------------------------------------

/-- The fields of a parameter. -/
def parameterPairs (i : Nat) (p : Parameter) : List (String × String) :=
  [(parameterField i, p.raw), (parameterField i ++ "_type", p.kind.name),
    (parameterField i ++ "_name", p.name), (parameterField i ++ "_source", p.place.name)]

/-- Reads the parameter in the fields of a number. -/
def readParameter (f : Formatting) (today : Date) (pairs : List (String × String)) (i : Nat) :
    Except MessageError Parameter := do
  let name := parameterField i
  let raw ← field pairs name
  match field? pairs (name ++ "_type") with
  | none => .error (.missingField "param_N_type")
  | some word => do
    let kind ← known .unknownKind Kind.ofName? word
    match field? pairs (name ++ "_name"), field? pairs (name ++ "_source") with
    | some given, some word => do
      let place ← known .unknownPlace Place.ofName? word
      return Parameter.placed place given (Value.ofToken f today kind raw) raw
    | _, _ => return Parameter.placed .required name (.text raw) raw

/-- The numbers of the parameters: all up to the first that has no field. -/
def parameterNumbers (pairs : List (String × String)) : List Nat :=
  (List.range pairs.length).takeWhile fun i => (field? pairs (parameterField i)).isSome

end Message

-- ---------------------------------------------------------------------------
-- Channels
-- ---------------------------------------------------------------------------

/-- What the participants of a chat agree on: the scheme of their URLs, and how amounts and dates
are written. -/
structure Channel where
  scheme : String
  formatting : Formatting

namespace Channel

open Message

/-- The scheme, if none is chosen. -/
def defaultScheme : String := "famzoo"

/-- The channel of a scheme, whose case does not count. -/
def ofScheme (scheme : String) (formatting : Formatting) : Channel :=
  { scheme := Text.lower scheme, formatting }

/-- A URL of a host without pairs. -/
def blank (ch : Channel) (host : String) : Except MessageError Url :=
  match Url.read s!"{ch.scheme}://{host}" with
  | .ok url => .ok url
  | .error why => .error (.badUrl why)

/-- The URL in a text that somebody sent. -/
def readUrl (s : String) : Except MessageError Url :=
  match Url.read s with
  | .ok url => .ok url
  | .error why => .error (.badUrl why)

/-- Makes sure that a URL is of this channel and has a host. -/
def expect (ch : Channel) (host : String) (url : Url) : Except MessageError Unit :=
  if url.scheme ≠ ch.scheme then .error (.wrongScheme url.scheme)
  else if url.hostText ≠ host then .error (.wrongHost url.hostText)
  else .ok ()

-- ---------------------------------------------------------------------------
-- Commands
-- ---------------------------------------------------------------------------

/-- The fields of a command. -/
def commandPairs (c : Command) : List (String × String) :=
  [("type", c.subject.name), ("action", c.action.name), ("raw", c.raw)]
    ++ (c.parameters.zipIdx.flatMap fun (p, i) => parameterPairs i p)

/-- A command as a message. -/
def encodeCommand (ch : Channel) (c : Command) : Except MessageError Url := do
  return (← ch.blank commandHost).addPairs (commandPairs c)

/-- The command in the fields of a message. -/
def readCommand (f : Formatting) (today : Date) (pairs : List (String × String)) :
    Except MessageError Command := do
  let subject ← field pairs "type"
  let action ← field pairs "action"
  let raw ← field pairs "raw"
  let subject ← known .unknownSubject Subject.resolve? subject
  let action ← known .unknownAction Action.resolve? action
  let parameters ← (parameterNumbers pairs).mapM (readParameter f today pairs)
  return ⟨subject, action, parameters, raw⟩

/-- The command in a message. -/
def decodeCommand (ch : Channel) (today : Date) (url : Url) : Except MessageError Command := do
  ch.expect commandHost url
  readCommand ch.formatting today url.pairs

-- ---------------------------------------------------------------------------
-- Responses
-- ---------------------------------------------------------------------------

/-- A value of data as a text: a text as it is, all else in JSON. -/
def dataText : Json → String
  | .string s => s
  | j => j.compact

/-- The fields of a response to a command. -/
def responsePairs (c : Command) (r : Response) : List (String × String) :=
  [("success", if r.success then "true" else "false"), ("message", r.message), ("command", c.raw)]
    ++ r.members.map fun (key, value) => (dataMark ++ key, dataText value)

/-- The response to a command as a message. -/
def encodeResponse (ch : Channel) (c : Command) (r : Response) : Except MessageError Url := do
  return (← ch.blank resultHost).addPairs (responsePairs c r)

/-- The data in the fields of a message. -/
def readData (pairs : List (String × String)) : Response.Data :=
  pairs.foldl (fun data (name, value) =>
    match Text.stripPrefix? dataMark name with
    | some key => data.insert key (.string value)
    | none => data) .empty

/-- The response in the fields of a message. -/
def readResponse (pairs : List (String × String)) : Except MessageError Response := do
  let success ← field pairs "success"
  let message ← field pairs "message"
  let data := readData pairs
  return {
    success := success == "true"
    message
    data := if data.members.isEmpty then none else some data }

/-- The response in a message. Its data are texts. -/
def decodeResponse (ch : Channel) (url : Url) : Except MessageError Response := do
  ch.expect resultHost url
  readResponse url.pairs

end Channel

end HomeLedger
