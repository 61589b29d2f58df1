import HomeLedger.Url.Form
import HomeLedger.Text.Replace
import HomeLedger.Url.Host

/-!
# HomeLedger — URLs

A URL is read as browsers do: blanks around it and line breaks inside of it do not count, the scheme
is in lower case, and the parts hold what they must not hold in encoded form. A scheme is *special*
if it is one of the web's; then a backslash is a slash, there has to be a host, and the path is
never empty.

* `Url.read` reads a URL that stands on its own.
* `Url.text` writes it; what was written in another way is written in this one.
* `Url.pairs` are the names and values in the query, and `Url.addPairs` appends to them.
-/

namespace HomeLedger

open Text

/-- A URL. Its parts are in encoded form. -/
structure Url where
  scheme : String
  /-- Whether `//` follows the scheme. -/
  hasAuthority : Bool
  /-- The name of a user, and behind a colon the password. -/
  user : String := ""
  host : Option Host := none
  /-- The port, if it is not the one that the scheme has anyway. -/
  port : Option Nat := none
  path : String
  query : Option String := none
  fragment : Option String := none
  deriving DecidableEq, Repr

namespace Url

-- ---------------------------------------------------------------------------
-- Schemes
-- ---------------------------------------------------------------------------

/-- The special schemes and their ports. -/
def specialPorts : List (String × Option Nat) :=
  [("http", some 80), ("https", some 443), ("ws", some 80), ("wss", some 443), ("ftp", some 21),
    ("file", none)]

/-- Whether a scheme is special. -/
def isSpecial (scheme : String) : Bool := specialPorts.any (·.1 == scheme)

/-- The port that a scheme has anyway. -/
def defaultPort? (scheme : String) : Option Nat :=
  (specialPorts.find? (·.1 == scheme)).bind (·.2)

/-- Reads the scheme, which begins with a letter and ends at a colon. -/
def readScheme? (cs : List Char) : Option (String × List Char) :=
  let isSchemeChar (c : Char) : Bool := c.isAlphanum || c == '+' || c == '-' || c == '.'
  let scheme := cs.takeWhile isSchemeChar
  match scheme.head?, cs.dropWhile isSchemeChar with
  | some c, ':' :: rest =>
    if c.isAlpha then some (String.ofList (scheme.map Char.toLower), rest) else none
  | _, _ => none

-- ---------------------------------------------------------------------------
-- Paths
-- ---------------------------------------------------------------------------

/-- Whether a character separates the segments of a path. -/
def isSlash (special : Bool) (c : Char) : Bool := c == '/' || (special && c == '\\')

/-- Whether a segment, a dot of which may be encoded, consists of so many dots. -/
def isDots (count : Nat) (segment : List Char) : Bool :=
  percentDecode segment == encodeUtf8 (List.replicate count '.')

/-- Whether a segment names a drive: a letter with a colon or a bar. -/
def isDrive : List Char → Bool
  | [c, d] => c.isAlpha && (d == ':' || d == '|')
  | _ => false

/-- A path while its segments are put on it. It holds them last one first and knows whether it
begins with the name of a drive. -/
structure PathUnder where
  segments : List (List Char) := []
  onDrive : Bool := false

/-- The path without its last segment; the name of a drive stays. -/
def PathUnder.up (p : PathUnder) : PathUnder :=
  match p.segments with
  | segment :: rest => if isDrive segment then p else { p with segments := rest }
  | [] => p

/-- Puts the first segment on the path of a file. The name of a drive gets its colon there, and what
stands behind the colon is a segment of its own. -/
def PathUnder.begin (p : PathUnder) (segment : List Char) : PathUnder :=
  match segment with
  | [] => { p with segments := [[]] }
  | c :: rest =>
    if isDrive segment then { segments := [[c, ':']], onDrive := true }
    else match rest with
      | ':' :: rest =>
        if c.isAlpha then { p with segments := [percentEncode unsafeInPath rest, [c, ':']] }
        else { p with segments := [percentEncode unsafeInPath segment] }
      | _ => { p with segments := [percentEncode unsafeInPath segment] }

/-- Puts a segment on a path: two dots take the last one away and one dot is passed over, but at the
end both leave an empty segment. -/
def PathUnder.put (isFile : Bool) (p : PathUnder) (segment : List Char) (isLast : Bool) :
    PathUnder :=
  let close (p : PathUnder) : PathUnder :=
    if isLast then { p with segments := [] :: p.segments } else p
  if isDots 2 segment then close p.up
  else if isDots 1 segment then close p
  else if isFile && p.segments.isEmpty then p.begin segment
  else { p with segments := percentEncode unsafeInPath segment :: p.segments }

/-- Puts segments on a path. -/
def PathUnder.putAll (isFile : Bool) (p : PathUnder) : List (List Char) → PathUnder
  | [] => p
  | segment :: rest => PathUnder.putAll isFile (p.put isFile segment rest.isEmpty) rest

/-- The text of a path. That of a file does not begin with empty segments. -/
def PathUnder.text (isFile : Bool) (p : PathUnder) : List Char :=
  let segments := p.segments.reverse
  '/' :: List.intercalate ['/'] (if isFile then segments.dropWhile List.isEmpty else segments)

/-- A path that begins at the root, where a slash in front of it is the root's. -/
def rootPath (special : Bool) (cs : List Char) : List Char :=
  let cs := match cs with
    | c :: rest => if isSlash special c then rest else c :: rest
    | [] => []
  (PathUnder.putAll false {} (cs.splitOnP (isSlash special))).text false

-- ---------------------------------------------------------------------------
-- Authorities
-- ---------------------------------------------------------------------------

/-- The length of the host in front of a port: up to a colon outside of brackets. -/
def hostLength (inBrackets : Bool) : List Char → Nat
  | [] => 0
  | ':' :: cs => if inBrackets then hostLength true cs + 1 else 0
  | '[' :: cs => hostLength true cs + 1
  | ']' :: cs => hostLength false cs + 1
  | _ :: cs => hostLength inBrackets cs + 1

/-- Reads a port behind its colon; a backslash behind it begins the path. -/
def readPort (scheme : String) (cs : List Char) : Except UrlError (Option Nat × List Char) :=
  let (digits, rest) := spanDigits cs
  let port := ofDecimal digits
  if 65535 < port then .error .badPort
  else if rest ≠ [] ∧ rest.head? ≠ some '\\' then .error .badPort
  else if digits = [] ∨ defaultPort? scheme = some port then .ok (none, rest)
  else .ok (some port, rest)

/-- The user of an authority in encoded form. A password that is empty is left out. -/
def userText (cs : List Char) : List Char :=
  let name := percentEncode unsafeInUser (cs.takeWhile (· != ':'))
  match cs.dropWhile (· != ':') with
  | ':' :: c :: password => name ++ ':' :: percentEncode unsafeInUser (c :: password)
  | _ => name

/-- The user of an authority and what follows it: the last `@` ends the user. -/
def splitUser (cs : List Char) : Option (List Char) × List Char :=
  match cs.reverse.dropWhile (· != '@') with
  | [] => (none, cs)
  | _ :: user => (some user.reverse, (cs.reverse.takeWhile (· != '@')).reverse)

/-- Reads what follows `//`: a user, a host and a port up to the path. `atEnd` says whether the URL
ends with this text. -/
def readAuthority (scheme : String) (atEnd : Bool) (cs : List Char) : Except UrlError Url := do
  let special := isSpecial scheme
  let authority := cs.takeWhile (!isSlash special ·)
  let path := cs.dropWhile (!isSlash special ·)
  let (user, rest) := splitUser authority
  if user = some [] ∧ rest = [] ∧ (path ≠ [] ∨ !atEnd) then throw .emptyHost
  let user := userText (user.getD [])
  let hostText := rest.take (hostLength false rest)
  let rest := rest.drop hostText.length
  if hostText = [] ∧ (special ∨ rest ≠ [] ∨ user ≠ []) then throw .emptyHost
  let host ← if special then Host.ofSpecial hostText else Host.ofPlain hostText
  let (port, rest) ← match rest with
    | ':' :: rest => readPort scheme rest
    | rest => pure (none, rest)
  let path := rest ++ path
  return {
    scheme
    hasAuthority := true
    user := String.ofList user
    host := if hostText = [] then none else some host
    port
    path := String.ofList (if path = [] ∧ !special then [] else rootPath special path) }

/-- The URL of a file. Its path, of which the root's slash has been read, may begin with the name of
a drive, and then there is no host. -/
def file (host : Option Host) (cs : List Char) : Url :=
  let path := PathUnder.putAll true {} (cs.splitOnP (isSlash true))
  { scheme := "file"
    hasAuthority := true
    host := if path.onDrive then none else host
    path := String.ofList (path.text true) }

/-- Reads what follows `file:`. Only behind two slashes there is a host, and neither `localhost` nor
the name of a drive is one. Without a host, the slash where it would end begins an empty segment. -/
def readFile (cs : List Char) : Except UrlError Url :=
  match cs with
  | a :: b :: rest =>
    if !isSlash true a then .ok (file none cs)
    else if !isSlash true b then .ok (file none (b :: rest))
    else
      let hostText := rest.takeWhile (!isSlash true ·)
      if hostText = [] ∨ isDrive hostText then .ok (file none rest)
      else do
        let behind := rest.drop hostText.length
        let host ← Host.ofSpecial hostText
        if host = .name "localhost" then return file none behind
        else return file (some host) (behind.drop 1)
  | [c] => .ok (file none (if isSlash true c then [] else [c]))
  | [] => .ok (file none [])

-- ---------------------------------------------------------------------------
-- Reading
-- ---------------------------------------------------------------------------

/-- The text without what does not count: blanks and control characters around it, line breaks and
tabs inside of it. -/
def significant (cs : List Char) : List Char :=
  let isOuter (c : Char) : Bool := c.toNat ≤ 0x20
  let inner := ((cs.dropWhile isOuter).reverse.dropWhile isOuter).reverse
  inner.filter fun c => c != '\t' && c != '\n' && c != '\r'

/-- The text before a separator and the text after it, if there is one. -/
def cut (sep : Char) (cs : List Char) : List Char × Option (List Char) :=
  match splitOnce sep cs with
  | some (front, back) => (front, some back)
  | none => (cs, none)

/-- Reads what stands between the scheme and the query. -/
def readFront (scheme : String) (atEnd : Bool) (cs : List Char) : Except UrlError Url :=
  if scheme = "file" then readFile cs
  else if isSpecial scheme then readAuthority scheme atEnd (cs.dropWhile (isSlash true))
  else match cs with
    | '/' :: '/' :: rest => readAuthority scheme atEnd rest
    | '/' :: rest =>
      .ok { scheme, hasAuthority := false, path := String.ofList (rootPath false ('/' :: rest)) }
    | cs =>
      .ok { scheme, hasAuthority := false, path := String.ofList (percentEncode isControl cs) }

/-- The URL that a text denotes. -/
def read (s : String) : Except UrlError Url := do
  let (rest, fragment) := cut '#' (significant s.toList)
  let (front, query) := cut '?' rest
  match readScheme? front with
  | none => throw .noScheme
  | some (scheme, rest) =>
    let url ← readFront scheme (query.isNone && fragment.isNone) rest
    let encoded (isUnsafe : Char → Bool) (part : Option (List Char)) : Option String :=
      part.map fun cs => String.ofList (percentEncode isUnsafe cs)
    return { url with
      query := encoded (unsafeInQuery (isSpecial scheme)) query
      fragment := encoded unsafeInFragment fragment }

-- ---------------------------------------------------------------------------
-- Writing
-- ---------------------------------------------------------------------------

/-- What stands between the scheme and the path. A path that begins with two slashes must not look
like an authority. -/
def authorityText (u : Url) : String :=
  if u.hasAuthority then
    let user := if u.user.isEmpty then "" else u.user ++ "@"
    let host := match u.host with
      | some host => host.text
      | none => ""
    let port := match u.port with
      | some n => String.ofList (':' :: decimal n)
      | none => ""
    "//" ++ user ++ host ++ port
  else if "//".toList.isPrefixOf u.path.toList then "/."
  else ""

/-- The text of a URL. -/
def text (u : Url) : String :=
  let behind (mark : String) (part : Option String) : String :=
    match part with
    | some s => mark ++ s
    | none => ""
  u.scheme ++ ":" ++ u.authorityText ++ u.path ++ behind "?" u.query ++ behind "#" u.fragment

/-- The host in words; none is the empty text. -/
def hostText (u : Url) : String :=
  match u.host with
  | some host => host.text
  | none => ""

-- ---------------------------------------------------------------------------
-- Pairs
-- ---------------------------------------------------------------------------

/-- The names and values in the query. -/
def pairs (u : Url) : List (String × String) := Form.read (u.query.getD "").toList

/-- The URL with pairs behind those in its query. -/
def addPairs (u : Url) (pairs : List (String × String)) : Url :=
  let old := (u.query.getD "").toList
  let new := Form.write pairs
  let joined := if old = [] ∨ pairs = [] then old ++ new else old ++ '&' :: new
  { u with query := some (String.ofList joined) }

end Url

end HomeLedger
