import HomeLedger.Json.Numeral

/-!
# HomeLedger — reading JSON

A text is first read into a tree of nodes that follows its grammar, and the tree is then decoded.
The two steps are apart because a text may be well-formed where its value is not: a numeral may be
too large and a string may hold half of a surrogate pair. Such a node only matters if something
decodes it. Members that a decoder does not know are passed over, whatever they hold.

* `Node.parse?` accepts exactly one value, with blanks around its parts.
* `Node.toJson?` is the value of a node; arrays and objects may be nested to a limit.
-/

namespace HomeLedger

open Text

/-- A node of a JSON text. A string that holds half of a surrogate pair has no value. -/
inductive Node where
  | null
  | bool (b : Bool)
  | number (n : Numeral)
  | string (s : Option String)
  | array (items : List Node)
  | object (members : List (Option String × Node))
  deriving Repr

namespace Node

instance : Inhabited Node := ⟨.null⟩

-- ---------------------------------------------------------------------------
-- Strings
-- ---------------------------------------------------------------------------

/-- A piece of a string: a character, or the number of a UTF-16 unit. -/
inductive Piece where
  | char (c : Char)
  | unit (n : Nat)

/-- What the letter behind a backslash stands for. -/
def escaped? : Char → Option Char
  | '"' => some '"'
  | '\\' => some '\\'
  | '/' => some '/'
  | 'b' => some '\x08'
  | 'f' => some '\x0c'
  | 'n' => some '\n'
  | 'r' => some '\r'
  | 't' => some '\t'
  | _ => none

/-- The number that four hexadecimal digits denote. -/
def hexUnit? (a b c d : Char) : Option Nat := do
  return (((← hexValue? a) * 16 + (← hexValue? b)) * 16 + (← hexValue? c)) * 16 + (← hexValue? d)

/-- Reads the pieces of a string up to its closing quote. Control characters have to be escaped. -/
def readPieces? : List Char → Option (List Piece × List Char)
  | [] => none
  | '"' :: cs => some ([], cs)
  | '\\' :: 'u' :: a :: b :: c :: d :: cs => do
    let n ← hexUnit? a b c d
    let (pieces, rest) ← readPieces? cs
    return (.unit n :: pieces, rest)
  | '\\' :: c :: cs => do
    let c ← escaped? c
    let (pieces, rest) ← readPieces? cs
    return (.char c :: pieces, rest)
  | c :: cs =>
    if c.toNat < 0x20 ∨ c = '\\' then none
    else do
      let (pieces, rest) ← readPieces? cs
      return (.char c :: pieces, rest)

/-- The text of pieces: two units that make up a surrogate pair are one character, and half of a
pair is none. -/
def joinPieces? : List Piece → Option (List Char)
  | [] => some []
  | .char c :: rest => (joinPieces? rest).map (c :: ·)
  | .unit n :: .unit m :: rest =>
    if 0xD800 ≤ n ∧ n < 0xDC00 then
      if 0xDC00 ≤ m ∧ m < 0xE000 then
        (joinPieces? rest).map (Char.ofNat (0x10000 + (n - 0xD800) * 0x400 + (m - 0xDC00)) :: ·)
      else none
    else if 0xDC00 ≤ n ∧ n < 0xE000 then none
    else (joinPieces? (.unit m :: rest)).map (Char.ofNat n :: ·)
  | .unit n :: rest =>
    if 0xD800 ≤ n ∧ n < 0xE000 then none else (joinPieces? rest).map (Char.ofNat n :: ·)

/-- Reads a string behind its opening quote. -/
def readString? (cs : List Char) : Option (Option String × List Char) := do
  let (pieces, rest) ← readPieces? cs
  return ((joinPieces? pieces).map String.ofList, rest)

-- ---------------------------------------------------------------------------
-- Values
-- ---------------------------------------------------------------------------

/-- The blanks of the grammar. -/
def isJsonBlank (c : Char) : Bool := c == ' ' || c == '\n' || c == '\r' || c == '\t'

/-- Passes over blanks. -/
def skip (cs : List Char) : List Char := cs.dropWhile isJsonBlank

mutual

/-- Reads a value, behind any blanks. The first argument bounds the number of steps. -/
def read? : Nat → List Char → Option (Node × List Char)
  | 0, _ => none
  | steps + 1, cs =>
    match skip cs with
    | 'n' :: 'u' :: 'l' :: 'l' :: rest => some (.null, rest)
    | 't' :: 'r' :: 'u' :: 'e' :: rest => some (.bool true, rest)
    | 'f' :: 'a' :: 'l' :: 's' :: 'e' :: rest => some (.bool false, rest)
    | '"' :: rest => (readString? rest).map fun (s, rest) => (.string s, rest)
    | '[' :: rest =>
      match skip rest with
      | ']' :: rest => some (.array [], rest)
      | rest => (readItems? steps rest).map fun (items, rest) => (.array items, rest)
    | '{' :: rest =>
      match skip rest with
      | '}' :: rest => some (.object [], rest)
      | rest => (readMembers? steps rest).map fun (members, rest) => (.object members, rest)
    | rest => (Numeral.read? rest).map fun (n, rest) => (.number n, rest)

/-- Reads at least one item, up to the closing bracket. -/
def readItems? : Nat → List Char → Option (List Node × List Char)
  | 0, _ => none
  | steps + 1, cs => do
    let (item, rest) ← read? steps cs
    match skip rest with
    | ',' :: rest => do
      let (items, rest) ← readItems? steps rest
      return (item :: items, rest)
    | ']' :: rest => some ([item], rest)
    | _ => none

/-- Reads at least one member, up to the closing brace. -/
def readMembers? : Nat → List Char → Option (List (Option String × Node) × List Char)
  | 0, _ => none
  | steps + 1, cs =>
    match skip cs with
    | '"' :: rest => do
      let (key, rest) ← readString? rest
      match skip rest with
      | ':' :: rest => do
        let (value, rest) ← read? steps rest
        match skip rest with
        | ',' :: rest => do
          let (members, rest) ← readMembers? steps rest
          return ((key, value) :: members, rest)
        | '}' :: rest => some ([(key, value)], rest)
        | _ => none
      | _ => none
    | _ => none

end

/-- Reads a text that is a single value. Every second step takes at least one character, which
bounds their number. -/
def parse? (text : String) : Option Node := do
  let cs := text.toList
  let (node, rest) ← read? (2 * cs.length + 2) cs
  if (skip rest).isEmpty then some node else none

-- ---------------------------------------------------------------------------
-- The value of a node
-- ---------------------------------------------------------------------------

/-- How deep arrays and objects may be nested, less one. -/
def maxDepth : Nat := 127

mutual

/-- The value of a node whose arrays and objects are nested at most `depth` deep. -/
def toJson? (depth : Nat) : Node → Option Json
  | .null => some .null
  | .bool b => some (.bool b)
  | .number n => n.toJson?
  | .string s => s.map .string
  | .array items =>
    match depth with
    | 0 => none
    | depth + 1 => (itemsToJson? depth items).map .array
  | .object members =>
    match depth with
    | 0 => none
    | depth + 1 => (membersToJson? depth members).map .object

/-- The values of the items of an array. -/
def itemsToJson? (depth : Nat) : List Node → Option (List Json)
  | [] => some []
  | item :: items => do
    let value ← toJson? depth item
    let values ← itemsToJson? depth items
    return value :: values

/-- The members of an object, sorted by key; of members with the same key the last one counts. -/
def membersToJson? (depth : Nat) : List (Option String × Node) → Option (List (String × Json))
  | [] => some []
  | (key, node) :: members => do
    let key ← key
    let value ← toJson? depth node
    let rest ← membersToJson? depth members
    return if rest.any (·.1 == key) then rest else Json.insert key value rest

end

theorem sortedMembers_of_membersToJson? {depth : Nat} {members : List (Option String × Node)}
    {values : List (String × Json)} (h : membersToJson? depth members = some values) :
    Json.SortedMembers values := by
  induction members generalizing values with
  | nil =>
    obtain rfl := Option.some.inj h
    exact List.Pairwise.nil
  | cons member members ih =>
    simp only [membersToJson?, Option.bind_eq_bind, Option.bind_eq_some_iff] at h
    obtain ⟨key, -, value, -, rest, hRest, hValues⟩ := h
    obtain rfl := Option.some.inj hValues
    split
    · exact ih hRest
    · exact (ih hRest).insert

/-- The members of an object that is read are sorted, in whatever order they were written. -/
theorem sortedMembers_of_toJson? {depth : Nat} {n : Node} {members : List (String × Json)}
    (h : n.toJson? depth = some (.object members)) : Json.SortedMembers members := by
  cases n with
  | null => cases h
  | bool b => cases h
  | number n =>
    have hFloat : ∀ x : Option Binary64, x.map .float ≠ some (Json.object members) := by
      rintro (_ | x) hx <;> cases hx
    rw [toJson?] at h
    unfold Numeral.toJson? at h
    split at h
    · simp only at h
      split at h
      · cases h
      · split at h
        · cases h
        · exact absurd h (hFloat _)
    · exact absurd h (hFloat _)
  | string s => cases s <;> cases h
  | array items =>
    cases depth with
    | zero => cases h
    | succ depth =>
      obtain ⟨values, -, hValues⟩ := Option.map_eq_some_iff.mp h
      cases hValues
  | object fields =>
    cases depth with
    | zero => cases h
    | succ depth =>
      obtain ⟨values, hRead, hValues⟩ := Option.map_eq_some_iff.mp h
      obtain rfl := Json.object.inj hValues
      exact sortedMembers_of_membersToJson? hRead

end Node

end HomeLedger
