import HomeLedger.Toml.Outline
import HomeLedger.Toml.Scalar

/-!
# HomeLedger — reading TOML

The statements of an outline are carried out one after another, and a piece is only looked into when
its turn comes. So the first of two errors in a file is one of its outline, if there is any, and
else the one that comes first. A table that belongs to a list is put into it when it is finished,
behind the errors of its own entries.
-/

namespace HomeLedger.Toml

-- ---------------------------------------------------------------------------
-- Pieces
-- ---------------------------------------------------------------------------

/-- The text of a piece in quotes. A text without closing quotes is wrong at its end. What is wrong
within is counted from the closing quotes. -/
def Piece.text (p : Piece) (form : TextForm) : Except Flaw String :=
  match form.body? p.chars with
  | none =>
    .error (missingAt p.after s!"invalid {form.name}, expected `{String.ofList form.quotes}`")
  | some body =>
    match form.read body with
    | .ok cs => .ok (String.ofList cs)
    | .error flaw =>
      let end_ := p.after + form.quotes.length
      .error ⟨⟨end_ + flaw.span.start, end_ + flaw.span.stop⟩, flaw.words⟩

/-- Whether a character may stand in a key without quotes. -/
def isKeyChar (c : Char) : Bool := c.isAlphanum || c == '-' || c == '_'

/-- What is wrong with a key without quotes: it is empty, or it has a character that needs them. -/
def Piece.keyFlaw (p : Piece) : Flaw :=
  let words := "expected letters, numbers, `-`, `_`"
  if p.chars = [] then missingAt p.place s!"unquoted keys cannot be empty, {words}"
  else missingAt (p.place - (p.chars.takeWhile isKeyChar).length) s!"invalid unquoted key, {words}"

/-- The key that a piece is. -/
def Piece.key (p : Piece) : Except Flaw String :=
  match p.form with
  | some form =>
    if form.isMulti then
      .error ⟨p.span, s!"keys cannot be {form.name}s, expected basic string, literal string"⟩
    else p.text form
  | none =>
    if p.chars ≠ [] ∧ p.chars.all isKeyChar then .ok (String.ofList p.chars) else .error p.keyFlaw

/-- What a dotted key takes of the file. -/
def spanOfKey : List Piece → Span
  | [] => .empty 0
  | p :: ps => ⟨p.place, ((p :: ps).getLastD p).after⟩

/-- The path that a dotted key names. -/
def path (key : List Piece) : Except Flaw (List String) := do
  let path ← key.mapM Piece.key
  if maxDepth < path.length then .error (tooDeep (spanOfKey key)) else return path

/-- What is wrong with a key or a header that says what has been said. -/
def duplicate (place : Span) : Flaw := ⟨place, "duplicate key"⟩

-- ---------------------------------------------------------------------------
-- Values
-- ---------------------------------------------------------------------------

mutual

/-- The value of a piece, an array or a table, with its place. -/
def value : Content → Except Flaw (Span × Toml)
  | .piece p =>
    match p.form with
    | some form => (p.text form).map fun s => (p.span, .string s)
    | none =>
      match ofWord? p.chars with
      | some v => .ok (p.span, v)
      | none => .error ⟨p.span, wordWords p.chars⟩
  | .array place items => (values items).map fun items => (place, .array items)
  | .table place entries => (members [] entries).map fun members => (place, .table .closed members)

/-- The values of an array. -/
def values : List Content → Except Flaw (List (Span × Toml))
  | [] => .ok []
  | item :: items => do
    let v ← value item
    return v :: (← values items)

/-- The members of a table, put behind those that it has already. -/
def members (before : Members) : List (List Piece × Content) → Except Flaw Members
  | [] => .ok before
  | (key, content) :: entries => do
    let keys ← path key
    let v ← value content
    match putEntry (spanOfKey key) keys v before with
    | some after => members after entries
    | none => .error (duplicate (spanOfKey key))

end

-- ---------------------------------------------------------------------------
-- Files
-- ---------------------------------------------------------------------------

/-- A table that is being filled with entries: the root, a table that stands in it already, or one
that will be put into a list. -/
inductive Filling where
  | root
  | table (path : List String)
  | element (place : Span) (path : List String) (element : Members)

/-- Finishes a table. -/
def finish (root : Members) : Filling → Except Flaw Members
  | .element place path element =>
    match addElement place path element root with
    | some root => .ok root
    | none => .error (duplicate place)
  | _ => .ok root

/-- Puts an entry into the table that is being filled. -/
def fill? (root : Members) (filling : Filling) (put : Members → Option Members) :
    Option (Members × Filling) :=
  match filling with
  | .root => (put root).map (·, .root)
  | .table path => (descend false default put path root).map (·, .table path)
  | .element place path element =>
    (put element).map fun element => (root, .element place path element)

/-- Carries out statements, where `root` is what there is, and `filling` the table that entries go
into. -/
def carryOut (root : Members) (filling : Filling) : List Statement → Except Flaw Members
  | [] => finish root filling
  | .header place isElement key :: rest => do
    let root ← finish root filling
    let keys ← path key
    if isElement then carryOut root (.element place keys []) rest
    else match openTable place keys root with
      | some root => carryOut root (.table keys) rest
      | none => .error (duplicate (spanOfKey key))
  | .entry key content :: rest => do
    let keys ← path key
    let v ← value content
    match fill? root filling (putEntry (spanOfKey key) keys v) with
    | some (root, filling) => carryOut root filling rest
    | none => .error (duplicate (spanOfKey key))

/-- A file without the mark that tells its byte order. -/
def dropMark : List Char → List Char
  | '\uFEFF' :: cs => cs
  | cs => cs

/-- The root table of a file. -/
def read (text : String) : Except Flaw Members := do
  carryOut [] .root (← outline (dropMark text.toList))

end HomeLedger.Toml
