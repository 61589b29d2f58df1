import HomeLedger.Toml.Token

/-!
# HomeLedger — the outline of a TOML file

The outline says which pieces of a file are keys and values, and how they belong together. The
pieces have not been looked into yet. So a file with a misspelled number still has an outline, and a
bracket that is missing anywhere in a file is reported before it.

Statements end with their line; inside of brackets and braces, line breaks and comments may stand
between any two parts. Where a key or a value is missing, an empty piece stands for it. What is
wrong with a file stands at the token that does not belong there; at the end of the file, it stands
behind the last token that matters.
-/

namespace HomeLedger.Toml

-- ---------------------------------------------------------------------------
-- Outlines
-- ---------------------------------------------------------------------------

/-- A key or a value that has not been looked into, with its place. It has a form if it is in
quotes. -/
structure Piece where
  place : Nat
  form : Option TextForm
  chars : List Char
  deriving Repr

/-- The place behind a piece. -/
def Piece.after (p : Piece) : Nat := p.place - p.chars.length

/-- What a piece takes of the file. -/
def Piece.span (p : Piece) : Span := ⟨p.place, p.after⟩

/-- What stands for a key or a value that is missing. -/
def Piece.missing (place : Nat) : Piece := ⟨place, none, []⟩

/-- A value: a piece, an array of values, or a table of keys and values. -/
inductive Content where
  | piece (p : Piece)
  | array (place : Span) (items : List Content)
  | table (place : Span) (members : List (List Piece × Content))
  deriving Repr

instance : Inhabited Content := ⟨.piece (.missing 0)⟩

/-- A statement: a header, in double brackets or not, or an entry. -/
inductive Statement where
  | header (place : Span) (isElement : Bool) (key : List Piece)
  | entry (key : List Piece) (content : Content)
  deriving Repr

/-- How deep arrays and tables may be nested. -/
def maxDepth : Nat := 80

/-- What is wrong where something is missing in front of a place. -/
def missingAt (place : Nat) (words : String) : Flaw := ⟨.empty place, words⟩

/-- What is wrong with a value that is nested too deeply. -/
def tooDeep (place : Span) : Flaw := ⟨place, "cannot recurse further; max recursion depth met"⟩

-- ---------------------------------------------------------------------------
-- What lies between the parts
-- ---------------------------------------------------------------------------

/-- Whether a token lies between the parts. -/
def Token.isFiller (t : Token) : Bool :=
  t.kind == .blank || t.kind == .comment || t.kind == .lineBreak

/-- Whether what lies between the parts is written as it has to be: a comment holds no control
character, and a line does not end with a carriage return alone. -/
def Token.isSound (t : Token) : Bool :=
  match t.kind with
  | .comment => t.chars.all isLineChar
  | .lineBreak => t.chars != ['\r']
  | _ => true

/-- What is wrong with a token that is not written like that. -/
def Token.flaw (t : Token) : Flaw :=
  if t.kind = .comment then
    missingAt (t.place - (t.chars.takeWhile isLineChar).length)
      "invalid comment character, expected printable characters"
  else missingAt t.after "carriage return must be followed by newline, expected newline"

/-- Passes over blanks. -/
def skipBlanks (ts : List Token) : List Token := ts.dropWhile (·.kind == .blank)

/-- Passes over the rest of a line. Nothing but blanks and a comment may stand in it, unless it is
`spoilt` already. -/
def endLine (spoilt : Bool) : List Token → Except Flaw (List Token)
  | [] => .ok []
  | t :: ts =>
    if !t.isSound then .error t.flaw
    else if t.kind = .lineBreak then .ok ts
    else if t.isFiller || spoilt then endLine spoilt ts
    else .error (missingAt t.place "unexpected key or value, expected newline, `#`")

-- ---------------------------------------------------------------------------
-- Keys and words
-- ---------------------------------------------------------------------------

/-- Reads a key: pieces with dots in between. `isOpen` says whether a piece has to come next. The
result also tells whether no piece was missing at the end. -/
def readKey (isOpen : Bool) : List Token → List Piece × Bool × List Token
  | [] => if isOpen then ([.missing 0], false, []) else ([], true, [])
  | t :: ts =>
    match t.kind, isOpen with
    | .blank, _ => readKey isOpen ts
    | .dot, false => readKey true ts
    | .dot, true =>
      let (pieces, isWhole, rest) := readKey true ts
      (.missing t.place :: pieces, isWhole, rest)
    | .text form, true =>
      let (pieces, isWhole, rest) := readKey false ts
      (⟨t.place, some form, t.chars⟩ :: pieces, isWhole, rest)
    | .word, true =>
      let (pieces, isWhole, rest) := readKey false ts
      (⟨t.place, none, t.chars⟩ :: pieces, isWhole, rest)
    | _, true => ([.missing t.place], false, t :: ts)
    | _, false => ([], true, t :: ts)

/-- Reads on in a value without quotes: words and dots in a row, and blanks between two words. -/
def readWord : List Token → List Char × List Token
  | [] => ([], [])
  | t :: ts =>
    let goesOn : Bool := match t.kind, ts with
      | .word, _ | .dot, _ => true
      | .blank, u :: _ => u.kind == .word
      | _, _ => false
    if goesOn then
      let (cs, rest) := readWord ts
      (t.chars ++ cs, rest)
    else ([], t :: ts)

-- ---------------------------------------------------------------------------
-- Values
-- ---------------------------------------------------------------------------

/-- What has to come next in a table in braces. -/
inductive Wanted where
  | key
  | equals (key : List Piece)
  | value (key : List Piece)
  | comma

/-- What is wrong with a token in a table in braces where something else has to come. -/
def Wanted.words : Wanted → TokenKind → String
  | key, .comma => "extra comma in inline table, expected key"
  | key, _ => "missing key for inline table element, expected key"
  | equals _, _ => "missing assignment between key-value pairs, expected `=`"
  | value _, .equals => "extra assignment between key-value pairs, expected value"
  | value _, _ => "missing value between key-value pairs, expected value"
  | comma, .equals => "extra assignment between key-value pairs, expected `,`"
  | comma, _ => "missing comma between key-value pairs, expected `,`"

/-- What is wrong with a token in an array. If the array is `full`, a comma has to come, and else
the token is one that no value begins with. -/
def itemFlaw (full : Bool) (t : Token) : Flaw :=
  if t.kind = .equals then ⟨t.span, "unexpected `=` in array, expected value, `]`"⟩
  else if full then missingAt t.place "missing comma between array elements, expected `,`"
  else ⟨t.span, "extra comma in array, expected value"⟩

/-- What is wrong with a token where a value has to come. -/
def valueFlaw (t : Token) : Flaw :=
  match t.kind with
  | .equals => ⟨t.span, "extra `=`, expected nothing"⟩
  | .closeBracket => missingAt t.place "missing array opening, expected `[`"
  | .closeBrace => missingAt t.place "missing inline table opening, expected `\x7b`"
  | _ => tooDeep t.span

mutual

/-- Reads a value. The first argument bounds the number of steps, and arrays and tables may be
nested `room` deep. -/
def readContent : Nat → Nat → List Token → Except Flaw (Content × List Token)
  | 0, _, ts => .error (missingAt (placeOf ts) "missing value")
  | _, _, [] => .error (missingAt 0 "missing value")
  | steps + 1, room, t :: ts =>
    match t.kind, room with
    | .text form, _ => .ok (.piece ⟨t.place, some form, t.chars⟩, ts)
    | .word, _ | .dot, _ =>
      let (cs, rest) := readWord (t :: ts)
      .ok (.piece ⟨t.place, none, cs⟩, rest)
    | .openBracket, room + 1 => do
      let (items, rest) ← readItems steps room false t.after ts
      return (.array ⟨t.place, placeOf rest⟩ items, rest)
    | .openBrace, room + 1 => do
      let (members, rest) ← readMembers steps room .key t.after ts
      return (.table ⟨t.place, placeOf rest⟩ members, rest)
    | _, _ => .error (valueFlaw t)

/-- Reads the items of an array up to its bracket. `full` says whether a comma has to come next, and
`last` is the place behind the last token that mattered. -/
def readItems : Nat → Nat → Bool → Nat → List Token → Except Flaw (List Content × List Token)
  | 0, _, _, last, _ => .error (missingAt last "unclosed array, expected `]`")
  | _, _, _, last, [] => .error (missingAt last "unclosed array, expected `]`")
  | steps + 1, room, full, last, t :: ts =>
    if !t.isSound then .error t.flaw
    else if t.isFiller then readItems steps room full last ts
    else match t.kind, full with
      | .closeBracket, _ => .ok ([], ts)
      | .comma, true => readItems steps room false t.after ts
      | .comma, false | .equals, false | _, true => .error (itemFlaw full t)
      | _, false => do
        let (item, rest) ← readContent steps room (t :: ts)
        let (items, rest) ← readItems steps room true (placeOf rest) rest
        return (item :: items, rest)

/-- Reads the members of a table up to its brace. -/
def readMembers : Nat → Nat → Wanted → Nat → List Token →
    Except Flaw (List (List Piece × Content) × List Token)
  | 0, _, _, last, _ => .error (missingAt last "unclosed inline table, expected `\x7d`")
  | _, _, _, last, [] => .error (missingAt last "unclosed inline table, expected `\x7d`")
  | steps + 1, room, wanted, last, t :: ts =>
    if !t.isSound then .error t.flaw
    else if t.isFiller then readMembers steps room wanted last ts
    else match wanted, t.kind with
      | .key, .closeBrace | .comma, .closeBrace => .ok ([], ts)
      | .key, .text _ | .key, .word | .key, .dot | .key, .equals =>
        let (key, _, rest) := readKey true (t :: ts)
        readMembers steps room (.equals key) (placeOf rest) rest
      | .equals key, .equals => readMembers steps room (.value key) t.after ts
      | .value key, .text _ | .value key, .word | .value key, .dot | .value key, .openBracket
      | .value key, .openBrace => do
        let (content, rest) ← readContent steps room (t :: ts)
        let (members, rest) ← readMembers steps room .comma (placeOf rest) rest
        return ((key, content) :: members, rest)
      | .comma, .comma => readMembers steps room .key t.after ts
      | _, kind => .error (missingAt t.place (wanted.words kind))

end

-- ---------------------------------------------------------------------------
-- Statements
-- ---------------------------------------------------------------------------

/-- Reads a header that begins at a place, behind its first bracket. -/
def readHeader (place : Nat) (ts : List Token) : Except Flaw (Statement × List Token) := do
  let isElement := ts.head?.any (·.kind == .openBracket)
  let (key, isWhole, rest) := readKey true (if isElement then ts.drop 1 else ts)
  let statement (rest : List Token) := Statement.header ⟨place, placeOf rest⟩ isElement key
  let unclosed := if isElement then "unclosed array table, expected `]]`"
    else "unclosed table, expected `]`"
  match isElement, rest.takeWhile (·.kind == .closeBracket) with
  | false, _ :: _ => return (statement (rest.drop 1), ← endLine false (rest.drop 1))
  | true, _ :: _ :: _ => return (statement (rest.drop 2), ← endLine false (rest.drop 2))
  | true, [_] => throw (missingAt (placeOf (rest.drop 1)) unclosed)
  | _, [] =>
    if isWhole then throw (missingAt (placeOf rest) unclosed)
    else return (statement rest, ← endLine true rest)

/-- Reads an entry. -/
def readEntry (ts : List Token) : Except Flaw (Statement × List Token) := do
  let (key, _, rest) := readKey true ts
  let noValue := "key with no value, expected `=`"
  match rest with
  | [] => throw (missingAt 0 noValue)
  | t :: rest =>
    if t.kind ≠ .equals then throw (missingAt t.place noValue)
    let rest := skipBlanks rest
    let place := placeOf rest
    if rest.head?.all fun u => u.isFiller || u.kind == .comma then
      return (.entry key (.piece (.missing place)), ← endLine true rest)
    else
      let (content, rest) ← readContent (2 * rest.length + 2) maxDepth rest
      return (.entry key content, ← endLine false rest)

/-- What is wrong with a token that no statement begins with. -/
def statementFlaw (t : Token) : Flaw :=
  if t.kind = .closeBracket then missingAt t.place "missing table open, expected `[`"
  else missingAt t.place "invalid key-value pair, expected key"

/-- Reads the statements of a file. The first argument bounds the number of steps. -/
def readStatements : Nat → List Token → Except Flaw (List Statement)
  | 0, ts => .error (missingAt (placeOf ts) "missing key")
  | _, [] => .ok []
  | steps + 1, t :: ts =>
    if !t.isSound then .error t.flaw
    else if t.isFiller then readStatements steps ts
    else do
      let (statement, rest) ← match t.kind with
        | .openBracket => readHeader t.place ts
        | .text _ | .word | .dot | .equals => readEntry (t :: ts)
        | _ => throw (statementFlaw t)
      return statement :: (← readStatements steps rest)

/-- The outline of a file. -/
def outline (cs : List Char) : Except Flaw (List Statement) :=
  readStatements (cs.length + 1) (Token.scan cs)

end HomeLedger.Toml
