import HomeLedger.Binary64.Basic
import HomeLedger.Toml.Report

/-!
# HomeLedger — TOML tables

The configuration is a TOML file. It puts values and tables below a root table, each at the end of a
path of keys. What has been said once must not be said again, and how a table came about decides
what may still be put into it:

* a table written in braces is *closed*;
* a table with a header of its own takes the entries below its header, but none by a dotted key;
* a table that only occurs on the way to another one still takes entries, and may still get a header
  if it is a header that it occurs in.

Every value knows which piece of the file it is, so that an error can show it. What is made of a
value does not depend on that.
-/

namespace HomeLedger

/-- How a table came about. -/
inductive Origin where
  /-- Written in braces. -/
  | closed
  /-- By a header of its own. -/
  | header
  /-- On the way to a table with a header. -/
  | implied
  /-- On the way to the value of a dotted key. -/
  | dotted
  deriving DecidableEq, Repr

/-- A TOML value. Members of tables and tables of a list have with them where they stand. -/
inductive Toml where
  | string (s : String)
  | integer (i : Int)
  | float (x : Binary64)
  /-- A number that no type of numbers can hold, whole or not. -/
  | outsized (isWhole : Bool)
  | boolean (b : Bool)
  | dateTime (s : String)
  | array (items : List (Toml.Span × Toml))
  | table (origin : Origin) (members : List (String × Toml.Span × Toml))
  /-- A list of tables, each with a header in double brackets. -/
  | tables (items : List (Toml.Span × List (String × Toml.Span × Toml)))
  deriving Repr

instance : Inhabited Toml := ⟨.boolean false⟩

namespace Toml

-- ---------------------------------------------------------------------------
-- Members
-- ---------------------------------------------------------------------------

/-- The members of a table: a key, where its value stands, and the value. -/
abbrev Members := List (String × Span × Toml)

/-- The member of a key. -/
def member? (key : String) (members : Members) : Option (Span × Toml) :=
  (members.find? (·.1 == key)).map (·.2)

/-- Puts another value in the place of a member. -/
def replace (key : String) (value : Span × Toml) (members : Members) : Members :=
  members.map fun m => if m.1 == key then (key, value) else m

/-- Appends a member that is not there yet. -/
def append? (key : String) (value : Span × Toml) (members : Members) : Option Members :=
  if (member? key members).isSome then none else some (members ++ [(key, value)])

-- ---------------------------------------------------------------------------
-- The way to a table
-- ---------------------------------------------------------------------------

/-- Whether a table may be gone through. A dotted key goes through no table with a header. -/
def admits (dotted : Bool) (origin : Origin) : Bool :=
  if dotted then origin == .dotted || origin == .implied else origin != .closed

/-- Changes the members of the table at the end of a path, and makes the tables on the way that are
not there yet. The path goes through the last table of a list, but a dotted key does not end in it.
-/
def descend (dotted : Bool) (place : Span) (change : Members → Option Members) :
    List String → Members → Option Members
  | [], members => change members
  | key :: path, members =>
    match member? key members with
    | none => do
      let inner ← descend dotted place change path []
      append? key (place, .table (if dotted then .dotted else .implied) inner) members
    | some (there, .table origin inner) =>
      if admits dotted origin then do
        let inner ← descend dotted place change path inner
        return replace key (there, .table origin inner) members
      else none
    | some (there, .tables items) =>
      if dotted && path.isEmpty then none
      else match items.getLast? with
        | some (spot, last) => do
          let last ← descend dotted place change path last
          return replace key (there, .tables (items.dropLast ++ [(spot, last)])) members
        | none => none
    | some _ => none

-- ---------------------------------------------------------------------------
-- Headers and entries
-- ---------------------------------------------------------------------------

/-- Puts something at the end of a path. -/
def putAt (dotted : Bool) (place : Span) (path : List String)
    (put : String → Members → Option Members) (members : Members) : Option Members :=
  match path.getLast? with
  | some key => descend dotted place (put key) path.dropLast members
  | none => none

/-- Gives the table at the end of a path its header. -/
def openTable (place : Span) (path : List String) (members : Members) : Option Members :=
  putAt false place path (fun key members =>
    match member? key members with
    | none => append? key (place, .table .header []) members
    | some (_, .table .implied inner) => some (replace key (place, .table .header inner) members)
    | some _ => none) members

/-- Appends a table to the list at the end of a path. -/
def addElement (place : Span) (path : List String) (element members : Members) : Option Members :=
  putAt false place path (fun key members =>
    match member? key members with
    | none => append? key (place, .tables [(place, element)]) members
    | some (there, .tables items) =>
      some (replace key (there, .tables (items ++ [(place, element)])) members)
    | some _ => none) members

/-- Puts a value at the end of a dotted key. -/
def putEntry (place : Span) (path : List String) (value : Span × Toml) (members : Members) :
    Option Members :=
  putAt true place path (fun key => append? key value) members

end Toml

end HomeLedger
