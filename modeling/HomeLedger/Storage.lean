import HomeLedger.Text.Replace

/-!
# HomeLedger — files that are written under a lock

A file is never changed in place: its new contents go to a temporary file, which then takes its
name. While that happens, a lock file is held, and it stays behind. Both names are made from the
file's own by its extension: the lock file has another one behind it, and the temporary file has one
in its place. A name that begins with a dot has no extension for that reason alone.

The extension is taken off for the temporary file before there is another one, and of a name such as
`..x` this leaves `..`. That is the directory above, so that there is no temporary file for `..x`,
and nothing is written.

A file is given by a path from its directory (`Destination.ofPath?`). Empty steps and steps `.` lead
nowhere, but a path that ends in one can only be that of a directory, and no file takes its name.

The contents of a file are a text. A file whose bytes are not UTF-8 has no counterpart in a
`Directory`: none that is written here is one, and what stood there before is not read by a write.

`Directory.lockedWrite` is the whole of it.
-/

namespace HomeLedger

-- ---------------------------------------------------------------------------
-- Names
-- ---------------------------------------------------------------------------

namespace FileName

/-- The parts of a name in front of and behind its last dot. -/
def splitLastDot (cs : List Char) : Option (List Char × List Char) :=
  (Text.splitOnce '.' cs.reverse).map fun (back, front) => (front.reverse, back.reverse)

/-- The stem of a name and its extension; a dot in front makes none. -/
def splitExtension (name : String) : String × Option String :=
  match splitLastDot name.toList with
  | some ([], _) | none => (name, none)
  | some (stem, extension) => (String.ofList stem, some (String.ofList extension))

/-- The name with another extension, or with its first one. -/
def withExtension (name extension : String) : String :=
  (splitExtension name).1 ++ "." ++ extension

/-- The name of the lock file. -/
def lock (name : String) : String :=
  match (splitExtension name).2 with
  | some extension => withExtension name (extension ++ ".lock")
  | none => withExtension name "lock"

/-- The name of the directory above. -/
def up : String := ".."

/-- The name of the temporary file. What is left of some names without their extension is the
directory above, which takes no other one. -/
def temporary (name : String) : String :=
  if (splitExtension name).1 = "." ∧ (splitExtension name).2.isSome then up
  else withExtension name "tmp"

/-- The greatest number of bytes in a name. -/
def maxBytes : Nat := 255

end FileName

-- ---------------------------------------------------------------------------
-- Paths
-- ---------------------------------------------------------------------------

/-- Where a path leads: the name of the file, whether it stands in the directory itself rather than
in one above it, and whether the path ends like that of a directory. -/
structure Destination where
  name : String
  inside : Bool
  asDirectory : Bool
  deriving DecidableEq, Repr

namespace Destination

/-- The destination of a path in a directory that has no directories in it. A path of more than one
name leads nowhere; one that begins with a slash or with steps `..` leads to a directory above,
which is always there. -/
def ofPath? (path : String) : Option Destination :=
  let steps := path.toList.splitOn '/'
  let isIdle := fun step : List Char => step.isEmpty || step == ['.']
  let isUp := fun step : List Char => step == ['.', '.']
  let moves := steps.filter (!isIdle ·)
  match moves.dropWhile isUp with
  | [name] =>
    if path.toList.contains '\x00' then none
    else some {
      name := String.ofList name
      inside := !path.startsWith "/" && moves.length = 1
      asDirectory := steps.getLast?.any isIdle }
  | _ => none

end Destination

-- ---------------------------------------------------------------------------
-- Directories
-- ---------------------------------------------------------------------------

/-- The files of a directory: a name and contents, which are a text. No name occurs twice. -/
abbrev Directory := List (String × String)

namespace Directory

/-- The contents of a file. -/
def read? (d : Directory) (name : String) : Option String := (d.find? (·.1 == name)).map (·.2)

/-- The directory without a file. -/
def remove (d : Directory) (name : String) : Directory := d.filter (·.1 != name)

/-- The directory with a file of these contents. -/
def write (d : Directory) (name contents : String) : Directory := (name, contents) :: d.remove name

/-- The directory with a file that is empty if it was not there. -/
def touch (d : Directory) (name : String) : Directory :=
  if (d.read? name).isSome then d else d.write name ""

/-- The directory with a file under another name. -/
def rename (d : Directory) (old new : String) : Directory :=
  match d.read? old with
  | some contents => (d.remove old).write new contents
  | none => d

/-- The names of the files, sorted. -/
def names (d : Directory) : List String := (d.map (·.1)).mergeSort

/-- Writes to a temporary file and gives it the name. -/
def atomicWrite (d : Directory) (name contents : String) : Directory :=
  (d.write (FileName.temporary name) contents).rename (FileName.temporary name) name

/-- Writes under a lock: whether that succeeds, and the directory then. Nothing happens where there
can be no lock file. A path that ends like that of a directory keeps a part of the extension, or
what is behind it, when this is taken off; so there always is a temporary file, which is left
behind. A file in another directory changes nothing in this one. -/
def lockedWrite (d : Directory) (path contents : String) : Bool × Directory :=
  match Destination.ofPath? path with
  | none => (false, d)
  | some target =>
    let lock := FileName.lock target.name
    let hasTemporary := FileName.temporary target.name != FileName.up
    if FileName.maxBytes < lock.utf8ByteSize then (false, d)
    else if !target.inside then (!target.asDirectory && hasTemporary, d)
    else
      let locked := d.touch lock
      if target.asDirectory then
        (false, locked.write (FileName.withExtension target.name "tmp") contents)
      else if hasTemporary then (true, locked.atomicWrite target.name contents)
      else (false, locked)

end Directory

end HomeLedger
