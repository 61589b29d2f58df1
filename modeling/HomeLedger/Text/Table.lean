import HomeLedger.Text.Digits

/-!
# HomeLedger — tables of characters

Properties of characters are the data of a standard, and there is much of it. A table is written as
text: numbers of characters in hexadecimal with blanks between them, and commas between the rows. A
row is of one of three shapes.

* A range has a first and a last character.
* A `Run` has characters with one image each, all of them equally far from it.
* A `Block` has characters in a row, with an image of the same length for each.
-/

namespace HomeLedger.Text

-- ---------------------------------------------------------------------------
-- Rows
-- ---------------------------------------------------------------------------

/-- The number that hexadecimal digits denote. -/
def ofHex (cs : List Char) : Nat := cs.foldl (fun n c => 16 * n + (hexValue? c).getD 0) 0

/-- The numbers in the rows of a table. -/
def rows (table : String) : List (List Nat) :=
  (table.toList.splitOn ',').map fun row =>
    ((row.splitOnP fun c => c == ' ' || c == '\n').filter (!·.isEmpty)).map ofHex

-- ---------------------------------------------------------------------------
-- Ranges
-- ---------------------------------------------------------------------------

/-- Whether `n` lies in one of the closed ranges. -/
def inRanges (ranges : List (Nat × Nat)) (n : Nat) : Bool :=
  ranges.any fun r => r.1 ≤ n && n ≤ r.2

/-- The ranges that a row of numbers names. -/
def pairsOf : List Nat → List (Nat × Nat)
  | first :: last :: rest => (first, last) :: pairsOf rest
  | _ => []

/-- The ranges in a table. -/
def readRanges (table : String) : List (Nat × Nat) := (rows table).flatMap pairsOf

-- ---------------------------------------------------------------------------
-- Runs
-- ---------------------------------------------------------------------------

/-- A run of characters with an image: every `step`-th one from `first` to `last` has the one
equally far from `image` as it is from `first`. -/
structure Run where
  first : Nat
  last : Nat
  step : Nat
  image : Nat

/-- Whether the run has an image for the character `n`. -/
def Run.covers (r : Run) (n : Nat) : Bool :=
  r.first ≤ n && n ≤ r.last && (n - r.first) % r.step == 0

/-- The image of a character in the first run that has one. -/
def imageIn? (runs : List Run) (n : Nat) : Option Nat :=
  (runs.find? (·.covers n)).map fun r => r.image + (n - r.first)

/-- The runs in a table. -/
def readRuns (table : String) : List Run :=
  (rows table).filterMap fun
    | [first, last, step, image] => some ⟨first, last, step, image⟩
    | _ => none

-- ---------------------------------------------------------------------------
-- Blocks
-- ---------------------------------------------------------------------------

/-- Characters from `first` on, with images of `width` characters one after another. -/
structure Block where
  first : Nat
  width : Nat
  images : List Nat

/-- Whether the block has an image for the character `n`. -/
def Block.covers (b : Block) (n : Nat) : Bool :=
  b.first ≤ n && b.width * (n - b.first) < b.images.length

/-- The image of a character in the first block that has one. -/
def imagesIn? (blocks : List Block) (n : Nat) : Option (List Nat) :=
  (blocks.find? (·.covers n)).map fun b => (b.images.drop (b.width * (n - b.first))).take b.width

/-- The characters of a block, each with its image. -/
def Block.entries (b : Block) : List (Nat × List Nat) :=
  (List.range (b.images.length / b.width)).map fun i =>
    (b.first + i, (b.images.drop (b.width * i)).take b.width)

/-- The blocks in a table. -/
def readBlocks (table : String) : List Block :=
  (rows table).filterMap fun
    | first :: width :: images => some ⟨first, width, images⟩
    | _ => none

end HomeLedger.Text
