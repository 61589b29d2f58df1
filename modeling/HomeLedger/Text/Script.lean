import HomeLedger.Text.ScriptTable

/-!
# HomeLedger — scripts

What has to be known of a character where texts of several scripts meet: whether it is a mark, in
which direction it is written, and whether it joins its neighbours.
-/

namespace HomeLedger.Text

-- ---------------------------------------------------------------------------
-- Marks
-- ---------------------------------------------------------------------------

/-- The ranges of marks that take no room. -/
def nonspacingRanges : List (Nat × Nat) := readRanges nonspacingTable

/-- The ranges of marks that take room. -/
def spacingRanges : List (Nat × Nat) := readRanges spacingTable

/-- Whether a character is a mark that takes no room of its own. -/
def isNonspacing (c : Char) : Bool := 0x300 ≤ c.toNat && inRanges nonspacingRanges c.toNat

/-- Whether a character is a mark that takes room of its own. -/
def isSpacing (c : Char) : Bool := 0x300 ≤ c.toNat && inRanges spacingRanges c.toNat

/-- Whether a character is a mark. -/
def isMark (c : Char) : Bool := isNonspacing c || isSpacing c

-- ---------------------------------------------------------------------------
-- Directions
-- ---------------------------------------------------------------------------

/-- How a character takes part in the order of writing. -/
inductive WritingDirection where
  | leftToRight
  | rightToLeft
  | arabicNumber
  | europeanNumber
  | neutral
  | nonspacing
  deriving DecidableEq, Repr

/-- The ranges of each direction other than from left to right. -/
def directionRanges : List (WritingDirection × List (Nat × Nat)) :=
  [(.rightToLeft, readRanges rightToLeftTable), (.arabicNumber, readRanges arabicNumberTable),
    (.europeanNumber, readRanges europeanNumberTable), (.neutral, readRanges neutralTable)]

/-- The marks without room that count as letters all the same. -/
def letterMarks : List Nat := [0xCBF, 0xCC6, 0x11A07, 0x11A08, 0x11C3F]

/-- The direction of a character. -/
def direction (c : Char) : WritingDirection :=
  if c.toNat < 0x80 then
    if c.isAlpha then .leftToRight else if c.isDigit then .europeanNumber else .neutral
  else if isNonspacing c && !letterMarks.contains c.toNat then .nonspacing
  else match directionRanges.find? fun entry => inRanges entry.2 c.toNat with
    | some (d, _) => d
    | none => .leftToRight

-- ---------------------------------------------------------------------------
-- Joining
-- ---------------------------------------------------------------------------

/-- The ranges of letters that join on both sides. -/
def joinBothRanges : List (Nat × Nat) := readRanges joinBothTable

/-- The ranges of letters that join only the letter after them. -/
def joinNextRanges : List (Nat × Nat) := readRanges joinNextTable

/-- The ranges of letters that join only the letter before them. -/
def joinPreviousRanges : List (Nat × Nat) := readRanges joinPreviousTable

/-- Whether letters join across a character: a mark, or the nasal sign of Adlam. -/
def isJoinedAcross (c : Char) : Bool := isNonspacing c || c.toNat == 0x1E94B

/-- Whether a character joins the letter after it. -/
def joinsNext (c : Char) : Bool :=
  inRanges joinBothRanges c.toNat || inRanges joinNextRanges c.toNat

/-- Whether a character joins the letter before it. -/
def joinsPrevious (c : Char) : Bool :=
  inRanges joinBothRanges c.toNat || inRanges joinPreviousRanges c.toNat

end HomeLedger.Text
