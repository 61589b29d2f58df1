/-!
# HomeLedger — blank characters

Words of a line are separated by *blanks*: the characters with Unicode's `White_Space` property.
That is wider than the ASCII blanks (`U+00A0`, `U+2003` and `U+3000` separate words too) and leaves
out the zero-width characters, which only look blank.

* `trim` removes blanks at both ends of a text.
* `words` splits a text at its blanks and keeps no empty word.
-/

namespace HomeLedger.Text

-- ---------------------------------------------------------------------------
-- The property
-- ---------------------------------------------------------------------------

/-- Whether a character separates words: the twenty-five characters of `White_Space`. -/
def isBlank (c : Char) : Bool :=
  let n := c.toNat
  (0x09 ≤ n && n ≤ 0x0D) || n == 0x20 || n == 0x85 || n == 0xA0 || n == 0x1680
    || (0x2000 ≤ n && n ≤ 0x200A) || n == 0x2028 || n == 0x2029 || n == 0x202F || n == 0x205F
    || n == 0x3000

-- ---------------------------------------------------------------------------
-- Trimming and splitting
-- ---------------------------------------------------------------------------

/-- The text without the blanks it starts with. -/
def trimStart (cs : List Char) : List Char := cs.dropWhile isBlank

/-- The text without the blanks it ends with. -/
def trimEnd (cs : List Char) : List Char := (cs.reverse.dropWhile isBlank).reverse

/-- The text without the blanks at either end. -/
def trim (cs : List Char) : List Char := trimEnd (trimStart cs)

/-- `trim` on strings. -/
def trimmed (s : String) : String := String.ofList (trim s.toList)

/-- Whether a text holds nothing but blanks. -/
def isAllBlank (s : String) : Bool := s.toList.all isBlank

/-- The words of a text: its longest stretches without a blank, in order. -/
def words (cs : List Char) : List (List Char) :=
  (cs.splitOnP isBlank).filter (· ≠ [])

end HomeLedger.Text
