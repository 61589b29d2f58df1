import HomeLedger.Text.Normal
import HomeLedger.Text.Script
import HomeLedger.Url.DomainTable
import HomeLedger.Url.Punycode

/-!
# HomeLedger — domains in many scripts

The names of domains may hold letters of any script, but what is asked for is a name in ASCII. The
text is first put into a form in which names that look the same are the same (`foldDomain?`), and is
then cut at its dots. A label that is not in ASCII is written with a mark in front, and one that has
the mark already is read to see what it stands for (`Label.ofText?`). No label may begin with a mark
or hold a joiner that joins nothing, and the directions in which its letters are written must not
depend on what stands around it (`keepsDirection`).
-/

namespace HomeLedger.Url

open Text

-- ---------------------------------------------------------------------------
-- Characters
-- ---------------------------------------------------------------------------

/-- The ranges of characters that a domain must not hold. -/
def disallowedRanges : List (Nat × Nat) := readRanges disallowedTable

/-- The ranges of characters that are left out. -/
def ignoredRanges : List (Nat × Nat) := readRanges ignoredTable

/-- The runs of characters that are replaced. -/
def replacedRuns : List Run := readRuns replacedRunTable

/-- The other characters that are replaced. -/
def replacedBlocks : List Block := readBlocks replacedTable

/-- What becomes of a character in a domain, if it is allowed. Of ASCII only the case is changed
here. -/
def foldChar? (c : Char) : Option (List Char) :=
  let n := c.toNat
  if n < 0x80 then some [c.toLower]
  else if inRanges disallowedRanges n then none
  else if inRanges ignoredRanges n then some []
  else match imageIn? replacedRuns n with
    | some m => some [Char.ofNat m]
    | none =>
      match imagesIn? replacedBlocks n with
      | some ms => some (ms.map Char.ofNat)
      | none => some [c]

/-- Whether a character ends a domain or has a meaning of its own in a URL. -/
def isForbiddenInDomain (c : Char) : Bool :=
  c.toNat ≤ 0x20 || c.toNat == 0x7F || "#/:<>?@[\\]^|%".toList.contains c

/-- The domain in small letters and in composed form, if it holds nothing that it must not hold. -/
def foldDomain? (cs : List Char) : Option (List Char) := do
  let folded := compose (← cs.mapM foldChar?).flatten
  if folded.any isForbiddenInDomain then none else some folded

-- ---------------------------------------------------------------------------
-- Joiners
-- ---------------------------------------------------------------------------

/-- The joiner and the non-joiner: they are not seen, and tell how their neighbours join. -/
def isJoiner (c : Char) : Bool := c == '\u200C' || c == '\u200D'

/-- The class of the marks that take a vowel away, behind which both joiners may stand. -/
def vowelKiller : Nat := 9

/-- Whether a joiner has its place between the characters before it, nearest first, and those after
it. -/
def isJoinerAllowed (before : List Char) (c : Char) (after : List Char) : Bool :=
  match before with
  | [] => false
  | previous :: _ =>
    combiningClass previous == vowelKiller
      || (c == '\u200C' && ((before.dropWhile isJoinedAcross).head?.any joinsNext)
        && ((after.dropWhile isJoinedAcross).head?.any joinsPrevious))

/-- Whether all joiners have their place, where `before` stands in front, nearest first. -/
def joinersAllowed (before : List Char) : List Char → Bool
  | [] => true
  | c :: cs => (!isJoiner c || isJoinerAllowed before c cs) && joinersAllowed (c :: before) cs

-- ---------------------------------------------------------------------------
-- Labels
-- ---------------------------------------------------------------------------

/-- A label of a domain: the text that it stands for, and how it is written in ASCII. -/
structure Label where
  text : List Char
  written : List Char

/-- The greatest length of a text that is written in ASCII. -/
def maxLabelLength : Nat := 1000

/-- The mark of a label that stands for a text beyond ASCII. -/
def labelMark : List Char := "xn--".toList

/-- Whether a text can stand behind a marked label: as it is, it is what a domain would hold, and it
is one label. -/
def isStable (cs : List Char) : Bool := foldDomain? cs == some cs && !cs.contains '.'

/-- The label that a text between dots denotes. -/
def Label.ofText? (cs : List Char) : Option Label :=
  match labelMark.isPrefixOf? cs with
  | some code =>
    if 2 * maxLabelLength < code.length then none
    else do
      let text ← Punycode.decode? code
      if isStable text then some { text, written := cs } else none
  | none =>
    if cs.all (·.toNat < 0x80) then some { text := cs, written := cs }
    else some { text := cs, written := labelMark ++ Punycode.encode cs }

/-- Whether a text may be that of a label. -/
def isLabelText (cs : List Char) : Bool :=
  !cs.head?.any isMark && joinersAllowed [] cs
    && (cs.all (·.toNat < 0x80) || cs.length ≤ maxLabelLength)

-- ---------------------------------------------------------------------------
-- Directions
-- ---------------------------------------------------------------------------

/-- Whether a domain holds anything that is written from right to left. -/
def hasRightToLeft (cs : List Char) : Bool :=
  cs.any fun c => direction c == .rightToLeft || direction c == .arabicNumber

/-- Whether the directions of a label's characters, the last one first, keep to that of its first
one, `first`. Marks without room at the end do not count. -/
def keepsTo (first : WritingDirection) (reversed : List WritingDirection) : Bool :=
  match first, reversed.dropWhile (· == .nonspacing) with
  | .leftToRight, [] | .rightToLeft, [] => true
  | .leftToRight, last :: rest =>
    [.leftToRight, .europeanNumber].contains last
      && rest.all fun d => !([.rightToLeft, .arabicNumber].contains d)
  | .rightToLeft, last :: rest =>
    [.rightToLeft, .arabicNumber, .europeanNumber].contains last
      && !rest.contains .leftToRight
      && !((last :: rest).contains .arabicNumber && (last :: rest).contains .europeanNumber)
  | _, _ => false

/-- Whether a label looks the same whatever stands around it. -/
def keepsDirection (cs : List Char) : Bool :=
  match cs.map direction with
  | [] => true
  | first :: rest => keepsTo first rest.reverse

-- ---------------------------------------------------------------------------
-- Domains
-- ---------------------------------------------------------------------------

/-- A domain in ASCII and in small letters. Directions matter as soon as one of its labels holds
anything that is written from right to left. -/
def domain? (cs : List Char) : Option (List Char) := do
  let labels ← ((← foldDomain? cs).splitOn '.').mapM Label.ofText?
  let texts := labels.map (·.text)
  if !texts.all isLabelText then none
  else if texts.any hasRightToLeft && !texts.all keepsDirection then none
  else some (List.intercalate ['.'] (labels.map (·.written)))

end HomeLedger.Url
