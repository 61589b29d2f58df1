import HomeLedger.Text.NormalTable

/-!
# HomeLedger — composed text

The same text can be written in more than one way: `é` is one character, or an `e` and a mark. Its
composed form is the one in which texts are compared. Each character is first replaced by what it
consists of (`decompose`), the marks behind a letter are brought into order (`arrange`), and then
letters and marks are put together again as far as there is a character for them (`join`).
-/

namespace HomeLedger.Text

-- ---------------------------------------------------------------------------
-- Tables
-- ---------------------------------------------------------------------------

/-- The classes of marks, each with its ranges. -/
def combiningClasses : List (Nat × List (Nat × Nat)) :=
  (rows combiningClassTable).filterMap fun
    | k :: bounds => some (k, pairsOf bounds)
    | [] => none

/-- The characters that consist of two others. -/
def compositionBlocks : List Block := readBlocks compositionTable

/-- The characters that another text stands for. -/
def replacementBlocks : List Block := readBlocks replacementTable

/-- The characters that consist of two others, behind these two. -/
def compositions : List (Nat × Nat × Nat) :=
  (compositionBlocks.flatMap Block.entries).filterMap fun
    | (whole, [a, b]) => some (a, b, whole)
    | _ => none

/-- The class of a mark, which says where it stands at its letter. Characters that are no such marks
have class zero. -/
def combiningClass (c : Char) : Nat :=
  if c.toNat < 0x300 then 0
  else match combiningClasses.find? fun entry => inRanges entry.2 c.toNat with
    | some (k, _) => k
    | none => 0

-- ---------------------------------------------------------------------------
-- Hangul
-- ---------------------------------------------------------------------------

/-- The parts of a syllable: a consonant, a vowel and perhaps another consonant. Each consonant has
588 syllables in a row, and each vowel of these has 28. -/
def syllableParts? (n : Nat) : Option (List Nat) :=
  if 0xAC00 ≤ n ∧ n < 0xD7A4 then
    let i := n - 0xAC00
    let final := if i % 28 = 0 then [] else [0x11A7 + i % 28]
    some ([0x1100 + i / 588, 0x1161 + i % 588 / 28] ++ final)
  else none

/-- The syllable that two parts make: a consonant and a vowel, or these two and a consonant. -/
def syllable? (a b : Nat) : Option Nat :=
  if 0x1100 ≤ a ∧ a < 0x1113 ∧ 0x1161 ≤ b ∧ b < 0x1176 then
    some (0xAC00 + (a - 0x1100) * 588 + (b - 0x1161) * 28)
  else if 0xAC00 ≤ a ∧ a < 0xD7A4 ∧ (a - 0xAC00) % 28 = 0 ∧ 0x11A8 ≤ b ∧ b < 0x11C3 then
    some (a + (b - 0x11A7))
  else none

-- ---------------------------------------------------------------------------
-- Taking apart
-- ---------------------------------------------------------------------------

/-- What a character directly consists of. -/
def parts? (n : Nat) : Option (List Nat) :=
  if n < 0xC0 then none
  else syllableParts? n <|> imagesIn? compositionBlocks n <|> imagesIn? replacementBlocks n

/-- What a character consists of in the end. Four steps are enough for every character. -/
def decomposeChar : Nat → Nat → List Nat
  | 0, n => [n]
  | steps + 1, n =>
    match parts? n with
    | some parts => parts.flatMap (decomposeChar steps)
    | none => [n]

/-- The text with each character replaced by what it consists of. -/
def decompose (cs : List Char) : List Char :=
  cs.flatMap fun c => (decomposeChar 4 c.toNat).map Char.ofNat

/-- Puts a mark behind the marks of lower classes that follow it. -/
def sink (c : Char) : List Char → List Char
  | [] => [c]
  | d :: rest =>
    if 0 < combiningClass d ∧ combiningClass d < combiningClass c then d :: sink c rest
    else c :: d :: rest

/-- The text with the marks behind each letter in the order of their classes. -/
def arrange (cs : List Char) : List Char := cs.foldr sink []

-- ---------------------------------------------------------------------------
-- Putting together
-- ---------------------------------------------------------------------------

/-- The character that two others make. -/
def whole? (a b : Char) : Option Char :=
  if b.toNat < 0x300 then none
  else
    ((syllable? a.toNat b.toNat) <|>
      (compositions.find? fun (x, y, _) => x == a.toNat && y == b.toNat).map (·.2.2)).map Char.ofNat

/-- A text that is being put together: what is finished, last character first, the letter that marks
are still put to, and the marks behind it that did not fit, the last one first. -/
structure Joining where
  finished : List Char := []
  letter : Option Char := none
  marks : List Char := []

/-- The text so far, last character first. -/
def Joining.reversed (j : Joining) : List Char := j.marks ++ j.letter.toList ++ j.finished

/-- Adds a character. It is put to the letter if the two make one and no mark of its class or a
higher one stands between them. -/
def Joining.add (j : Joining) (c : Char) : Joining :=
  let isFree := j.marks.head?.all fun m => combiningClass m < combiningClass c
  match j.letter.bind fun letter => if isFree then whole? letter c else none with
  | some letter => { j with letter := some letter }
  | none =>
    if combiningClass c = 0 then { finished := j.reversed, letter := some c }
    else { j with marks := c :: j.marks }

/-- The text with letters and marks put together. -/
def join (cs : List Char) : List Char := (cs.foldl Joining.add {}).reversed.reverse

/-- The composed form of a text. -/
def compose (cs : List Char) : List Char :=
  if cs.all (·.toNat < 0xC0) then cs else join (arrange (decompose cs))

end HomeLedger.Text
