import HomeLedger.Text.CaseTable

/-!
# HomeLedger — lower case

Names are looked up in lower case, and the lower case is Unicode's: `K` written as the Kelvin sign
becomes `k`, `İ` becomes the two characters `i̇`, and a capital sigma becomes `ς` at the end of a
word and `σ` anywhere else. Comparison that ignores case without changing the text is `equalFold`,
which knows ASCII letters only.
-/

namespace HomeLedger.Text

-- ---------------------------------------------------------------------------
-- Single characters
-- ---------------------------------------------------------------------------

/-- The lower-case form of a character that is alone in having one: all but `İ` and `Σ`. -/
def lowerChar (c : Char) : Char :=
  if c.toNat < 0x80 then c.toLower
  else match imageIn? lowerRuns c.toNat with
    | some n => Char.ofNat n
    | none => c

/-- Whether a character has a case. -/
def isCased (c : Char) : Bool := inRanges casedRanges c.toNat

/-- Whether a character is passed over when a cased neighbour is looked for. -/
def isCaseIgnorable (c : Char) : Bool := inRanges caseIgnorableRanges c.toNat

-- ---------------------------------------------------------------------------
-- Texts
-- ---------------------------------------------------------------------------

/-- Whether the first character that is not passed over is a cased one. -/
def meetsCased (cs : List Char) : Bool :=
  match cs.dropWhile isCaseIgnorable with
  | [] => false
  | c :: _ => isCased c

/-- Lower case of `cs`, where `before` holds the characters in front of it, nearest first: a
sigma is final when a cased character precedes it and none follows. -/
def lowerAfter (before : List Char) : List Char → List Char
  | [] => []
  | c :: cs =>
    let image :=
      if c = 'Σ' then [if meetsCased before && !meetsCased cs then 'ς' else 'σ']
      else if c = 'İ' then ['i', '\u0307']
      else [lowerChar c]
    image ++ lowerAfter (c :: before) cs

/-- The text in lower case. -/
def lower (s : String) : String := String.ofList (lowerAfter [] s.toList)

/-- Equality of texts up to the case of ASCII letters. -/
def equalFold (s t : String) : Bool :=
  s.toList.map Char.toLower == t.toList.map Char.toLower

end HomeLedger.Text
