import HomeLedger.Formatting
import HomeLedger.Proofs.Decimal.Text
import HomeLedger.Proofs.Text.Blank
import HomeLedger.Proofs.Text.Removal

/-!
# HomeLedger — the marks of an amount

An amount has two marks that the user chooses, the currency symbol and the
separator between groups. A reader removes them, but dollar signs and commas
go first. A mark that holds one of them among other characters is damaged
before it is looked for, and what is left of it stays (`leftover`).

The other way in which a mark can do harm is that it stands in a number. Of
the characters of a number only the point can be a mark, and then it is
removed like any other (`typed`).

Main results:

* `eraseAll_leftover` — what is left of a mark where it was written.
* `amount?_text` — what a number without marks is read as.
-/

namespace HomeLedger

open Text

/-- Whether a text has nothing of a number in it but perhaps the point: no
digit, no sign and no underscore. The point is left in, since some write it as a
separator, and what comes of it is said below. -/
def IsMark (mark : String) : Prop :=
  ∀ c ∈ mark.toList, c.isDigit = false ∧ c ≠ '+' ∧ c ≠ '-' ∧ c ≠ '_'

-- the instance is named, so that a mark is gone through, and not all characters there are
instance (mark : String) : Decidable (IsMark mark) := List.decidableBAll _ mark.toList

namespace Formatting

-- ---------------------------------------------------------------------------
-- Dollar signs and commas
-- ---------------------------------------------------------------------------

/-- Whether a character stays when dollar signs and commas are removed. -/
def isKept (c : Char) : Bool := c != '$' && c != ','

/-- Digits stay, so that a number loses none of its own. -/
theorem isKept_of_isDigit {c : Char} (h : c.isDigit = true) : isKept c = true := by
  obtain ⟨-, -, -, hComma, hDollar, -⟩ := ne_of_isDigit h
  simp [isKept, hComma, hDollar]

/-- Whether a mark is found when it is looked for, or is gone by then: it has no
dollar sign and no comma, or nothing else. A mark with one of them among other
characters is neither. -/
def Removable (mark : String) : Prop :=
  (∀ c ∈ mark.toList, isKept c = true) ∨ ∀ c ∈ mark.toList, isKept c = false

instance (mark : String) : Decidable (Removable mark) :=
  letI : ∀ b, Decidable (∀ c ∈ mark.toList, isKept c = b) :=
    fun _ => List.decidableBAll _ mark.toList
  inferInstanceAs (Decidable (_ ∨ _))

/-- What a reader leaves of a mark. -/
def leftover (mark : String) : List Char :=
  if Removable mark then [] else mark.toList.filter isKept

theorem leftover_of_removable {mark : String} (h : Removable mark) : leftover mark = [] := if_pos h

/-- Of a mark that was damaged something is left. -/
theorem leftover_ne_nil {mark : String} (h : ¬Removable mark) : leftover mark ≠ [] := by
  rw [leftover, if_neg h]
  intro hNil
  rw [List.filter_eq_nil_iff] at hNil
  exact h (Or.inr fun c hc => by simpa using hNil c hc)

theorem leftover_subset (mark : String) : leftover mark ⊆ mark.toList := by
  unfold leftover
  split
  · exact List.nil_subset _
  · exact fun c hc => List.mem_of_mem_filter hc

/-- A text with a mark at some of its places, of which dollar signs and commas
have been removed. If the mark would be removed wherever it stands, and its own
dollar signs and commas are nowhere else, what stays at these places is what is
left of it. The text is given as a function of what stands at these places, so
that all three states of it are named at once. -/
theorem eraseAll_leftover {mark : String} (text : List Char → List Char)
    (hGone : eraseAll mark.toList (text []) = text [])
    (hWhole : eraseAll mark.toList (text mark.toList) = text [])
    (hKept : ∀ c ∈ mark.toList, isKept c = false → c ∉ text (mark.toList.filter isKept)) :
    eraseAll mark.toList (text (mark.toList.filter isKept)) = text (leftover mark) := by
  by_cases hRemovable : Removable mark
  · rw [leftover_of_removable hRemovable]
    rcases hRemovable with hAll | hNone
    · rw [List.filter_eq_self.mpr hAll, hWhole]
    · have hFilter : mark.toList.filter isKept = [] :=
        List.filter_eq_nil_iff.mpr fun c hc => by simp [hNone c hc]
      rw [hFilter, hGone]
  · -- one character of the mark is gone, so the mark is not found any more
    have hDamaged : ∃ c ∈ mark.toList, isKept c = false := by
      by_contra hAll
      refine hRemovable (Or.inl fun c hc => ?_)
      by_contra hc'
      exact hAll ⟨c, hc, by simpa using hc'⟩
    obtain ⟨c, hc, hLost⟩ := hDamaged
    rw [eraseAll_of_not_mem hc (hKept c hc hLost), leftover, if_neg hRemovable]

-- ---------------------------------------------------------------------------
-- Numbers without marks
-- ---------------------------------------------------------------------------

/-- A text of digits, minus signs and points loses nothing to a mark, unless
that is the point. A mark of several points is not found, since there is one at
most. -/
theorem eraseAll_mark {mark : String} {cs : List Char} (hMark : IsMark mark) (hne : mark ≠ ".")
    (hChars : ∀ c ∈ cs, c.isDigit = true ∨ c = '-' ∨ c = '.') (hPoints : cs.count '.' ≤ 1) :
    eraseAll mark.toList cs = cs := by
  by_cases hEmpty : mark.toList = []
  · rw [hEmpty, eraseAll_nil_left]
  · refine eraseAll_of_not_infix fun hStretch => hne ?_
    -- every character that the mark has in common with the text is a point
    have hPoint : ∀ c ∈ mark.toList, c = '.' := by
      intro c hc
      obtain ⟨hDigit, -, hMinus, -⟩ := hMark c hc
      rcases hChars c (hStretch.subset hc) with h | h | h
      · rw [hDigit] at h
        exact absurd h (by decide)
      · exact absurd h hMinus
      · exact h
    have hAll : mark.toList = List.replicate mark.toList.length '.' :=
      List.eq_replicate_of_mem hPoint
    have hCount : mark.toList.count '.' = mark.toList.length := by
      conv_lhs => rw [hAll]
      exact List.count_replicate_self
    -- the text has no more than one point, so neither has the mark
    have hle : mark.toList.count '.' ≤ cs.count '.' := hStretch.sublist.count_le '.'
    have hPos : 0 < mark.toList.length := List.length_pos_iff.mpr hEmpty
    have hOne : mark.toList.length = 1 := by omega
    rw [hOne] at hAll
    exact String.toList_injective hAll

/-- The decimal without its point. -/
def pointless (d : Decimal) : Decimal :=
  { d with scale := 0, scale_le := (Nat.zero_le d.scale).trans d.scale_le }

/-- Whether one of the marks is the point. -/
def TakesPoint (f : Formatting) : Prop := f.currencySymbol = "." ∨ f.groupingSeparator = "."

instance (f : Formatting) : Decidable f.TakesPoint := inferInstanceAs (Decidable (_ ∨ _))

/-- The amount that is read when a decimal is typed: the decimal, unless its
point is taken for a mark. A zero has no sign. Without its point, an amount of
two places is a hundred times as much. -/
def typed (f : Formatting) (d : Decimal) : Decimal :=
  if f.TakesPoint then (pointless d).withoutZeroSign else d.withoutZeroSign

/-- The sign and the digits of a decimal. -/
def signedDigits (d : Decimal) : List Char :=
  (if d.negative then ['-'] else []) ++ (d.wholeDigits ++ d.fractionDigits d.scale)

theorem signedDigits_chars {d : Decimal} {c : Char} (h : c ∈ signedDigits d) :
    c.isDigit = true ∨ c = '-' := by
  rw [signedDigits, List.mem_append, List.mem_append] at h
  rcases h with hSign | hWhole | hFraction
  · split at hSign
    · exact Or.inr (List.mem_singleton.mp hSign)
    · simp at hSign
  · exact Or.inl (allDigits_decimal _ c hWhole)
  · exact Or.inl (Decimal.allDigits_fractionDigits d d.scale c hFraction)

theorem point_not_mem_signedDigits (d : Decimal) : '.' ∉ signedDigits d := by
  intro h
  rcases signedDigits_chars h with hDigit | hMinus
  · exact absurd hDigit (by decide)
  · exact absurd hMinus (by decide)

/-- The text of a decimal has at most one point, between its digits. -/
theorem text_eq_signedDigits (d : Decimal) :
    d.text.toList = signedDigits d ∨
      ∃ before behind, d.text.toList = before ++ '.' :: behind ∧
        before ++ behind = signedDigits d := by
  rw [Decimal.text, String.toList_ofList, Decimal.unsignedText, max_self, signedDigits]
  by_cases hScale : d.scale = 0
  · left
    have hFraction : d.fractionDigits d.scale = [] := by simp [Decimal.fractionDigits, hScale]
    rw [if_pos hScale, hFraction, List.append_nil]
  · right
    refine ⟨(if d.negative then ['-'] else []) ++ d.wholeDigits, d.fractionDigits d.scale, ?_, ?_⟩
    · rw [if_neg hScale, List.append_assoc]
    · rw [List.append_assoc]

theorem text_chars {d : Decimal} {c : Char} (h : c ∈ d.text.toList) :
    c.isDigit = true ∨ c = '-' ∨ c = '.' := by
  have hDigits : c ∈ signedDigits d ∨ c = '.' := by
    rcases text_eq_signedDigits d with hText | ⟨before, behind, hText, hDigits⟩
    · exact Or.inl (hText ▸ h)
    · rw [hText, List.mem_append, List.mem_cons] at h
      rw [← hDigits, List.mem_append]
      tauto
  rcases hDigits with hMem | hPoint
  · exact (signedDigits_chars hMem).imp_right Or.inl
  · exact Or.inr (Or.inr hPoint)

/-- There is one point at most, between the whole part and the places. -/
theorem count_point_text_le (d : Decimal) : d.text.toList.count '.' ≤ 1 := by
  have hNone : (signedDigits d).count '.' = 0 :=
    List.count_eq_zero.mpr (point_not_mem_signedDigits d)
  rcases text_eq_signedDigits d with hText | ⟨before, behind, hText, hDigits⟩
  · rw [hText, hNone]
    exact Nat.zero_le 1
  · rw [← hDigits, List.count_append] at hNone
    rw [hText, List.count_append, List.count_cons_self]
    omega

/-- A mark that is the point is removed from the text of a decimal. All the
digits stay, those behind the point, too. -/
theorem eraseAll_point_text (d : Decimal) : eraseAll ['.'] d.text.toList = signedDigits d := by
  have hDisjoint : ∀ cs : List Char, '.' ∉ cs → ∀ c ∈ cs, c ∉ ['.'] := by
    rintro cs hcs c hc hPoint
    rw [List.mem_singleton.mp hPoint] at hc
    exact hcs hc
  have hNone := point_not_mem_signedDigits d
  rcases text_eq_signedDigits d with hText | ⟨before, behind, hText, hDigits⟩
  · rw [hText, eraseAll_of_disjoint (hDisjoint _ hNone)]
  · rw [← hDigits, List.mem_append, not_or] at hNone
    have hPoint : eraseAll ['.'] ('.' :: behind) = eraseAll ['.'] behind :=
      eraseAll_append_self ['.'] behind
    rw [hText, eraseAll_append_of_disjoint (hDisjoint _ hNone.1), hPoint,
      eraseAll_of_disjoint (hDisjoint _ hNone.2), hDigits]

/-- What the marks leave of the text of a decimal. Both marks are looked for one
after the other, and the second one finds the text as the first one has left
it. -/
theorem eraseAll_text {f : Formatting} (hSymbol : IsMark f.currencySymbol)
    (hSeparator : IsMark f.groupingSeparator) (d : Decimal) :
    eraseAll f.groupingSeparator.toList (eraseAll f.currencySymbol.toList d.text.toList) =
      if f.TakesPoint then signedDigits d else d.text.toList := by
  have hChars : ∀ c ∈ d.text.toList, c.isDigit = true ∨ c = '-' ∨ c = '.' := fun c => text_chars
  by_cases hPoint : f.currencySymbol = "."
  · -- the point is gone with the symbol, and nothing else of a number can be a mark
    have hDisjoint : ∀ c ∈ signedDigits d, c ∉ f.groupingSeparator.toList := by
      intro c hc hMem
      obtain ⟨hDigit, -, hMinus, -⟩ := hSeparator c hMem
      rcases signedDigits_chars hc with h | h
      · rw [hDigit] at h
        exact absurd h (by decide)
      · exact hMinus h
    have hTakes : f.TakesPoint := Or.inl hPoint
    rw [if_pos hTakes, hPoint]
    show eraseAll f.groupingSeparator.toList (eraseAll ['.'] d.text.toList) = _
    rw [eraseAll_point_text, eraseAll_of_disjoint hDisjoint]
  · rw [eraseAll_mark hSymbol hPoint hChars (count_point_text_le d)]
    by_cases hPoint' : f.groupingSeparator = "."
    -- the point is gone with the separator
    · have hTakes : f.TakesPoint := Or.inr hPoint'
      rw [if_pos hTakes, hPoint']
      exact eraseAll_point_text d
    · have hTakes : ¬f.TakesPoint := not_or.mpr ⟨hPoint, hPoint'⟩
      rw [if_neg hTakes, eraseAll_mark hSeparator hPoint' hChars (count_point_text_le d)]

/-- The sign and the digits are read as a whole number. A zero loses its sign,
as always when it is read. -/
theorem readExact_signedDigits (d : Decimal) :
    Decimal.readExact (signedDigits d) = some (pointless d).withoutZeroSign := by
  have hHead : ∀ c ∈ (d.wholeDigits ++ d.fractionDigits d.scale).head?, c ≠ '-' ∧ c ≠ '+' := by
    intro c hc
    have hDigit : c.isDigit = true := by
      refine allDigits_append.mpr ⟨allDigits_decimal _, ?_⟩ c (List.mem_of_mem_head? hc)
      exact Decimal.allDigits_fractionDigits d d.scale
    exact ⟨(ne_of_isDigit hDigit).1, (ne_of_isDigit hDigit).2.1⟩
  rw [Decimal.readExact, signedDigits, Decimal.readWith_sign _ hHead,
    Decimal.readDigits_pointless, Decimal.ofParts?, dif_pos ⟨d.mantissa_lt, by decide⟩]
  rfl

/-- A decimal that is typed without any marks is read as it is, but for the sign
of a zero, unless one of the marks is the point. This does not ask for the marks
to be removable, because there are none in the text. -/
theorem amount?_text {f : Formatting} (hSymbol : IsMark f.currencySymbol)
    (hSeparator : IsMark f.groupingSeparator) (d : Decimal) :
    f.amount? d.text = some (f.typed d) := by
  -- nothing in the text of a decimal is trimmed away or left out at the start
  have hBlank : ∀ c ∈ d.text.toList, isBlank c = false := by
    intro c hc
    rcases text_chars hc with hDigit | rfl | rfl
    · exact isBlank_of_isDigit hDigit
    all_goals decide
  have hKept : ∀ c ∈ d.text.toList, isKept c = true := by
    intro c hc
    rcases text_chars hc with hDigit | rfl | rfl
    · exact isKept_of_isDigit hDigit
    all_goals decide
  show Decimal.readExact (trim (eraseAll f.groupingSeparator.toList
    (eraseAll f.currencySymbol.toList ((trim d.text.toList).filter isKept)))) = _
  rw [(IsTrimmed.of_forall hBlank).trim_eq, List.filter_eq_self.mpr hKept,
    eraseAll_text hSymbol hSeparator, typed]
  by_cases hTakes : f.TakesPoint
  · have hDigits : IsTrimmed (signedDigits d) := by
      refine .of_forall fun c hc => ?_
      rcases signedDigits_chars hc with hDigit | rfl
      · exact isBlank_of_isDigit hDigit
      · decide
    rw [if_pos hTakes, if_pos hTakes, hDigits.trim_eq, readExact_signedDigits]
  · rw [if_neg hTakes, if_neg hTakes, (IsTrimmed.of_forall hBlank).trim_eq]
    exact Decimal.readWith_text .refuse d

end Formatting

end HomeLedger
