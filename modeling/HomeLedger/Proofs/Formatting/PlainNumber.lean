import HomeLedger.Proofs.Decimal.PlainNumber
import HomeLedger.Proofs.Formatting.Mark

/-!
# HomeLedger — amounts as they are typed

Who types an amount may put dollar signs and commas where they like, and
blanks around it. All of that goes before the number is read: blanks at the
ends first, then dollar signs and commas, and then blanks again, because one
may have stood behind a dollar sign. So it makes no difference in which order
the marks and the blanks stand at the ends.

Main results:

* `trim_filter` — trimming before the marks are removed changes nothing.
* `amount?_marked` — what is read is what is read from the numeral alone.
-/

namespace HomeLedger

open Text

namespace Formatting

/-- Whether a text is a numeral, with dollar signs and commas put in anywhere
and blanks around it. -/
def Marked (m : PlainNumber) (raw : String) : Prop :=
  ∃ before behind, AllBlank before ∧ AllBlank behind ∧
    raw.toList.filter isKept = before ++ (m.chars ++ behind)

theorem isKept_of_isBlank {c : Char} (h : isBlank c = true) : isKept c = true := by
  by_contra hLost
  have hMark : c = '$' ∨ c = ',' := by
    simpa [isKept, Decidable.or_iff_not_imp_left] using hLost
  rcases hMark with rfl | rfl <;> exact absurd h (by decide)

/-- Blanks are no marks, so it does not matter when they are trimmed. -/
theorem trim_filter (cs : List Char) :
    trim ((trim cs).filter isKept) = trim (cs.filter isKept) := by
  have hBlank : ∀ {bs : List Char}, AllBlank bs → bs.filter isKept = bs := fun h =>
    List.filter_eq_self.mpr fun c hc => isKept_of_isBlank (h c hc)
  obtain ⟨before, behind, hBefore, hBehind, hcs⟩ := exists_trim cs
  have hFilter : cs.filter isKept = before ++ ((trim cs).filter isKept ++ behind) := by
    conv_lhs => rw [hcs]
    rw [List.filter_append, List.filter_append, hBlank hBefore, hBlank hBehind]
  rw [hFilter, trim_surrounded hBefore hBehind]

/-- An amount is read as the numeral that it is, whatever marks were put in.
Nothing is assumed of where they stand, in groups of three or not. -/
theorem amount?_marked {m : PlainNumber} {raw : String} (h : Marked m raw) :
    amount? {} raw = Decimal.readExact m.chars := by
  obtain ⟨before, behind, hBefore, hBehind, hRaw⟩ := h
  have hGone : ∀ {mark : Char}, isKept mark = false →
      mark ∉ (trim raw.toList).filter isKept := by
    intro mark hMark hMem
    have hKept := (List.mem_filter.mp hMem).2
    rw [hMark] at hKept
    exact absurd hKept (by decide)
  have hSymbol : eraseAll ['$'] ((trim raw.toList).filter isKept) =
      (trim raw.toList).filter isKept :=
    eraseAll_of_not_mem (List.mem_singleton_self '$') (hGone (by decide))
  have hSeparator : eraseAll [','] ((trim raw.toList).filter isKept) =
      (trim raw.toList).filter isKept :=
    eraseAll_of_not_mem (List.mem_singleton_self ',') (hGone (by decide))
  have hTrimmed : IsTrimmed m.chars := .of_forall fun _ hc => PlainNumber.isBlank_of_mem_chars hc
  show Decimal.readExact (trim (eraseAll [','] (eraseAll ['$']
    ((trim raw.toList).filter isKept)))) = _
  rw [hSymbol, hSeparator, trim_filter, hRaw, trim_surrounded hBefore hBehind, hTrimmed.trim_eq]

end Formatting

end HomeLedger
