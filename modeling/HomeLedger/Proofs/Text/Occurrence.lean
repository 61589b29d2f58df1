import HomeLedger.Text.Replace
import Mathlib.Data.List.Infix

/-!
# HomeLedger — where a text occurs

Whether a text occurs in another one is looked for from place to place. It
does if it is a stretch of the other text. A text that does not hold a
separator never reaches across it. What a text begins with can be taken away
from it, and nothing else is.

Main results:

* `occursIn_iff` — what is looked for is a stretch of the text.
* `infix_append_cons_iff` — it lies on one side of a separator.
* `stripPrefix?_eq_some_iff` / `stripPrefix?_eq_none_iff` — what is left
  behind a beginning.
-/

namespace HomeLedger.Text

variable {pattern before behind : List Char}

/-- What is looked for is a stretch of the text, wherever it begins. -/
theorem occursIn_iff {cs : List Char} : occursIn pattern cs = true ↔ pattern <:+: cs := by
  induction cs with
  | nil => rw [occursIn, List.isEmpty_iff, List.infix_nil]
  | cons c cs ih =>
    rw [occursIn, Bool.or_eq_true, List.isPrefixOf_iff_prefix, ih, List.infix_cons_iff]

/-- A stretch of a text lies on one side of a separator that it does not have,
so each side can be searched on its own. -/
theorem infix_append_cons_iff {sep : Char} (hSep : sep ∉ pattern) :
    pattern <:+: before ++ sep :: behind ↔ pattern <:+: before ∨ pattern <:+: behind := by
  constructor
  · intro h
    rcases List.infix_append_iff_ne_nil.mp h with hBefore | hRest | hAcross
    · exact Or.inl hBefore
    · rcases List.infix_cons_iff.mp hRest with hFirst | hBehind
      · rcases List.prefix_cons_iff.mp hFirst with rfl | ⟨rest, rfl, -⟩
        · exact Or.inl (List.nil_infix)
        · exact absurd List.mem_cons_self hSep
      · exact Or.inr hBehind
    · obtain ⟨front, back, -, hBack, rfl, -, hPrefix⟩ := hAcross
      rcases List.prefix_cons_iff.mp hPrefix with rfl | ⟨rest, rfl, -⟩
      · exact absurd rfl hBack
      · exact absurd (List.mem_append_right _ List.mem_cons_self) hSep
  · rintro (hBefore | hBehind)
    · exact List.infix_append_of_infix_left hBefore
    · exact List.infix_append_of_infix_right (List.infix_cons hBehind)

-- ---------------------------------------------------------------------------
-- Beginnings
-- ---------------------------------------------------------------------------

/-- What is left of a text is what has to be put behind the beginning. -/
theorem stripPrefix?_eq_some_iff {start text rest : String} :
    stripPrefix? start text = some rest ↔ start ++ rest = text := by
  rw [stripPrefix?, Option.map_eq_some_iff, ← String.toList_inj, String.toList_append]
  constructor
  · rintro ⟨cs, hcs, rfl⟩
    rw [String.toList_ofList]
    exact List.isPrefixOf?_eq_some_iff_append_eq.mp hcs
  · intro h
    exact ⟨rest.toList, List.isPrefixOf?_eq_some_iff_append_eq.mpr h, String.ofList_toList⟩

/-- Nothing can be taken away from a text that begins otherwise. -/
theorem stripPrefix?_eq_none_iff {start text : String} :
    stripPrefix? start text = none ↔ ¬start.toList <+: text.toList := by
  rw [stripPrefix?, Option.map_eq_none_iff, ← List.isPrefixOf_iff_prefix,
    ← List.isSome_isPrefixOf?_eq_isPrefixOf, Option.not_isSome_iff_eq_none]

end HomeLedger.Text
