import HomeLedger.Text.Replace
import Mathlib.Data.List.Infix

/-!
# HomeLedger — removing a text from another

Occurrences are removed from left to right, and each of them is looked for
from its first character. So a text that has no character of the pattern is
passed over whatever follows it, and one that is the pattern is removed
whatever follows it. Nothing is removed where the pattern does not occur.

Main results:

* `eraseAll_of_not_infix` — what does not occur is not removed.
* `eraseAll_append_of_disjoint` / `eraseAll_append_self` — what is passed over,
  and what is removed.
-/

namespace HomeLedger.Text

variable {pattern before behind cs : List Char}

@[simp] theorem eraseAll_nil_left (cs : List Char) : eraseAll [] cs = cs := rfl

@[simp] theorem eraseAll_nil_right (pattern : List Char) : eraseAll pattern [] = [] := by
  unfold eraseAll
  split <;> rfl

/-- A pattern that is not empty is looked for from the first character. -/
theorem eraseAll_of_ne_nil (h : pattern ≠ []) : eraseAll pattern cs = eraseFrom pattern 0 cs :=
  if_neg (by simpa using h)

/-- Where a pattern does not occur, there is nothing to remove. An empty pattern
occurs in any text, so this one has a character. -/
theorem eraseAll_of_not_infix (h : ¬pattern <:+: cs) : eraseAll pattern cs = cs := by
  have hne : pattern ≠ [] := by
    rintro rfl
    exact h List.nil_infix
  rw [eraseAll_of_ne_nil hne]
  induction cs with
  | nil => rfl
  | cons c cs ih =>
    obtain ⟨hStarts, hRest⟩ := not_or.mp (mt List.infix_cons_iff.mpr h)
    rw [eraseFrom, if_neg (by rwa [List.isPrefixOf_iff_prefix]), ih hRest]

/-- Where a character of the pattern does not occur, neither does the pattern. -/
theorem eraseAll_of_not_mem {c : Char} (hc : c ∈ pattern) (h : c ∉ cs) :
    eraseAll pattern cs = cs :=
  eraseAll_of_not_infix fun hStretch => h (hStretch.subset hc)

/-- What has no character of the pattern is passed over. No occurrence can begin
there, and none can reach across it. -/
theorem eraseAll_append_of_disjoint (h : ∀ c ∈ before, c ∉ pattern) :
    eraseAll pattern (before ++ behind) = before ++ eraseAll pattern behind := by
  cases pattern with
  | nil => rfl
  | cons first others =>
    rw [eraseAll_of_ne_nil (List.cons_ne_nil _ _), eraseAll_of_ne_nil (List.cons_ne_nil _ _)]
    induction before with
    | nil => rfl
    | cons c cs ih =>
      obtain ⟨hc, hcs⟩ := List.forall_mem_cons.mp h
      have hne : first ≠ c := by
        rintro rfl
        exact hc List.mem_cons_self
      rw [List.cons_append, eraseFrom, if_neg (by simp [List.isPrefixOf, hne]), ih hcs,
        List.cons_append]

/-- A text without any character of the pattern keeps all of them. -/
theorem eraseAll_of_disjoint (h : ∀ c ∈ cs, c ∉ pattern) : eraseAll pattern cs = cs := by
  have hAppend : eraseAll pattern (cs ++ []) = cs ++ eraseAll pattern [] :=
    eraseAll_append_of_disjoint h
  rwa [eraseAll_nil_right, List.append_nil] at hAppend

/-- What belongs to an occurrence that has begun is removed. -/
theorem eraseFrom_append (pattern before behind : List Char) :
    eraseFrom pattern before.length (before ++ behind) = eraseFrom pattern 0 behind := by
  induction before with
  | nil => rfl
  | cons c cs ih => exact ih

/-- A pattern in front is removed, and the search goes on behind it. -/
theorem eraseAll_append_self (pattern behind : List Char) :
    eraseAll pattern (pattern ++ behind) = eraseAll pattern behind := by
  cases pattern with
  | nil => rfl
  | cons first others =>
    have hStarts : (first :: others).isPrefixOf (first :: (others ++ behind)) = true := by
      rw [List.isPrefixOf_iff_prefix]
      exact List.prefix_append (first :: others) behind
    rw [eraseAll_of_ne_nil (List.cons_ne_nil _ _), eraseAll_of_ne_nil (List.cons_ne_nil _ _),
      List.cons_append, eraseFrom, if_pos hStarts]
    exact eraseFrom_append (first :: others) others behind

end HomeLedger.Text
