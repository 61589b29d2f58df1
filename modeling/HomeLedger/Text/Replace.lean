/-!
# HomeLedger — cutting texts apart

Removing a text from within another, and splitting a text in two at a separator. Both work from
the left, and an occurrence that overlaps one already taken does not count.
-/

namespace HomeLedger.Text

-- ---------------------------------------------------------------------------
-- Removal
-- ---------------------------------------------------------------------------

/-- Removes the occurrences of `pattern`, where the first `skip` characters belong to an
occurrence that has begun already. -/
def eraseFrom (pattern : List Char) : Nat → List Char → List Char
  | _, [] => []
  | skip + 1, _ :: cs => eraseFrom pattern skip cs
  | 0, c :: cs =>
    if pattern.isPrefixOf (c :: cs) then eraseFrom pattern (pattern.length - 1) cs
    else c :: eraseFrom pattern 0 cs

/-- The text without the occurrences of `pattern`, taken from the left. An empty pattern occurs
nowhere. -/
def eraseAll (pattern : List Char) (cs : List Char) : List Char :=
  if pattern.isEmpty then cs else eraseFrom pattern 0 cs

-- ---------------------------------------------------------------------------
-- Splitting
-- ---------------------------------------------------------------------------

/-- The text before the first `sep` and the text after it, if there is a `sep`. -/
def splitOnce (sep : Char) : List Char → Option (List Char × List Char)
  | [] => none
  | c :: cs =>
    if c = sep then some ([], cs)
    else (splitOnce sep cs).map fun (a, b) => (c :: a, b)

/-- A text is not cut just if there is no separator in it. -/
theorem splitOnce_eq_none_iff {sep : Char} {cs : List Char} :
    splitOnce sep cs = none ↔ sep ∉ cs := by
  induction cs with
  | nil => simp [splitOnce]
  | cons c cs ih =>
    rw [splitOnce]
    by_cases hc : c = sep
    · simp [hc]
    · rw [if_neg hc, Option.map_eq_none_iff, ih, List.mem_cons, not_or]
      exact (and_iff_right (Ne.symm hc)).symm

/-- A text is cut at its first separator. -/
theorem splitOnce_eq_some_iff {sep : Char} {cs front back : List Char} :
    splitOnce sep cs = some (front, back) ↔ cs = front ++ sep :: back ∧ sep ∉ front := by
  induction cs generalizing front with
  | nil => simp [splitOnce]
  | cons c cs ih =>
    rw [splitOnce]
    by_cases hc : c = sep
    · rw [if_pos hc, hc]
      cases front with
      | nil => simp [eq_comm]
      | cons x front =>
        constructor
        · exact fun h => absurd (congrArg Prod.fst (Option.some.inj h)) (by simp)
        · rintro ⟨hCut, hNone⟩
          exact absurd (List.cons.inj hCut).1 (List.ne_of_not_mem_cons hNone)
    · rw [if_neg hc]
      cases front with
      | nil => simp [hc]
      | cons x front =>
        constructor
        · intro h
          obtain ⟨⟨a, b⟩, hcs, hEq⟩ := Option.map_eq_some_iff.mp h
          obtain ⟨⟨rfl, rfl⟩, rfl⟩ := by simpa using hEq
          obtain ⟨hCut, hNone⟩ := ih.mp hcs
          exact ⟨congrArg (c :: ·) hCut, by simp [hNone, Ne.symm hc]⟩
        · rintro ⟨hCut, hNone⟩
          obtain ⟨rfl, hcs⟩ := List.cons.inj hCut
          rw [ih.mpr ⟨hcs, List.not_mem_of_not_mem_cons hNone⟩]
          rfl

/-- Whether `pattern` occurs in a text. -/
def occursIn (pattern : List Char) : List Char → Bool
  | [] => pattern.isEmpty
  | c :: cs => pattern.isPrefixOf (c :: cs) || occursIn pattern cs

/-- What follows `pattern` in a text that starts with it. -/
def stripPrefix? (pattern s : String) : Option String :=
  (pattern.toList.isPrefixOf? s.toList).map String.ofList

end HomeLedger.Text
