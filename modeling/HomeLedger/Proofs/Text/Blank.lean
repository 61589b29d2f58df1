import HomeLedger.Text.Blank
import Mathlib.Data.List.TakeWhile

/-!
# HomeLedger — texts that trimming leaves alone

A text that neither begins nor ends with a blank is its own trimmed form.
This is all that readers which trim first need to know of what was written,
and it is kept when such texts are put together, whatever stands between
them.
-/

namespace HomeLedger.Text

-- ---------------------------------------------------------------------------
-- Blanks
-- ---------------------------------------------------------------------------

theorem isBlank_of_letter {c : Char} (h : 65 ≤ c.toNat) (h' : c.toNat ≤ 122) :
    isBlank c = false := by
  simp only [isBlank, Bool.or_eq_false_iff, Bool.and_eq_false_iff, decide_eq_false_iff_not,
    beq_eq_false_iff_ne]
  omega

/-- Letters are no blanks in either case. -/
theorem isBlank_toLower (c : Char) : isBlank c.toLower = isBlank c := by
  by_cases hUpper : c.val ≥ 'A'.val ∧ c.val ≤ 'Z'.val
  · have hLow : 65 ≤ c.toNat := UInt32.le_iff_toNat_le.mp hUpper.1
    have hHigh : c.toNat ≤ 90 := UInt32.le_iff_toNat_le.mp hUpper.2
    have hLower : c.toLower.toNat = c.toNat + 32 := by
      have hVal : c.toLower.val = c.val + ('a'.val - 'A'.val) :=
        congrArg Char.val (dif_pos hUpper)
      have hSum := congrArg UInt32.toNat hVal
      rw [UInt32.toNat_add, show ('a'.val - 'A'.val).toNat = 32 from rfl] at hSum
      have hSmall : (c.val.toNat + 32) % 2 ^ 32 = c.val.toNat + 32 :=
        Nat.mod_eq_of_lt (Nat.lt_of_le_of_lt (Nat.add_le_add_right hHigh 32) (by decide))
      exact hSum.trans hSmall
    rw [isBlank_of_letter hLow (by omega), isBlank_of_letter (by omega) (by omega)]
  · have hSame : c.toLower = c := dif_neg hUpper
    rw [hSame]

theorem ne_of_isBlank {b c : Char} (hb : isBlank b = true) (hc : isBlank c = false) : b ≠ c := by
  rintro rfl
  exact Bool.false_ne_true (hc.symm.trans hb)

/-- Whether a text neither begins nor ends with a blank. The empty text does
neither. -/
structure IsTrimmed (cs : List Char) : Prop where
  head : ∀ c ∈ cs.head?, isBlank c = false
  last : ∀ c ∈ cs.getLast?, isBlank c = false

/-- Where nothing is a blank there is none at either end. -/
theorem IsTrimmed.of_forall {cs : List Char} (h : ∀ c ∈ cs, isBlank c = false) : IsTrimmed cs :=
  ⟨fun c hc => h c (List.mem_of_mem_head? hc), fun c hc => h c (List.mem_of_mem_getLast? hc)⟩

/-- What a text with another one behind it begins with is at the front of one of
them. -/
theorem mem_head?_append {a b : List Char} {c : Char} (h : c ∈ (a ++ b).head?) :
    c ∈ a.head? ∨ c ∈ b.head? := by
  rw [List.head?_append] at h
  exact (Option.or_eq_some_iff.mp h).imp_right And.right

/-- What a text with another one behind it ends with is at the end of one of
them, and of the first one only if the second is empty. -/
theorem mem_getLast?_append {a b : List Char} {c : Char} (h : c ∈ (a ++ b).getLast?) :
    (b = [] ∧ c ∈ a.getLast?) ∨ c ∈ b.getLast? := by
  rw [List.getLast?_append] at h
  rcases Option.or_eq_some_iff.mp h with hLast | ⟨hNone, hLast⟩
  · exact Or.inr hLast
  · exact Or.inl ⟨List.getLast?_eq_none_iff.mp hNone, hLast⟩

/-- What stands between two texts does not matter. -/
theorem IsTrimmed.append {a b : List Char} (ha : IsTrimmed a) (hb : IsTrimmed b) (haNe : a ≠ [])
    (hbNe : b ≠ []) (between : List Char) : IsTrimmed (a ++ (between ++ b)) := by
  obtain ⟨first, hFirst⟩ := Option.isSome_iff_exists.mp (List.isSome_head?.mpr haNe)
  obtain ⟨last, hLast⟩ := Option.isSome_iff_exists.mp (List.getLast?_isSome.mpr hbNe)
  constructor
  · rw [List.head?_append, hFirst, Option.some_or, ← hFirst]
    exact ha.head
  · rw [← List.append_assoc, List.getLast?_append, hLast, Option.some_or, ← hLast]
    exact hb.last

theorem trimStart_eq_self {cs : List Char} (h : ∀ c ∈ cs.head?, isBlank c = false) :
    trimStart cs = cs := by
  cases cs with
  | nil => rfl
  | cons c cs =>
    have hc : ¬isBlank c = true := by simp [h c rfl]
    rw [trimStart, List.dropWhile_cons_of_neg hc]

theorem trimEnd_eq_self {cs : List Char} (h : ∀ c ∈ cs.getLast?, isBlank c = false) :
    trimEnd cs = cs := by
  have hReverse : ∀ c ∈ cs.reverse.head?, isBlank c = false := by
    rwa [List.head?_reverse]
  show (trimStart cs.reverse).reverse = cs
  rw [trimStart_eq_self hReverse, List.reverse_reverse]

theorem IsTrimmed.trim_eq {cs : List Char} (h : IsTrimmed cs) : trim cs = cs := by
  rw [trim, trimStart_eq_self h.head, trimEnd_eq_self h.last]

-- ---------------------------------------------------------------------------
-- What trimming leaves
-- ---------------------------------------------------------------------------

theorem head_trimStart (cs : List Char) : ∀ c ∈ (trimStart cs).head?, isBlank c = false := by
  intro c hc
  have hFirst := List.head?_dropWhile_not isBlank cs
  rw [show cs.dropWhile isBlank = trimStart cs from rfl, Option.mem_def.mp hc] at hFirst
  simpa using hFirst

theorem last_trimEnd (cs : List Char) : ∀ c ∈ (trimEnd cs).getLast?, isBlank c = false := by
  show ∀ c ∈ (trimStart cs.reverse).reverse.getLast?, isBlank c = false
  rw [List.getLast?_reverse]
  exact head_trimStart cs.reverse

/-- What blanks are removed from at the end begins as it did, so its first
character is no blank if it was none before. -/
theorem trimEnd_prefix (cs : List Char) : trimEnd cs <+: cs := by
  have hSuffix : trimStart cs.reverse <:+ cs.reverse := List.dropWhile_suffix _
  have hPrefix := List.reverse_prefix.mpr hSuffix
  rwa [List.reverse_reverse] at hPrefix

theorem isTrimmed_trim (cs : List Char) : IsTrimmed (trim cs) := by
  refine ⟨fun c hc => head_trimStart cs c ?_, last_trimEnd _⟩
  obtain ⟨rest, hRest⟩ := trimEnd_prefix (trimStart cs)
  have hHead : (trimEnd (trimStart cs)).head? = some c := hc
  rw [← hRest, List.head?_append, hHead]
  rfl

/-- What is trimmed need not be trimmed again. -/
theorem trimmed_trimmed (s : String) : trimmed (trimmed s) = trimmed s := by
  rw [trimmed, trimmed, String.toList_ofList, (isTrimmed_trim s.toList).trim_eq]

/-- Only blanks are trimmed to nothing. -/
theorem forall_of_trim_eq_nil {cs : List Char} (h : trim cs = []) :
    ∀ c ∈ cs, isBlank c = true := by
  have hReverse : (trimStart cs).reverse.dropWhile isBlank = [] := List.reverse_eq_nil_iff.mp h
  rw [List.dropWhile_eq_nil_iff] at hReverse
  -- what is left in front begins with no blank, so nothing is left there
  have hStart : trimStart cs = [] := by
    cases hcs : trimStart cs with
    | nil => rfl
    | cons c rest =>
      have hBlank := hReverse c (by simp [hcs])
      have hNot := head_trimStart cs c (by rw [hcs]; rfl)
      rw [hBlank] at hNot
      exact absurd hNot (by decide)
  exact List.dropWhile_eq_nil_iff.mp hStart

-- ---------------------------------------------------------------------------
-- What trimming takes away
-- ---------------------------------------------------------------------------

/-- Whether a text holds nothing but blanks, if anything. -/
def AllBlank (cs : List Char) : Prop := ∀ c ∈ cs, isBlank c = true

instance (cs : List Char) : Decidable (AllBlank cs) :=
  decidable_of_iff (cs.all isBlank = true) List.all_eq_true

theorem trimStart_of_allBlank {cs : List Char} (h : AllBlank cs) : trimStart cs = [] :=
  List.dropWhile_eq_nil_iff.mpr h

/-- Blanks in front of a text do not count when it is trimmed there. -/
theorem trimStart_append {before : List Char} (h : AllBlank before) (cs : List Char) :
    trimStart (before ++ cs) = trimStart cs :=
  List.dropWhile_append_of_pos h

theorem trimEnd_append {behind : List Char} (h : AllBlank behind) (cs : List Char) :
    trimEnd (cs ++ behind) = trimEnd cs := by
  have hReverse : AllBlank behind.reverse := fun c hc => h c (List.mem_reverse.mp hc)
  show (trimStart (cs ++ behind).reverse).reverse = (trimStart cs.reverse).reverse
  rw [List.reverse_append, trimStart_append hReverse]

/-- Blanks around a text do not count. -/
theorem trim_surrounded {before behind : List Char} (hBefore : AllBlank before)
    (hBehind : AllBlank behind) (cs : List Char) : trim (before ++ (cs ++ behind)) = trim cs := by
  rw [trim, trim, trimStart_append hBefore]
  show trimEnd ((cs ++ behind).dropWhile isBlank) = trimEnd (cs.dropWhile isBlank)
  rw [List.dropWhile_append]
  split
  · next hEmpty =>
    have hNil : behind.dropWhile isBlank = [] := trimStart_of_allBlank hBehind
    rw [List.isEmpty_iff.mp hEmpty, hNil]
  · exact trimEnd_append hBehind _

/-- Nothing but blanks is trimmed away at the end. -/
theorem exists_trimEnd (cs : List Char) :
    ∃ behind, AllBlank behind ∧ cs = trimEnd cs ++ behind := by
  refine ⟨(cs.reverse.takeWhile isBlank).reverse, ?_, ?_⟩
  · exact fun c hc => List.mem_takeWhile_imp (List.mem_reverse.mp hc)
  · show cs = (cs.reverse.dropWhile isBlank).reverse ++ (cs.reverse.takeWhile isBlank).reverse
    rw [← List.reverse_append, List.takeWhile_append_dropWhile, List.reverse_reverse]

/-- Nothing but blanks is trimmed away, before and behind what is left. -/
theorem exists_trim (cs : List Char) :
    ∃ before behind, AllBlank before ∧ AllBlank behind ∧ cs = before ++ (trim cs ++ behind) := by
  obtain ⟨behind, hBehind, hEnd⟩ := exists_trimEnd (trimStart cs)
  refine ⟨cs.takeWhile isBlank, behind, fun c hc => List.mem_takeWhile_imp hc, hBehind, ?_⟩
  have hRest : trim cs ++ behind = cs.dropWhile isBlank := hEnd.symm
  rw [hRest, List.takeWhile_append_dropWhile]

end HomeLedger.Text
