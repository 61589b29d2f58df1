import HomeLedger.Proofs.Decimal.Nearest
import HomeLedger.Proofs.Formatting.Mark
import HomeLedger.Proofs.Token.Wording

/-!
# HomeLedger — a displayed amount is read again

An amount is displayed rounded, with its symbol in front and separators
between its digits. A reader gets it back as the amount that was shown, if
two things hold: it fits, because more places may be too many for a decimal
that had none, and the marks that were written are removed. A mark that is
damaged before it is looked for leaves something behind that is no number.

With the formatting that nobody has changed, every amount can be displayed,
and what is displayed is one token of a line.

Main results:

* `currency_eq_ok` — what is displayed of an amount.
* `amount?_shown` — what a reader makes of it once the marks are removed.
* `amount?_currency` — under the default formatting it is the amount shown.
* `amount?_of_currency` — and under any other, exactly as far as the marks
  can be removed.
-/

namespace HomeLedger

open Text

namespace Formatting

-- ---------------------------------------------------------------------------
-- What is displayed
-- ---------------------------------------------------------------------------

/-- The sign of an amount that is displayed; zero has none. -/
def signOf (d : Decimal) : List Char := if d.negative && !d.isZero then ['-'] else []

/-- The point and the digits behind it, if there are any. -/
def pointed (f : Formatting) (d : Decimal) : List Char :=
  if f.places = 0 then [] else '.' :: d.fractionDigits f.places

/-- The text of an amount that is displayed, with these marks. -/
def shownWith (f : Formatting) (symbol separator : List Char) (d : Decimal) : List Char :=
  signOf d ++ symbol ++ (grouped separator d.wholeDigits ++ f.pointed d)

/-- The text of an amount that is displayed. -/
def shown (f : Formatting) (d : Decimal) : List Char :=
  f.shownWith f.currencySymbol.toList f.groupingSeparator.toList d

/-- What is displayed of an amount is the amount rounded, in its layout. It is
displayed at all only if there is space for the digits. -/
theorem currency_eq_ok {f : Formatting} {a : Decimal} {text : String} :
    f.currency a = .ok text ↔ f.fitsDisplay (a.round f.places) = true ∧
      text = String.ofList (f.shown (a.round f.places)) := by
  have hShown : ∀ d : Decimal, (if d.negative && !d.isZero then "-" else "") ++ f.currencySymbol ++
      String.ofList (grouped f.groupingSeparator.toList d.wholeDigits) ++
      (if f.places = 0 then ""
        else String.ofList ('.' :: d.fractionDigits f.places)) =
      String.ofList (f.shown d) := by
    intro d
    refine String.toList_injective ?_
    simp only [String.toList_append, String.toList_ofList, shown, shownWith, signOf, pointed]
    split <;> split <;> simp
  unfold currency
  simp only [hShown]
  cases f.fitsDisplay (a.round f.places) with
  | false => simp
  | true => simp [eq_comm]

/-- There is space for every amount under the default formatting, where two
places are all that may have to be filled up. -/
theorem fitsDisplay_default (d : Decimal) : fitsDisplay {} d = true := by
  have hle : d.mantissa / 10 ^ d.scale < 10 ^ 29 :=
    Nat.lt_of_le_of_lt (Nat.div_le_self _ _) (d.mantissa_lt.trans (by decide))
  have hLength : d.wholeDigits.length ≤ 29 := length_decimal_le (by decide) hle
  have hSpace : d.wholeDigits.length + 1 + 2 ≤ displaySpace := by
    unfold displaySpace
    omega
  have hZero : zeroScale {} ≤ displaySpace := by decide
  show (decide (2 < placesLimit) && (decide (2 = 0) ||
    decide (d.wholeDigits.length + 1 + 2 ≤ displaySpace)) &&
    (!d.isZero || decide (zeroScale {} ≤ displaySpace))) = true
  simp [hSpace, hZero, placesLimit]

theorem currency_default (a : Decimal) :
    currency {} a = .ok (String.ofList (shown {} (a.round 2))) :=
  currency_eq_ok.mpr ⟨fitsDisplay_default _, rfl⟩

-- ---------------------------------------------------------------------------
-- The characters of it
-- ---------------------------------------------------------------------------

theorem mem_grouped {separator cs : List Char} {c : Char} (h : c ∈ grouped separator cs) :
    c ∈ cs ∨ c ∈ separator := by
  induction cs with
  | nil => exact Or.inl h
  | cons d ds ih =>
    have hRest : c = d ∨ c ∈ separator ∨ c ∈ grouped separator ds := by
      rw [grouped, List.mem_cons] at h
      refine h.imp_right fun h => ?_
      split at h
      · exact List.mem_append.mp h
      · exact Or.inr h
    rcases hRest with rfl | hSeparator | hGrouped
    · exact Or.inl List.mem_cons_self
    · exact Or.inr hSeparator
    · exact (ih hGrouped).imp_left (List.mem_cons_of_mem _)

theorem mem_signOf {d : Decimal} {c : Char} (h : c ∈ signOf d) : c = '-' := by
  unfold signOf at h
  split at h
  · exact List.mem_singleton.mp h
  · simp at h

theorem mem_pointed {f : Formatting} {d : Decimal} {c : Char} (h : c ∈ f.pointed d) :
    c.isDigit = true ∨ c = '.' := by
  unfold pointed at h
  split at h
  · simp at h
  · rcases List.mem_cons.mp h with rfl | hDigit
    · exact Or.inr rfl
    · exact Or.inl (Decimal.allDigits_fractionDigits d _ c hDigit)

/-- The characters of what is displayed: digits, a hyphen, a point, and those of
the marks. All that can go wrong in reading comes from the last two. -/
theorem mem_shownWith {f : Formatting} {symbol separator : List Char} {d : Decimal} {c : Char}
    (h : c ∈ f.shownWith symbol separator d) :
    c.isDigit = true ∨ c = '-' ∨ c = '.' ∨ c ∈ symbol ∨ c ∈ separator := by
  rw [shownWith, List.mem_append, List.mem_append, List.mem_append] at h
  rcases h with (hSign | hSymbol) | hWhole | hPointed
  · exact Or.inr (Or.inl (mem_signOf hSign))
  · simp [hSymbol]
  · rcases mem_grouped hWhole with hDigit | hSeparator
    · exact Or.inl (allDigits_decimal _ c hDigit)
    · simp [hSeparator]
  · rcases mem_pointed hPointed with hDigit | hPoint
    · exact Or.inl hDigit
    · simp [hPoint]

/-- Digits are not special in a line. -/
theorem isSpecial_of_isDigit {c : Char} (h : c.isDigit = true) : isSpecial c = false := by
  have hBounds := toNat_of_isDigit h
  have hne : ∀ c', c'.toNat < 48 ∨ 57 < c'.toNat → (c == c') = false := by
    intro c' hc'
    rw [beq_eq_false_iff_ne]
    rintro rfl
    omega
  rw [isSpecial, Scan.isQuote, isBlank_of_isDigit h, hne _ (by decide), hne _ (by decide),
    hne _ (by decide)]
  rfl

/-- An amount that is displayed is one token, as none of its characters is
special in a line. -/
theorem wording_shown (d : Decimal) :
    Wording (String.ofList (shown {} d)) [String.ofList (shown {} d)] := by
  refine wording_plain ?_ ?_
  · intro hEmpty
    have hList := congrArg String.toList hEmpty
    rw [String.toList_ofList] at hList
    simp [shown, shownWith] at hList
  · intro c hc
    rw [String.toList_ofList] at hc
    rcases mem_shownWith hc with hDigit | rfl | rfl | hSymbol | hSeparator
    · exact isSpecial_of_isDigit hDigit
    · decide
    · decide
    · rw [List.mem_singleton.mp hSymbol]
      decide
    · rw [List.mem_singleton.mp hSeparator]
      decide

-- ---------------------------------------------------------------------------
-- Marks that stand apart
-- ---------------------------------------------------------------------------

/-- Marks that are told from a number and from each other: neither has anything
of a number in it, the symbol has no blank, and they have no character in
common. It is decidable, so a formatting can be checked for it. -/
structure MarksApart (f : Formatting) : Prop where
  symbol : IsMark f.currencySymbol
  separator : IsMark f.groupingSeparator
  symbol_point : '.' ∉ f.currencySymbol.toList
  separator_point : '.' ∉ f.groupingSeparator.toList
  symbol_blank : ∀ c ∈ f.currencySymbol.toList, isBlank c = false
  apart : ∀ c ∈ f.groupingSeparator.toList, c ∉ f.currencySymbol.toList

instance (f : Formatting) : Decidable f.MarksApart :=
  letI := List.decidableBAll (isBlank · = false) f.currencySymbol.toList
  letI := List.decidableBAll (· ∉ f.currencySymbol.toList) f.groupingSeparator.toList
  decidable_of_iff (IsMark f.currencySymbol ∧ IsMark f.groupingSeparator ∧
    '.' ∉ f.currencySymbol.toList ∧ '.' ∉ f.groupingSeparator.toList ∧
    (∀ c ∈ f.currencySymbol.toList, isBlank c = false) ∧
    ∀ c ∈ f.groupingSeparator.toList, c ∉ f.currencySymbol.toList)
    ⟨fun ⟨h₁, h₂, h₃, h₄, h₅, h₆⟩ => ⟨h₁, h₂, h₃, h₄, h₅, h₆⟩,
      fun ⟨h₁, h₂, h₃, h₄, h₅, h₆⟩ => ⟨h₁, h₂, h₃, h₄, h₅, h₆⟩⟩

theorem marksApart_default : MarksApart {} := by decide

/-- What a number is written with is in no mark. -/
theorem not_mem_of_isMark {mark : String} (hMark : IsMark mark) (hPoint : '.' ∉ mark.toList)
    {c : Char} (hc : c.isDigit = true ∨ c = '-' ∨ c = '.') : c ∉ mark.toList := by
  intro hMem
  obtain ⟨hDigit, -, hMinus, -⟩ := hMark c hMem
  rcases hc with h | rfl | rfl
  · rw [hDigit] at h
    exact absurd h (by decide)
  · exact hMinus rfl
  · exact hPoint hMem

-- ---------------------------------------------------------------------------
-- Removing the marks
-- ---------------------------------------------------------------------------

/-- Without a separator there are no groups. -/
@[simp] theorem grouped_nil (cs : List Char) : grouped [] cs = cs := by
  induction cs with
  | nil => rfl
  | cons c cs ih =>
    rw [grouped, List.nil_append, ih]
    split <;> rfl

/-- A text begins as it does without its separators, which stand between digits
only. -/
theorem head?_grouped (separator cs : List Char) : (grouped separator cs).head? = cs.head? := by
  cases cs with
  | nil => rfl
  | cons c cs => rfl

theorem getLast?_grouped (separator cs : List Char) :
    (grouped separator cs).getLast? = cs.getLast? := by
  induction cs with
  | nil => rfl
  | cons c cs ih =>
    cases cs with
    | nil => rfl
    | cons c' cs =>
      have hLast : (grouped separator (c' :: cs)).getLast? =
          some ((c' :: cs).getLast (by simp)) := by
        rw [ih]
        exact List.getLast?_eq_some_getLast (by simp)
      rw [grouped, List.getLast?_cons_cons]
      split
      · rw [List.getLast?_cons, List.getLast?_append, hLast]
        rfl
      · rw [List.getLast?_cons, hLast]
        rfl

/-- A separator loses its dollar signs and commas wherever it stands. -/
theorem filter_grouped {separator cs : List Char} (h : AllDigits cs) :
    (grouped separator cs).filter isKept = grouped (separator.filter isKept) cs := by
  induction cs with
  | nil => rfl
  | cons c cs ih =>
    obtain ⟨hc, hcs⟩ := allDigits_cons.mp h
    rw [grouped, grouped, List.filter_cons_of_pos (isKept_of_isDigit hc)]
    split
    · rw [List.filter_append, ih hcs]
    · rw [ih hcs]

/-- A separator that is whole is removed wherever it stands, because no digit is
part of one. -/
theorem eraseAll_grouped {separator cs : List Char} (h : ∀ c ∈ cs, c ∉ separator)
    (behind : List Char) :
    eraseAll separator (grouped separator cs ++ behind) = cs ++ eraseAll separator behind := by
  induction cs with
  | nil => rfl
  | cons c cs ih =>
    obtain ⟨hc, hcs⟩ := List.forall_mem_cons.mp h
    have hFirst : ∀ c' ∈ [c], c' ∉ separator := List.forall_mem_singleton.mpr hc
    rw [grouped, List.cons_append, ← List.singleton_append,
      eraseAll_append_of_disjoint hFirst, List.singleton_append, List.cons_append]
    split
    · rw [List.append_assoc, eraseAll_append_self, ih hcs]
    · rw [ih hcs]

section Removal

variable {f : Formatting} {d : Decimal}

/-- Dollar signs and commas go first, and only those of the marks do. What is
left is the same text with what is left of the marks. -/
theorem filter_shown (f : Formatting) (d : Decimal) : (f.shown d).filter isKept =
    f.shownWith (f.currencySymbol.toList.filter isKept)
      (f.groupingSeparator.toList.filter isKept) d := by
  have hSign : (signOf d).filter isKept = signOf d := by
    refine List.filter_eq_self.mpr fun c hc => ?_
    rw [mem_signOf hc]
    decide
  have hPointed : (f.pointed d).filter isKept = f.pointed d := by
    refine List.filter_eq_self.mpr fun c hc => ?_
    rcases mem_pointed hc with hDigit | rfl
    · exact isKept_of_isDigit hDigit
    · decide
  have hWhole : AllDigits d.wholeDigits := allDigits_decimal _
  rw [shown, shownWith, List.filter_append, List.filter_append, List.filter_append, hSign,
    hPointed, filter_grouped hWhole, shownWith]

/-- The symbol stands once, and nothing around it has a character of it. So it
is removed there if it was written as a whole. If a character of it was lost on
the way, what is left of it stays. -/
theorem eraseAll_symbol (h : f.MarksApart) {separator : List Char}
    (hSeparator : separator ⊆ f.groupingSeparator.toList) :
    eraseAll f.currencySymbol.toList
        (f.shownWith (f.currencySymbol.toList.filter isKept) separator d) =
      f.shownWith (leftover f.currencySymbol) separator d := by
  have hSign : ∀ c ∈ signOf d, c ∉ f.currencySymbol.toList := fun c hc =>
    not_mem_of_isMark h.symbol h.symbol_point (Or.inr (Or.inl (mem_signOf hc)))
  have hRest : ∀ c ∈ grouped separator d.wholeDigits ++ f.pointed d,
      c ∉ f.currencySymbol.toList := by
    intro c hc
    rcases List.mem_append.mp hc with hWhole | hPointed
    · rcases mem_grouped hWhole with hDigit | hMem
      · exact not_mem_of_isMark h.symbol h.symbol_point (Or.inl (allDigits_decimal _ c hDigit))
      · exact h.apart c (hSeparator hMem)
    · exact not_mem_of_isMark h.symbol h.symbol_point ((mem_pointed hPointed).imp_right Or.inr)
  -- without the symbol there is nothing to remove, and all of it goes where it is whole
  have hGone : eraseAll f.currencySymbol.toList (f.shownWith [] separator d) =
      f.shownWith [] separator d := by
    rw [shownWith, List.append_nil, eraseAll_append_of_disjoint hSign, eraseAll_of_disjoint hRest]
  have hWhole : eraseAll f.currencySymbol.toList (f.shownWith f.currencySymbol.toList separator d) =
      f.shownWith [] separator d := by
    rw [shownWith, shownWith, List.append_nil, List.append_assoc, eraseAll_append_of_disjoint hSign,
      eraseAll_append_self, eraseAll_of_disjoint hRest]
  refine eraseAll_leftover (f.shownWith · separator d) hGone hWhole fun c hc hLost hMem => ?_
  rcases List.mem_append.mp hMem with hMem | hMem
  · rcases List.mem_append.mp hMem with hMem | hMem
    · exact hSign c hMem hc
    · have hStays := (List.mem_filter.mp hMem).2
      rw [hLost] at hStays
      exact absurd hStays (by decide)
  · exact hRest c hMem hc

/-- The separator stands in some places or in none, and nothing around them has
a character of it. It is looked for after the symbol is gone. -/
theorem eraseAll_separator (h : f.MarksApart) {symbol : List Char}
    (hSymbol : symbol ⊆ f.currencySymbol.toList) :
    eraseAll f.groupingSeparator.toList
        (f.shownWith symbol (f.groupingSeparator.toList.filter isKept) d) =
      f.shownWith symbol (leftover f.groupingSeparator) d := by
  -- the separator has nothing in common with what stands before it and behind it
  have hBefore : ∀ c ∈ signOf d ++ symbol, c ∉ f.groupingSeparator.toList := by
    intro c hc hMem
    rcases List.mem_append.mp hc with hSign | hc
    · have hMinus : c = '-' := mem_signOf hSign
      exact not_mem_of_isMark h.separator h.separator_point (Or.inr (Or.inl hMinus)) hMem
    · exact h.apart c hMem (hSymbol hc)
  have hDigits : ∀ c ∈ d.wholeDigits, c ∉ f.groupingSeparator.toList := fun c hc =>
    not_mem_of_isMark h.separator h.separator_point (Or.inl (allDigits_decimal _ c hc))
  have hPointed : ∀ c ∈ f.pointed d, c ∉ f.groupingSeparator.toList := fun c hc =>
    not_mem_of_isMark h.separator h.separator_point ((mem_pointed hc).imp_right Or.inr)
  have hGone : eraseAll f.groupingSeparator.toList (f.shownWith symbol [] d) =
      f.shownWith symbol [] d := by
    refine eraseAll_of_disjoint fun c hc => ?_
    rw [shownWith, grouped_nil] at hc
    rcases List.mem_append.mp hc with hc | hc
    · exact hBefore c hc
    · exact (List.mem_append.mp hc).elim (hDigits c) (hPointed c)
  have hWhole : eraseAll f.groupingSeparator.toList
      (f.shownWith symbol f.groupingSeparator.toList d) = f.shownWith symbol [] d := by
    rw [shownWith, shownWith, eraseAll_append_of_disjoint hBefore, eraseAll_grouped hDigits,
      eraseAll_of_disjoint hPointed, grouped_nil]
  refine eraseAll_leftover (f.shownWith symbol · d) hGone hWhole fun c hc hLost hMem => ?_
  rcases List.mem_append.mp hMem with hMem | hMem
  · exact hBefore c hMem hc
  · rcases List.mem_append.mp hMem with hMem | hMem
    · rcases mem_grouped hMem with hDigit | hSeparator
      · exact hDigits c hDigit hc
      · have hStays := (List.mem_filter.mp hSeparator).2
        rw [hLost] at hStays
        exact absurd hStays (by decide)
    · exact hPointed c hMem hc

/-- What is displayed begins and ends with no blank, even if the separator is
one. So trimming it takes nothing away. -/
theorem isTrimmed_shownWith (h : f.MarksApart) {symbol : List Char} (separator : List Char)
    (hSymbol : symbol ⊆ f.currencySymbol.toList) : IsTrimmed (f.shownWith symbol separator d) := by
  -- the front is a sign and the symbol, and the end is digits
  have hFront : ∀ c ∈ signOf d ++ symbol, isBlank c = false := by
    intro c hc
    rcases List.mem_append.mp hc with hSign | hc
    · rw [mem_signOf hSign]
      decide
    · exact h.symbol_blank c (hSymbol hc)
  have hPointed : ∀ c ∈ f.pointed d, isBlank c = false := by
    intro c hc
    rcases mem_pointed hc with hDigit | rfl
    · exact isBlank_of_isDigit hDigit
    · decide
  have hWhole : ∀ c ∈ d.wholeDigits, isBlank c = false := fun c hc =>
    isBlank_of_isDigit (allDigits_decimal _ c hc)
  have hne : grouped separator d.wholeDigits ≠ [] := by
    rw [← List.getLast?_isSome, getLast?_grouped, List.getLast?_isSome]
    exact decimal_ne_nil _
  constructor
  · intro c hc
    rcases mem_head?_append hc with hHead | hHead
    · exact hFront c (List.mem_of_mem_head? hHead)
    · rcases mem_head?_append hHead with hHead | hHead
      · rw [head?_grouped] at hHead
        exact hWhole c (List.mem_of_mem_head? hHead)
      · exact hPointed c (List.mem_of_mem_head? hHead)
  · intro c hc
    -- there are digits before the point, so the end is not that of the symbol
    rcases mem_getLast?_append hc with ⟨hNil, -⟩ | hLast
    · exact absurd (List.append_eq_nil_iff.mp hNil).1 hne
    · rcases mem_getLast?_append hLast with ⟨-, hLast⟩ | hLast
      · rw [getLast?_grouped] at hLast
        exact hWhole c (List.mem_of_mem_getLast? hLast)
      · exact hPointed c (List.mem_of_mem_getLast? hLast)

/-- A reader removes the marks, as far as they can be removed. What is left of
them stands where they stood. -/
theorem amount?_shown (h : f.MarksApart) : f.amount? (String.ofList (f.shown d)) =
    Decimal.readExact
      (f.shownWith (leftover f.currencySymbol) (leftover f.groupingSeparator) d) := by
  have hFilter : f.groupingSeparator.toList.filter isKept ⊆ f.groupingSeparator.toList :=
    fun c hc => List.mem_of_mem_filter hc
  have hTrim : trim (f.shown d) = f.shown d :=
    (isTrimmed_shownWith h _ (List.Subset.refl _)).trim_eq
  show Decimal.readExact (trim (eraseAll f.groupingSeparator.toList
    (eraseAll f.currencySymbol.toList
      ((trim (String.ofList (f.shown d)).toList).filter isKept)))) = _
  rw [String.toList_ofList, hTrim, filter_shown, eraseAll_symbol h hFilter,
    eraseAll_separator h (leftover_subset _),
    (isTrimmed_shownWith h _ (leftover_subset _)).trim_eq]

end Removal

-- ---------------------------------------------------------------------------
-- Groups
-- ---------------------------------------------------------------------------

section Groups

variable {separator cs : List Char}

/-- Up to three digits are one group. -/
theorem grouped_of_length_le (h : cs.length ≤ 3) : grouped separator cs = cs := by
  induction cs with
  | nil => rfl
  | cons c cs ih =>
    rw [List.length_cons] at h
    have hNone : (!cs.isEmpty && cs.length % 3 == 0) = false := by
      cases cs with
      | nil => rfl
      | cons c' cs =>
        rw [List.length_cons] at h
        have hMod : (cs.length + 1) % 3 ≠ 0 := by omega
        simp [hMod]
    rw [grouped, hNone, ih (by omega)]
    rfl

/-- Of more than three digits, some stand before a separator. What is left of it
is then behind a digit, where no numeral can have it. -/
theorem exists_grouped (separator : List Char) (h : 3 < cs.length) :
    ∃ front rest, grouped separator cs = front ++ (separator ++ rest) ∧ front ⊆ cs := by
  induction cs with
  | nil => simp at h
  | cons c cs ih =>
    rw [List.length_cons] at h
    -- the separator stands behind this digit, or more than three digits follow it
    by_cases hGroup : (!cs.isEmpty && cs.length % 3 == 0) = true
    · refine ⟨[c], grouped separator cs, ?_, by simp⟩
      rw [grouped, if_pos hGroup]
      rfl
    · have hMore : 3 < cs.length := by
        have hne : cs ≠ [] := by
          rintro rfl
          simp at h
        have hMod : cs.length % 3 ≠ 0 := by
          intro hZero
          exact hGroup (by simp [hne, hZero])
        omega
      obtain ⟨front, rest, hGrouped, hSubset⟩ := ih hMore
      refine ⟨c :: front, rest, ?_, List.cons_subset_cons c hSubset⟩
      rw [grouped, if_neg hGroup, hGrouped]
      rfl

end Groups

/-- A decimal has up to three digits before the point if it is less than a
thousand. This tells from the number whether a separator is written. -/
theorem length_wholeDigits_le_iff {d : Decimal} {places : Nat} (h : d.scale ≤ places) :
    d.wholeDigits.length ≤ 3 ↔ (d.signedAt places).natAbs < 1000 * 10 ^ places := by
  obtain ⟨k, rfl⟩ := Nat.exists_eq_add_of_le h
  have hPos : 0 < 10 ^ k := Nat.pow_pos (by decide)
  have hDigits : d.wholeDigits.length ≤ 3 ↔ d.mantissa / 10 ^ d.scale < 10 ^ 3 :=
    Nat.length_toDigits_le_iff (by decide) (by decide)
  rw [hDigits, Nat.div_lt_iff_lt_mul (Nat.pow_pos (by decide)), Decimal.natAbs_signedAt,
    Nat.add_sub_cancel_left, Nat.pow_add, ← Nat.mul_assoc, Nat.mul_lt_mul_right hPos]

-- ---------------------------------------------------------------------------
-- What is read
-- ---------------------------------------------------------------------------

section Reading

variable {f : Formatting} {d : Decimal}

/-- The sign and the digits are read as the amount in units of its last
place. -/
theorem readExact_shownWith (hScale : d.scale ≤ f.places) (hPlaces : f.places ≤ 28)
    (hFits : d.mantissa * 10 ^ (f.places - d.scale) < 2 ^ 96) :
    ∃ d', Decimal.readExact (f.shownWith [] [] d) = some d' ∧
      d'.toRat = d.signedAt f.places / 10 ^ f.places := by
  have hText : f.shownWith [] [] d =
      (if d.negative && !d.isZero then ['-'] else []) ++ d.unsignedText f.places := by
    rw [shownWith, grouped_nil, List.append_nil, Decimal.unsignedText, max_eq_right hScale, pointed]
    congr 1
    split
    · rw [List.append_nil]
    · rfl
  rw [hText, Decimal.readExact, Decimal.readWith_sign _ (Decimal.unsignedText_head d _),
    Decimal.readDigits_unsignedText hScale hPlaces hFits, Decimal.ofParts?,
    dif_pos ⟨hFits, hPlaces⟩]
  refine ⟨_, rfl, ?_⟩
  rw [Decimal.toRat, Decimal.signedAt, Decimal.signed, Decimal.signed, Decimal.isZero]
  by_cases hZero : d.mantissa = 0
  · simp [hZero]
  · cases hSign : d.negative <;> simp [hZero]

/-- Behind the sign and some digits nothing of a mark can stand, unless it is a
point or an underscore. -/
theorem readExact_eq_none {digits rest : List Char} {c : Char} (hDigits : AllDigits digits)
    (hc : c.isDigit = false ∧ c ≠ '+' ∧ c ≠ '-' ∧ c ≠ '_') (hPoint : c ≠ '.') :
    Decimal.readExact (signOf d ++ (digits ++ c :: rest)) = none := by
  obtain ⟨hDigit, hPlus, hMinus, hUnderscore⟩ := hc
  have hHead : ∀ c' ∈ (digits ++ c :: rest).head?, c' ≠ '-' ∧ c' ≠ '+' := by
    intro c' hc'
    rcases mem_head?_append hc' with hFirst | hFirst
    · have hNumeral := ne_of_isDigit (hDigits c' (List.mem_of_mem_head? hFirst))
      exact ⟨hNumeral.1, hNumeral.2.1⟩
    · obtain rfl := Option.some.inj hFirst
      exact ⟨hMinus, hPlus⟩
  have hNot : Decimal.isNumeral c = false := by
    simp [Decimal.isNumeral, hDigit, hPoint, hUnderscore]
  rw [Decimal.readExact, signOf, Decimal.readWith_sign _ hHead,
    Decimal.readDigits_eq_none hDigits hNot]

/-- What is left of a mark makes an amount unreadable, if it was written. It
begins with a character that is no digit and no point, and one such character is
enough for a text to be no number. -/
theorem readExact_leftover (h : f.MarksApart) (hLeft : ¬Removable f.currencySymbol ∨
      ¬Removable f.groupingSeparator ∧ 3 < d.wholeDigits.length) :
    Decimal.readExact (f.shownWith (leftover f.currencySymbol) (leftover f.groupingSeparator) d) =
      none := by
  by_cases hSymbol : Removable f.currencySymbol
  -- a symbol that can be removed leaves the separator to be in the way
  · obtain ⟨hSeparator, hLength⟩ := hLeft.resolve_left (not_not_intro hSymbol)
    obtain ⟨c, others, hCons⟩ := List.exists_cons_of_ne_nil (leftover_ne_nil hSeparator)
    have hMem : c ∈ f.groupingSeparator.toList := leftover_subset _ (hCons ▸ List.mem_cons_self)
    have hPoint : c ≠ '.' := fun hc => h.separator_point (hc ▸ hMem)
    obtain ⟨front, rest, hGrouped, hFront⟩ :=
      exists_grouped (leftover f.groupingSeparator) hLength
    have hDigits : AllDigits front := fun c' hc' => allDigits_decimal _ c' (hFront hc')
    rw [shownWith, leftover_of_removable hSymbol, List.append_nil, hGrouped, hCons,
      List.append_assoc front, List.append_assoc, List.cons_append]
    exact readExact_eq_none hDigits (h.separator c hMem) hPoint
  · obtain ⟨c, others, hCons⟩ := List.exists_cons_of_ne_nil (leftover_ne_nil hSymbol)
    have hMem : c ∈ f.currencySymbol.toList := leftover_subset _ (hCons ▸ List.mem_cons_self)
    have hPoint : c ≠ '.' := fun hc => h.symbol_point (hc ▸ hMem)
    have hNil : AllDigits [] := by
      intro c' hc'
      simp at hc'
    rw [shownWith, hCons, List.append_assoc, List.cons_append, ← List.nil_append (c :: _)]
    exact readExact_eq_none hNil (h.symbol c hMem) hPoint

/-- An amount is read from its display if the marks that were written can be
removed. A separator that was not written need not be removable. -/
theorem exists_amount?_shown (h : f.MarksApart) (hPlaces : f.places ≤ 28)
    (hScale : d.scale ≤ f.places)
    (hFits : (d.signedAt f.places).natAbs < 2 ^ 96) (hSymbol : Removable f.currencySymbol)
    (hSeparator : Removable f.groupingSeparator ∨ d.wholeDigits.length ≤ 3) :
    ∃ d', f.amount? (String.ofList (f.shown d)) = some d' ∧
      d'.toRat = d.signedAt f.places / 10 ^ f.places := by
  have hGrouped : f.shownWith [] (leftover f.groupingSeparator) d = f.shownWith [] [] d := by
    rcases hSeparator with hRemovable | hLength
    · rw [leftover_of_removable hRemovable]
    · rw [shownWith, shownWith, grouped_of_length_le hLength, grouped_nil]
  rw [Decimal.natAbs_signedAt] at hFits
  rw [amount?_shown h, leftover_of_removable hSymbol, hGrouped]
  exact readExact_shownWith hScale hPlaces hFits

end Reading

/-- An amount that is displayed is read as the nearest one with two places, if
it fits. Two places more may be too many for a decimal that has none. -/
theorem amount?_currency (a : Decimal) :
    ∃ text n, currency {} a = .ok text ∧ Wording text [text] ∧
      IsNearestEven (a.toRat * 100) n ∧
      (n.natAbs < 2 ^ 96 → ∃ d, amount? {} text = some d ∧ d.toRat = n / 100) := by
  have hScale : (a.round 2).scale ≤ 2 := Decimal.scale_round_le a 2
  refine ⟨_, (a.round 2).signedAt 2, currency_default a, wording_shown _, ?_, ?_⟩
  · have hNearest := Decimal.isNearestEven_round a 2
    norm_num at hNearest
    exact hNearest
  · intro hFits
    obtain ⟨d, hd, hValue⟩ := exists_amount?_shown marksApart_default (by decide) hScale hFits
      (by decide) (Or.inl (by decide))
    refine ⟨d, hd, ?_⟩
    norm_num at hValue
    exact hValue

/-- Whether the marks that are written with a number of units of the last
place are all removed again: the symbol always is, and the separator too
unless there is only one group. -/
def MarksRemovable (f : Formatting) (n : Int) : Prop :=
  Removable f.currencySymbol ∧
    (Removable f.groupingSeparator ∨ n.natAbs < 1000 * 10 ^ f.places)

/-- With marks that stand apart, an amount that is displayed is read as the
nearest one with the places that are shown, if it fits and the marks are
removed. If one of them is not, nothing is read. -/
theorem amount?_of_currency {f : Formatting} {a : Decimal} {text : String} (hMarks : f.MarksApart)
    (hPlaces : f.places ≤ 28) (hText : f.currency a = .ok text) :
    ∃ n, IsNearestEven (a.toRat * 10 ^ f.places) n ∧
      (f.MarksRemovable n → n.natAbs < 2 ^ 96 →
        ∃ d, f.amount? text = some d ∧ d.toRat = n / 10 ^ f.places) ∧
      (¬f.MarksRemovable n → f.amount? text = none) := by
  obtain ⟨-, rfl⟩ := currency_eq_ok.mp hText
  have hScale : (a.round f.places).scale ≤ f.places := Decimal.scale_round_le a _
  refine ⟨_, Decimal.isNearestEven_round a f.places, ?_, ?_⟩
  · rintro ⟨hSymbol, hSeparator⟩ hFits
    rw [← length_wholeDigits_le_iff hScale] at hSeparator
    exact exists_amount?_shown hMarks hPlaces hScale hFits hSymbol hSeparator
  · intro hNot
    rw [amount?_shown hMarks]
    refine readExact_leftover hMarks ?_
    rw [MarksRemovable, ← length_wholeDigits_le_iff hScale, not_and_or, not_or, not_le] at hNot
    exact hNot

/-- The symbol of the euro, with blanks between groups. -/
def euros : Formatting := { currencySymbol := "€", groupingSeparator := " " }

/-- A price that is halfway between two amounts with two places. -/
def halfwayPrice : Decimal := ⟨false, 1234565, 3, by decide, by decide⟩

/-- Rounding goes to the even cent, and a blank between the groups is
removed. -/
theorem euros_read_again : euros.MarksApart ∧ euros.currency halfwayPrice = .ok "€1 234.56" ∧
    ∃ d, euros.amount? "€1 234.56" = some d ∧ d.toRat = 123456 / 100 := by
  have hMarks : euros.MarksApart := by decide
  have hText : euros.currency halfwayPrice = .ok "€1 234.56" := by decide
  have hValue : halfwayPrice.toRat * 10 ^ euros.places = 246913 / 2 := by
    rw [show euros.places = 2 from rfl]
    simp only [Decimal.toRat, Decimal.signed, halfwayPrice]
    norm_num
  obtain ⟨n, ⟨hNear, hEven⟩, hRead, -⟩ := amount?_of_currency hMarks (by decide) hText
  rw [hValue] at hNear hEven
  have hBounds : n = 123456 ∨ n = 123457 := by
    obtain ⟨hLow, hHigh⟩ := abs_le.mp hNear
    have hle : (n : ℚ) ≤ (123457 : Int) := by push_cast; linarith
    have hge : ((123456 : Int) : ℚ) ≤ n := by push_cast; linarith
    have hle := Int.cast_le.mp hle
    have hge := Int.cast_le.mp hge
    omega
  rcases hBounds with rfl | rfl
  · exact ⟨hMarks, hText, hRead ⟨by decide, Or.inl (by decide)⟩ (by decide)⟩
  · exact absurd (hEven (by norm_num)) (by decide)

/-- A symbol that holds a dollar sign and letters. -/
def usDollars : Formatting := { currencySymbol := "US$" }

/-- The marks stand apart and the amount fits, but nothing is read: the letters
of the symbol are left. -/
theorem usDollars_not_read_again : usDollars.MarksApart ∧
    usDollars.currency ⟨false, 1250, 2, by decide, by decide⟩ = .ok "US$12.50" ∧
    usDollars.amount? "US$12.50" = none := by
  refine ⟨by decide, ?_, ?_⟩
  · decide
  · decide

end Formatting

end HomeLedger
