import HomeLedger.Proofs.Formatting.Amount

/-!
# HomeLedger — the layout of an amount

What an amount looks like is said part by part and without a look at how the
text is put together: groups of digits with the separator between them, and a
point with the digits behind it. The separator is placed while the digits are
gone through from the left, by a count of those that are still to come; that
this makes groups of three counted from the right, at every number of digits,
is what has to be shown (`exists_inThrees`).

The digits are those of the rounded amount, so a carry may add one to them,
and an amount that rounds to zero has no sign.

Main results:

* `exists_inThrees` — separators stand between groups of three.
* `shows_round` — the digits are those of the nearest amount.
* `currency_layout` — what is displayed of an amount, part by part.
-/

namespace HomeLedger

open Text

-- ---------------------------------------------------------------------------
-- Groups of three
-- ---------------------------------------------------------------------------

/-- Whether digits are cut into groups of three from the right. What is left
over for the first group are one to three digits. There is one such cut, which
is why it says what the groups are. -/
structure InThrees (digits first : List Char) (others : List (List Char)) : Prop where
  all : first ++ others.flatten = digits
  first_pos : 1 ≤ first.length
  first_le : first.length ≤ 3
  others_length : ∀ group ∈ others, group.length = 3

namespace InThrees

variable {digits first : List Char} {others : List (List Char)}

/-- Only the first group decides what the number of digits leaves over, because
all others are full. -/
theorem length_eq (h : InThrees digits first others) :
    digits.length = first.length + 3 * others.length := by
  have hOthers : others.flatten.length = 3 * others.length := by
    rw [List.length_flatten, List.eq_replicate_of_mem (List.forall_mem_map.mpr h.others_length),
      List.sum_replicate_nat, List.length_map, Nat.mul_comm]
  rw [← h.all, List.length_append, hOthers]

/-- A digit in front of full groups begins a new one. This is where the count
puts a separator. -/
theorem cons_group (h : InThrees digits first others) (hFull : digits.length % 3 = 0) (c : Char) :
    InThrees (c :: digits) [c] (first :: others) where
  all := by rw [List.flatten_cons, h.all, List.singleton_append]
  first_pos := Nat.le_refl 1
  first_le := Nat.le_add_left 1 2
  others_length := by
    have hLength := h.length_eq
    have hPos := h.first_pos
    have hle := h.first_le
    exact List.forall_mem_cons.mpr ⟨by omega, h.others_length⟩

/-- Any other digit goes to the first group. -/
theorem cons_first (h : InThrees digits first others) (hRoom : digits.length % 3 ≠ 0) (c : Char) :
    InThrees (c :: digits) (c :: first) others where
  all := by rw [List.cons_append, h.all]
  first_pos := by simp
  first_le := by
    have hLength := h.length_eq
    have hle := h.first_le
    rw [List.length_cons]
    omega
  others_length := h.others_length

end InThrees

namespace Formatting

/-- The separator stands between groups of three digits. The induction is on the
digits from the left, where the count of those to come says whether the group
goes on. -/
theorem exists_inThrees (separator : List Char) {digits : List Char} (h : digits ≠ []) :
    ∃ first others, InThrees digits first others ∧
      grouped separator digits = separator.intercalate (first :: others) := by
  induction digits with
  | nil => exact absurd rfl h
  | cons c cs ih =>
    by_cases hLast : cs = []
    · obtain rfl := hLast
      refine ⟨[c], [], ⟨rfl, by simp, by simp, by simp⟩, ?_⟩
      rw [List.intercalate_singleton]
      rfl
    · obtain ⟨first, others, hGroups, hText⟩ := ih hLast
      have hMore : cs.isEmpty = false := by simpa using hLast
      -- a digit in front of full groups begins a new one, any other goes to the first group
      by_cases hFull : cs.length % 3 = 0
      · refine ⟨[c], first :: others, hGroups.cons_group hFull c, ?_⟩
        rw [grouped, if_pos (by simp [hMore, hFull]), hText, List.intercalate_cons_cons,
          List.append_assoc, List.singleton_append]
      · refine ⟨c :: first, others, hGroups.cons_first hFull c, ?_⟩
        rw [grouped, if_neg (by simp [hFull]), hText]
        cases others with
        | nil => rw [List.intercalate_singleton, List.intercalate_singleton]
        | cons group others =>
          rw [List.intercalate_cons_cons, List.intercalate_cons_cons]
          rfl

-- ---------------------------------------------------------------------------
-- The parts of a display
-- ---------------------------------------------------------------------------

/-- The digits of an amount that is displayed: those before the point in
groups, and those behind it. -/
structure Layout where
  first : List Char
  others : List (List Char)
  fraction : List Char

namespace Layout

/-- The digits before the point. -/
def whole (s : Layout) : List Char := s.first ++ s.others.flatten

/-- The text of a number of units of the last place under the marks of a
formatting: a sign if the number is negative, the symbol, the groups with the
separator between them, and behind a point the other digits, if there are to
be any. -/
def text (f : Formatting) (n : Int) (s : Layout) : List Char :=
  (if n < 0 then ['-'] else []) ++ f.currencySymbol.toList ++
    f.groupingSeparator.toList.intercalate (s.first :: s.others) ++
    if f.places = 0 then [] else '.' :: s.fraction

/-- Whether a layout shows a number of units of the last of so many places: the
groups are of three digits, a zero begins the digits before the point only if it
is all of them, there are as many digits behind the point as places, and all the
digits together denote the number without its sign. So a layout is what it is by
the number alone. -/
structure Shows (s : Layout) (places : Nat) (n : Int) : Prop where
  groups : InThrees s.whole s.first s.others
  digits : AllDigits (s.whole ++ s.fraction)
  leading : s.whole.head? = some '0' → s.whole = ['0']
  places : s.fraction.length = places
  value : ofDecimal (s.whole ++ s.fraction) = n.natAbs

end Layout

-- ---------------------------------------------------------------------------
-- What is displayed
-- ---------------------------------------------------------------------------

/-- A zero begins the digits of a number only if it is all of them. -/
theorem decimal_leading {n : Nat} (h : (decimal n).head? = some '0') : decimal n = ['0'] := by
  rcases Nat.eq_zero_or_pos n with rfl | hPos
  · rfl
  · obtain ⟨c, cs, hCons, hc⟩ := decimal_head hPos
    rw [hCons, List.head?_cons, Option.some.injEq] at h
    exact absurd h hc

/-- A decimal is negative, in units of any place, if it has a sign and is not
zero. That it is so in any place keeps a rounded amount from losing its sign
otherwise than by becoming zero. -/
theorem signedAt_neg_iff (d : Decimal) (places : Nat) :
    d.signedAt places < 0 ↔ (d.negative && !d.isZero) = true := by
  have hPos : (0 : Int) < 10 ^ (places - d.scale) := by positivity
  have hSigned : d.signed < 0 ↔ (d.negative && !d.isZero) = true := by
    unfold Decimal.signed Decimal.isZero
    cases d.negative with
    | false => simp
    | true => simp [Nat.pos_iff_ne_zero]
  rw [← hSigned, Decimal.signedAt]
  constructor
  · intro h
    by_contra hNot
    exact absurd (mul_nonneg (not_lt.mp hNot) hPos.le) (not_le.mpr h)
  · exact fun h => mul_neg_of_neg_of_pos h hPos

/-- The sign that is written is that of the number, so an amount that rounds to
zero has none. -/
theorem signOf_eq (d : Decimal) (places : Nat) :
    signOf d = if d.signedAt places < 0 then ['-'] else [] := by
  unfold signOf
  by_cases h : d.signedAt places < 0
  · rw [if_pos h, if_pos ((signedAt_neg_iff d places).mp h)]
  · rw [if_neg h, if_neg (mt (signedAt_neg_iff d places).mpr h)]

/-- A decimal is displayed by a layout of the units that it has. Places that it
does not have are filled up with zeros. -/
theorem shows_round (f : Formatting) {d : Decimal} (h : d.scale ≤ f.places) :
    ∃ s : Layout, s.Shows f.places (d.signedAt f.places) ∧
      f.shown d = s.text f (d.signedAt f.places) := by
  obtain ⟨first, others, hGroups, hText⟩ :=
    exists_inThrees f.groupingSeparator.toList (decimal_ne_nil (d.mantissa / 10 ^ d.scale))
  have hWhole : first ++ others.flatten = d.wholeDigits := hGroups.all
  have hValue : ofDecimal (d.wholeDigits ++ d.fractionDigits f.places) =
      (d.signedAt f.places).natAbs := by
    rw [ofDecimal_append, Decimal.wholeDigits, ofDecimal_decimal,
      Decimal.ofDigitChars_fractionDigits h, Decimal.natAbs_signedAt]
  refine ⟨⟨first, others, d.fractionDigits f.places⟩, ?_, ?_⟩
  · refine ⟨?_, ?_, ?_, Decimal.length_fractionDigits h, ?_⟩
    · rwa [Layout.whole, hWhole]
    · rw [Layout.whole, hWhole]
      exact allDigits_append.mpr ⟨allDigits_decimal _, Decimal.allDigits_fractionDigits d _⟩
    · rw [Layout.whole, hWhole]
      exact decimal_leading
    · rwa [Layout.whole, hWhole]
  · rw [shown, shownWith, signOf_eq d f.places, Decimal.wholeDigits, hText, Layout.text,
      ← List.append_assoc]
    rfl

/-- What is displayed of an amount: the nearest amount with the places that are
shown, and the even one of two, as a sign if it is negative, the symbol, groups
of three digits, and the digits behind the point. -/
theorem currency_layout {f : Formatting} {a : Decimal} {text : String}
    (hText : f.currency a = .ok text) :
    ∃ n, IsNearestEven (a.toRat * 10 ^ f.places) n ∧
      ∃ s : Layout, s.Shows f.places n ∧ text = String.ofList (s.text f n) := by
  obtain ⟨-, rfl⟩ := currency_eq_ok.mp hText
  obtain ⟨s, hShows, hShown⟩ := shows_round f (Decimal.scale_round_le a f.places)
  exact ⟨_, Decimal.isNearestEven_round a f.places, s, hShows, by rw [hShown]⟩

/-- An amount of just below a thousand that is rounded up to it. -/
def nearlyThousand : Decimal := ⟨true, 999995, 3, by decide, Nat.le_add_right 3 25⟩

/-- The carry makes a digit more, and with it a group: the amount has three
digits before the point, and what is displayed has four. -/
theorem nearlyThousand_laid_out : currency {} nearlyThousand = .ok "-$1,000.00" ∧
    ∃ n, IsNearestEven (nearlyThousand.toRat * 10 ^ 2) n ∧
      ∃ s : Layout, s.Shows 2 n ∧ "-$1,000.00" = String.ofList (s.text {} n) := by
  have hText : currency {} nearlyThousand = .ok "-$1,000.00" := by decide
  obtain ⟨n, hNearest, s, hShows, hLayout⟩ := currency_layout hText
  exact ⟨hText, n, hNearest, s, hShows, hLayout⟩

end Formatting

end HomeLedger
