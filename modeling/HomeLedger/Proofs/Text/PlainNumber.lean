import HomeLedger.Proofs.Text.Digits

/-!
# HomeLedger — numerals

A number in plain notation is perhaps a sign, digits, and perhaps a point with
digits behind it. What it denotes is counted in units of its last place: the
point says only which place that is.
-/

namespace HomeLedger.Text

/-- The sign in front of a number, if there is one. -/
inductive Sign where
  | absent
  | plus
  | minus
  deriving DecidableEq, Repr

/-- A sign as it is written. -/
def Sign.chars : Sign → List Char
  | absent => []
  | plus => ['+']
  | minus => ['-']

/-- A number in plain notation. There are digits before the point; without any
behind it there is no point. The digits are kept as they are written, zeros in
front included. -/
structure PlainNumber where
  sign : Sign
  whole : List Char
  fraction : List Char
  whole_ne_nil : whole ≠ []
  whole_digits : AllDigits whole
  fraction_digits : AllDigits fraction

namespace PlainNumber

/-- The numeral without its sign. -/
def unsigned (m : PlainNumber) : List Char :=
  m.whole ++ if m.fraction = [] then [] else '.' :: m.fraction

/-- The numeral as it is written. -/
def chars (m : PlainNumber) : List Char := m.sign.chars ++ m.unsigned

/-- All the digits read as one whole number, as if there were no point. -/
def units (m : PlainNumber) : Nat := ofDecimal (m.whole ++ m.fraction)

/-- The number of units of the last place that the numeral denotes. -/
def signed (m : PlainNumber) : Int := if m.sign = .minus then -(m.units : Int) else m.units

/-- A numeral without its sign begins with a digit. -/
theorem exists_unsigned_eq (m : PlainNumber) : ∃ c cs, m.unsigned = c :: cs ∧ c.isDigit = true := by
  obtain ⟨c, cs, hCons⟩ := List.exists_cons_of_ne_nil m.whole_ne_nil
  refine ⟨c, cs ++ if m.fraction = [] then [] else '.' :: m.fraction, ?_, ?_⟩
  · rw [unsigned, hCons, List.cons_append]
  · exact m.whole_digits c (by simp [hCons])

/-- A numeral is never empty, as there are digits before the point. -/
theorem chars_ne_nil (m : PlainNumber) : m.chars ≠ [] := by
  obtain ⟨c, cs, hCons, -⟩ := m.exists_unsigned_eq
  rw [chars, hCons]
  exact List.append_ne_nil_of_right_ne_nil _ (List.cons_ne_nil _ _)

/-- A numeral holds nothing but digits, the signs and the point. -/
theorem mem_chars {m : PlainNumber} {c : Char} (h : c ∈ m.chars) :
    c.isDigit = true ∨ c = '+' ∨ c = '-' ∨ c = '.' := by
  rw [chars, unsigned, List.mem_append, List.mem_append] at h
  rcases h with hSign | hWhole | hFraction
  · cases hm : m.sign <;> simp_all [Sign.chars]
  · exact Or.inl (m.whole_digits c hWhole)
  · split at hFraction
    · simp at hFraction
    · rcases List.mem_cons.mp hFraction with rfl | hDigit
      · simp
      · exact Or.inl (m.fraction_digits c hDigit)

/-- No character of a numeral is a blank, so trimming leaves it alone. -/
theorem isBlank_of_mem_chars {m : PlainNumber} {c : Char} (h : c ∈ m.chars) :
    isBlank c = false := by
  rcases mem_chars h with hDigit | rfl | rfl | rfl
  · exact isBlank_of_isDigit hDigit
  all_goals decide

end PlainNumber

end HomeLedger.Text
