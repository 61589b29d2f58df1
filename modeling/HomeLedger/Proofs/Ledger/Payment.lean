import HomeLedger.Proofs.Command.Format
import HomeLedger.Proofs.Ledger.Overflow

/-!
# HomeLedger — a payment of an amount that is typed

The line `account credit 12.50` pays in the amount that is read from its last
token. Under marks that are told from numbers, this is the decimal that was
typed (`Formatting.typed`), but for one choice of the user: if a mark is the
point, the digits behind it become digits before it. The transaction is then
entered with that amount, and so is the answer told.

Main results:

* `read_payIn` — what the line is read as.
* `execute_payIn` — what is entered and answered.
* `submit_typed_amount` — the two of them.
-/

namespace HomeLedger

-- ---------------------------------------------------------------------------
-- Amounts that are typed
-- ---------------------------------------------------------------------------

/-- The text of a decimal is one token, as it is digits, a hyphen and a
point. -/
theorem Decimal.wording_text (d : Decimal) : Wording d.text [d.text] := by
  refine wording_plain ?_ ?_
  · intro hEmpty
    have hRead := Decimal.read_text d
    have hNone : Decimal.read [] = none := rfl
    rw [hEmpty, String.toList_empty, hNone] at hRead
    simp at hRead
  · intro c hc
    rcases Formatting.text_chars hc with hDigit | rfl | rfl
    · exact Formatting.isSpecial_of_isDigit hDigit
    · decide
    · decide

/-- A decimal is read as it was typed unless it loses its point, or is a zero
with a sign. The first of these depends on the user's marks, and the second does
not. -/
theorem Formatting.typed_eq_self_iff (f : Formatting) (d : Decimal) :
    f.typed d = d ↔ (f.TakesPoint → d.scale = 0) ∧ (d.mantissa = 0 → d.negative = false) := by
  rw [← Decimal.withoutZeroSign_eq_self_iff, typed]
  by_cases hTakes : f.TakesPoint
  · rw [if_pos hTakes]
    obtain ⟨negative, mantissa, scale, hMantissa, hScale⟩ := d
    simp only [pointless, Decimal.withoutZeroSign, Decimal.mk.injEq, hTakes, true_implies,
      and_true, true_and]
    tauto
  · rw [if_neg hTakes]
    simp [hTakes]

/-- What is typed as a positive decimal is read as a positive one. The point may
be lost on the way, and the digits stay, so it is not zero. -/
theorem Formatting.isPositive_typed {f : Formatting} {d : Decimal} (h : d.isPositive = true) :
    (f.typed d).isPositive = true := by
  rw [Decimal.isPositive_iff, Decimal.signed] at h
  have hSign : d.negative = false := by
    by_contra hNegative
    rw [Bool.not_eq_false] at hNegative
    rw [hNegative, if_pos rfl] at h
    omega
  rw [Decimal.isPositive_iff, typed]
  split
  · simpa [Decimal.signed, Decimal.withoutZeroSign, pointless, hSign] using h
  · simpa [Decimal.signed, Decimal.withoutZeroSign, hSign] using h

-- ---------------------------------------------------------------------------
-- The command
-- ---------------------------------------------------------------------------

namespace Command

/-- The command to pay an amount into the account that is selected. -/
def payIn (amount : Decimal) (token : String) : Command :=
  ⟨.account, .credit, [Parameter.placed .required "amount" (.amount amount) token],
    "account credit " ++ token⟩

/-- A line that names an amount is read as the payment of it. -/
theorem read_payIn {f : Formatting} {today : Date} {token : String} {amount : Decimal}
    (hToken : Wording token [token]) (hAmount : f.amount? token = some amount) :
    Command.read f today ("account credit " ++ token) = .ok (payIn amount token) := by
  have hText : " ".intercalate [Subject.account.name, Action.credit.name, token] =
      "account credit " ++ token := by
    refine String.toList_injective ?_
    simp [Subject.name, Action.name, String.toList_append]
  have hWording : Wording ("account credit " ++ token)
      [Subject.account.name, Action.credit.name, token] := by
    rw [← hText]
    exact wording_intercalate (wording_subject .account)
      (.cons (wording_action .credit) (.cons hToken .nil))
  rw [read_of_wording hWording (by decide)]
  have hValue : Value.ofToken f today .amount token = .amount amount := by
    rw [Value.ofToken, hAmount, Option.getD_some]
  have hParameters : Parameter.ofTokens f today .credit [token] =
      [Parameter.placed .required "amount" (.amount amount) token] := by
    rw [← hValue]
    rfl
  rw [hParameters, payIn]

/-- A positive amount in the slot leaves the command without problems. -/
theorem problems_payIn {amount : Decimal} {token : String} (h : amount.isPositive = true) :
    (payIn amount token).problems = [] := by
  have hProblem : (Parameter.placed .required "amount" (.amount amount) token).problem? = none := by
    show (if amount.isPositive then none else some _) = none
    rw [if_pos h]
  show [Parameter.placed .required "amount" (.amount amount) token].filterMap (·.problem?) ++ [] =
    []
  rw [List.filterMap_cons_none hProblem]
  rfl

/-- The amount is all that the command says. -/
theorem paid_payIn (amount : Decimal) (token : String) :
    ((payIn amount token).firstOf? .amount).bind (·.decimal?) = some amount := rfl

theorem namedText?_payIn {amount : Decimal} {token name : String}
    (h : Text.equalFold "amount" name = false) : (payIn amount token).namedText? name = none := by
  have hNamed : (payIn amount token).named? name = none :=
    List.find?_eq_none.mpr fun p hp => by
      obtain rfl := List.mem_singleton.mp hp
      exact ne_true_of_eq_false h
  rw [namedText?, hNamed]
  rfl

theorem account_payIn (amount : Decimal) (token : String) :
    ((payIn amount token).namedText? "account" <|>
      ((payIn amount token).firstOf? .account).bind (·.text?)) = none := by
  rw [namedText?_payIn (by decide)]
  rfl

theorem note_payIn (amount : Decimal) (token : String) :
    ((payIn amount token).namedText? "note").getD "" = "" := by
  rw [namedText?_payIn (by decide)]
  rfl

end Command

-- ---------------------------------------------------------------------------
-- The payment
-- ---------------------------------------------------------------------------

section Payment

open Booking Handler Ledger

variable {s : Setting} {l : Ledger} {a : Account} {amount : Decimal} {token : String}

/-- A payment that is answered has been entered. It is positive and there is an
account, so nothing can refuse it. -/
theorem Handler.ends_payIn (hPositive : amount.isPositive = true)
    (hAccount : l.resolveAccount none = .ok a) :
    (moveMoney .credit s (.payIn amount token)).Ends l
      (fun r l' => r.success = true ∧ l' = l.withEntry (entry s.stamp .credit a.id amount ""))
      (fun _ _ => False) := by
  simp only [moveMoney, Command.paid_payIn, Command.account_payIn, Command.note_payIn, ends_bind,
    ends_get, ends_found, ends_allowed, ends_credit, ends_sound, ends_pure, hAccount]
  simp [hPositive]

/-- It is not answered if the new balance is too large, or if the amount has no
display. Both come after the entry. -/
theorem Handler.breaks_payIn {fault : Fault} (hPositive : amount.isPositive = true)
    (hAccount : l.resolveAccount none = .ok a) :
    (moveMoney .credit s (.payIn amount token)).Breaks l fault (fun _ _ => False) ↔
      (l.withEntry (entry s.stamp .credit a.id amount "")).balance a.id = .error fault ∨
        (∃ new, (l.withEntry (entry s.stamp .credit a.id amount "")).balance a.id = .ok new) ∧
          s.formatting.currency amount = .error fault := by
  simp only [moveMoney, Command.paid_payIn, Command.account_payIn, Command.note_payIn, breaks_bind,
    breaks_get, breaks_found, breaks_allowed, breaks_credit, breaks_sound, breaks_pure, hAccount]
  simp [hPositive]

end Payment

namespace Routes

open Booking Handler Ledger

variable {s : Setting} {l : Ledger} {a : Account} {amount : Decimal} {token : String}

/-- The command to pay in has been entered, unless a fault has come after
that: the new balance is too large, or the amount has no display. -/
theorem execute_payIn (hPositive : amount.isPositive = true)
    (hAccount : l.resolveAccount .none = .ok a) :
    (∃ r, r.success = true ∧ standard.execute s (.payIn amount token) l =
        .ok (r, l.withEntry (entry s.stamp .credit a.id amount ""))) ∨
      ∃ fault, standard.execute s (.payIn amount token) l = .error fault ∧
        ((l.withEntry (entry s.stamp .credit a.id amount "")).balance a.id = .error fault ∨
          s.formatting.currency amount = .error fault) := by
  cases hExecute : standard.execute s (.payIn amount token) l with
  | error fault =>
    obtain ⟨handler, hRoute, hBreaks⟩ := execute_eq_error.mp hExecute
    obtain rfl : moveMoney .credit = handler := Option.some.inj hRoute
    exact Or.inr ⟨fault, rfl, ((breaks_payIn hPositive hAccount).mp hBreaks).imp_right And.right⟩
  | ok answer =>
    obtain ⟨r, l'⟩ := answer
    have hRoute : standard (Command.payIn amount token).subject
        (Command.payIn amount token).action = some (moveMoney .credit) := rfl
    rcases execute_eq_ok hRoute (ends_payIn hPositive hAccount) hExecute with
      ⟨hSuccess, rfl⟩ | ⟨_, -, hRefused⟩
    · exact Or.inl ⟨r, hSuccess, rfl⟩
    · exact hRefused.elim

/-- A line that pays in the amount of a decimal, as it is typed. -/
def creditLine (d : Decimal) : String := "account credit " ++ d.text

/-- Under marks that are told from numbers, an amount is read as it was typed,
and what is read is paid in. It is what was typed unless the point is taken
for a mark, or a zero has a sign. -/
theorem submit_typed_amount {f : Formatting} (hSymbol : IsMark f.currencySymbol)
    (hSeparator : IsMark f.groupingSeparator) (d : Decimal) :
    f.amount? d.text = some (f.typed d) ∧
      (f.typed d = d ↔
        (f.TakesPoint → d.scale = 0) ∧ (d.mantissa = 0 → d.negative = false)) ∧
      ∀ (s : Setting) (l : Ledger) (a : Account), s.formatting = f → d.isPositive = true →
        l.resolveAccount .none = .ok a →
        (∃ r, r.success = true ∧ standard.submit s (creditLine d) l =
            .ok (r, l.withEntry (entry s.stamp .credit a.id (f.typed d) ""))) ∨
          ∃ fault, standard.submit s (creditLine d) l = .error fault ∧
            ((l.withEntry (entry s.stamp .credit a.id (f.typed d) "")).balance a.id =
                .error fault ∨ f.currency (f.typed d) = .error fault) := by
  refine ⟨Formatting.amount?_text hSymbol hSeparator d, f.typed_eq_self_iff d, ?_⟩
  rintro s l a rfl hPositive hAccount
  have hRead : Command.read s.formatting s.today (creditLine d) =
      .ok (.payIn (s.formatting.typed d) d.text) :=
    Command.read_payIn d.wording_text (Formatting.amount?_text hSymbol hSeparator d)
  have hTyped : (s.formatting.typed d).isPositive = true := Formatting.isPositive_typed hPositive
  have hSubmit : standard.submit s (creditLine d) l =
      standard.execute s (.payIn (s.formatting.typed d) d.text) l := by
    rw [submit, hRead]
    simp [Command.problems_payIn hTyped]
  rw [hSubmit]
  exact execute_payIn hTyped hAccount

/-- The symbol of the euro, with points between groups. -/
def pointedEuros : Formatting := { currencySymbol := "€", groupingSeparator := "." }

/-- Twelve and a half. -/
def twelveAndHalf : Decimal := (Decimal.read "12.50".toList).getD .zero

/-- A day on which that is how amounts are written. -/
def pointedDay : Setting := { nextDay with formatting := pointedEuros }

/-- The amount is entered as a hundred times what was typed, and the answer is a
success. -/
theorem twelveAndHalf_paid_in :
    (IsMark pointedEuros.currencySymbol ∧ IsMark pointedEuros.groupingSeparator) ∧
      twelveAndHalf.isPositive = true ∧ ∃ a, numbered.resolveAccount .none = .ok a ∧
        ∃ r, r.success = true ∧ standard.submit pointedDay (creditLine twelveAndHalf) numbered =
          .ok (r, numbered.withEntry (entry pointedDay.stamp .credit a.id
            (pointedEuros.typed twelveAndHalf) "")) := by
  have hMarks : IsMark pointedEuros.currencySymbol ∧ IsMark pointedEuros.groupingSeparator := by
    decide
  have hPositive : twelveAndHalf.isPositive = true := by decide
  have hSelected : (numbered.resolveAccount .none).isOk = true := by decide
  obtain ⟨a, ha⟩ := exists_of_isOk hSelected
  have hAnswered :
      (standard.submit pointedDay (creditLine twelveAndHalf) numbered).isOk = true := by
    decide
  obtain ⟨answer, hAnswer⟩ := exists_of_isOk hAnswered
  refine ⟨hMarks, hPositive, a, ha, ?_⟩
  rcases (submit_typed_amount hMarks.1 hMarks.2 twelveAndHalf).2.2 pointedDay numbered a rfl
    hPositive ha with hPaid | ⟨fault, hFault, -⟩
  · exact hPaid
  · rw [hAnswer] at hFault
    simp at hFault

/-- With points between groups, a hundred times the amount that was typed is
read, for the point is removed like any separator. -/
theorem point_lost : IsMark pointedEuros.currencySymbol ∧ IsMark pointedEuros.groupingSeparator ∧
    twelveAndHalf.text = "12.50" ∧
    pointedEuros.amount? "12.50" = some ⟨false, 1250, 0, by decide, by decide⟩ := by
  decide

end Routes

end HomeLedger
