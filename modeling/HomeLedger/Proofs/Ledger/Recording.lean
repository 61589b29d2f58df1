import HomeLedger.Proofs.Command.Slot
import HomeLedger.Proofs.Formatting.PlainNumber

/-!
# HomeLedger — the amount that is typed is the amount that is entered

Money is never rounded on its way into the ledger. An amount is read as the
number that was typed or not at all; a line that pays it in or out binds it to
the slot for amounts, whatever else stands in the line; and the transaction
that is entered has the amount of that slot.

Main results:

* `amount_of_read` — the amount of a payment is what is read from its token.
* `marked_recorded` — what was typed is what is entered.
-/

namespace HomeLedger

open Text

-- ---------------------------------------------------------------------------
-- Payments
-- ---------------------------------------------------------------------------

/-- The amount of a payment is the one that is read from the first token behind
the action. A token that is read as nothing would count as zero, which is a
problem. -/
theorem Command.amount_of_read {f : Formatting} {today : Date} {line : String} {c : Command}
    (hRead : Command.read f today line = .ok c) (hProblems : c.problems = [])
    (hPays : c.action = .credit ∨ c.action = .debit)
    {subject action token : String} {rest : List String}
    (hTokens : tokenize (Text.trimmed line) = subject :: action :: token :: rest) :
    ∃ d, f.amount? token = some d ∧ (c.firstOf? .amount).bind (·.decimal?) = some d := by
  have hRequired : c.action.required = [.amount] := by
    rcases hPays with h | h <;> rw [h] <;> rfl
  obtain ⟨token', rest', hToken, hSlot, hProblem⟩ :=
    exists_slot hRead hProblems hTokens hRequired
  obtain ⟨rfl, rfl⟩ := List.cons.inj hToken
  obtain ⟨d, hd, hPositive⟩ := decimal?_ofSlot hProblem
  have hValue : (f.amount? token).getD .zero = d := Option.some.inj hd
  refine ⟨d, ?_, by rw [hSlot.found]; exact hd⟩
  cases hAmount : f.amount? token with
  | some e => rw [← hValue, hAmount, Option.getD_some]
  | none =>
    rw [hAmount, Option.getD_none] at hValue
    subst hValue
    exact absurd hPositive (by decide)

namespace Ledger.Effect

/-- A payment enters one transaction, of the amount that the command asks for.
This is read off the effect and not off the handler. -/
theorem amount_of_pays {direction : Direction} {c : Command} {l l' : Ledger}
    (h : pays direction c l l') : ∃ t, l'.transactions = l.transactions ++ [t] ∧
      (c.firstOf? .amount).bind (·.decimal?) = some t.amount := by
  obtain ⟨t, hPayment, rfl⟩ := h
  exact ⟨t, rfl, hPayment.amount⟩

end Ledger.Effect

namespace Routes

open Formatting Ledger

variable {s : Setting} {line : String} {l l' : Ledger} {r : Response}

/-- A line that is answered with success has been read without problems, and its
command was answered. A line with problems is a failure. -/
theorem execute_of_submit (h : standard.submit s line l = .ok (r, l'))
    (hSuccess : r.success = true) :
    ∃ c, Command.read s.formatting s.today line = .ok c ∧ c.problems = [] ∧
      standard.execute s c l = .ok (r, l') := by
  unfold submit at h
  cases hRead : Command.read s.formatting s.today line with
  | error problem =>
    rw [hRead] at h
    obtain ⟨rfl, -⟩ := Prod.mk.inj (Except.ok.inj h)
    exact absurd hSuccess Bool.false_ne_true
  | ok c =>
    rw [hRead] at h
    simp only at h
    split at h
    · next hProblems => exact ⟨c, rfl, List.isEmpty_iff.mp hProblems, h⟩
    · obtain ⟨rfl, -⟩ := Prod.mk.inj (Except.ok.inj h)
      exact absurd hSuccess Bool.false_ne_true

/-- A line that is answered with success has been read without problems and
done what its command is for. -/
theorem effect_of_submit (h : standard.submit s line l = .ok (r, l'))
    (hSuccess : r.success = true) :
    ∃ c, Command.read s.formatting s.today line = .ok c ∧ c.problems = [] ∧
      Effect.ofCommand c.subject c.action c l l' := by
  obtain ⟨c, hRead, hProblems, hExecute⟩ := execute_of_submit h hSuccess
  exact ⟨c, hRead, hProblems, effect_of_execute hExecute hSuccess⟩

/-- What is read from a numeral with marks is the number that was typed, and it
is read as long as its digits and places fit. The transaction that a line with
it enters has just this amount. -/
theorem marked_recorded {m : PlainNumber} {raw : String} (h : Marked m raw) :
    (∀ d, amount? {} raw = some d → d.toRat = m.toRat) ∧
    (m.fraction.length ≤ 28 → m.units < 2 ^ 96 → ∃ d, amount? {} raw = some d) ∧
    ∀ (s : Setting) (line : String) (l l' : Ledger) (r : Response) (subject action : String)
      (rest : List String), s.formatting = {} →
      tokenize (Text.trimmed line) = subject :: action :: raw :: rest →
      Subject.resolve? subject = some .account →
      Action.resolve? action = some .credit ∨ Action.resolve? action = some .debit →
      standard.submit s line l = .ok (r, l') → r.success = true →
      ∃ t, l'.transactions = l.transactions ++ [t] ∧ amount? {} raw = some t.amount ∧
        t.amount.toRat = m.toRat := by
  have hExact : ∀ d, amount? {} raw = some d → d.toRat = m.toRat := by
    intro d hd
    rw [amount?_marked h] at hd
    exact Decimal.toRat_of_readExact hd
  refine ⟨hExact, ?_, ?_⟩
  · intro hPlaces hUnits
    rw [← Option.isSome_iff_exists, amount?_marked h]
    exact Decimal.isSome_readExact_iff.mpr ⟨hUnits, hPlaces⟩
  · intro s line l l' r subject action rest hFormatting hTokens hSubject hAction hSubmit hSuccess
    obtain ⟨c, hRead, hProblems, hEffect⟩ := effect_of_submit hSubmit hSuccess
    -- the amount of the line is the third token, and its route enters it
    obtain ⟨subject', action', tokens, hTokens', hSubject', hAction', -⟩ := Command.read_eq_ok hRead
    rw [hTokens] at hTokens'
    obtain ⟨rfl, hBehind⟩ := List.cons.inj hTokens'
    obtain ⟨rfl, -⟩ := List.cons.inj hBehind
    have hAccount : c.subject = .account := Option.some.inj (hSubject'.symm.trans hSubject)
    have hPays : c.action = .credit ∨ c.action = .debit := by
      rw [hAction'] at hAction
      exact hAction.imp Option.some.inj Option.some.inj
    rw [hFormatting] at hRead
    obtain ⟨d, hd, hFirst⟩ := Command.amount_of_read hRead hProblems hPays hTokens
    have hEntered : ∃ direction, Effect.pays direction c l l' := by
      rw [hAccount] at hEffect
      rcases hPays with h | h <;> rw [h] at hEffect <;> exact ⟨_, hEffect⟩
    obtain ⟨direction, hEffect⟩ := hEntered
    obtain ⟨t, ht, hAmount⟩ := Effect.amount_of_pays hEffect
    obtain rfl : d = t.amount := Option.some.inj (hFirst.symm.trans hAmount)
    exact ⟨t, ht, hd, hExact _ hd⟩

/-- A sum with zeros in front, and with one behind. -/
def pocketSum : PlainNumber where
  sign := .plus
  whole := "0012".toList
  fraction := "50".toList
  whole_ne_nil := by decide
  whole_digits := by decide
  fraction_digits := by decide

/-- The line in which it is typed with marks that part nothing. -/
def pocketLine : String := "account credit \" $+,00$12.5,0, $ \" --note found"

/-- All marks go, wherever they stand, and the zeros in front and behind change
nothing. -/
theorem pocketSum_recorded : Marked pocketSum " $+,00$12.5,0, $ " ∧
    tokenize (Text.trimmed pocketLine) =
      ["account", "credit", " $+,00$12.5,0, $ ", "--note", "found"] ∧
    ∃ r l' t, standard.submit nextDay pocketLine numbered = .ok (r, l') ∧ r.success = true ∧
      l'.transactions = numbered.transactions ++ [t] ∧ t.amount.toRat = pocketSum.toRat := by
  have hMarked : Marked pocketSum " $+,00$12.5,0, $ " :=
    ⟨[' '], [' ', ' '], by decide, by decide, by decide⟩
  have hTokens : tokenize (Text.trimmed pocketLine) =
      ["account", "credit", " $+,00$12.5,0, $ ", "--note", "found"] := by decide +kernel
  have hAnswered : (standard.submit nextDay pocketLine numbered).toOption.map (·.1.success) =
      some true := by decide +kernel
  obtain ⟨⟨r, l'⟩, hAnswer, hSuccess⟩ := Option.map_eq_some_iff.mp hAnswered
  have hSubmit : standard.submit nextDay pocketLine numbered = .ok (r, l') :=
    eq_ok_of_toOption hAnswer
  obtain ⟨-, -, hRecorded⟩ := marked_recorded hMarked
  obtain ⟨t, ht, -, hAmount⟩ := hRecorded nextDay pocketLine numbered l' r "account" "credit"
    ["--note", "found"] rfl hTokens (by decide) (by decide) hSubmit hSuccess
  exact ⟨hMarked, hTokens, r, l', t, hSubmit, hSuccess, ht, hAmount⟩

end Routes

end HomeLedger
