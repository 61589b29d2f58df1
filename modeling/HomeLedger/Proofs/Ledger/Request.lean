import HomeLedger.Ledger.Sample
import HomeLedger.Proofs.Ledger.Step

/-!
# HomeLedger — what fails leaves no trace

A household is asked for something in two ways: by a line, which is read and
looked over, and by a command that is handled as it is, be it one that no
line is read as. `Request` has both, and whatever is asked, a response that
is no success leaves the ledger as it was.

So the lines of a run that fail might as well not have been there.

Main results:

* `step_of_answer` — a request that is answered takes a step.
* `failure_keeps_ledger` — a failure changes nothing.
* `run_successes` — a run without its failures ends with the same ledger.
-/

namespace HomeLedger

-- ---------------------------------------------------------------------------
-- Requests
-- ---------------------------------------------------------------------------

/-- What a household is asked for: a line of text, or a command as it was made
by someone else. -/
inductive Request where
  | line (text : String)
  | command (c : Command)
  deriving DecidableEq, Repr

namespace Routes

variable {s : Setting} {l l' : Ledger} {r : Response}

/-- Answers a line after it was looked over, and a command as it is. -/
def answer (routes : Routes) (s : Setting) : Request → Ledger → Except Fault (Response × Ledger)
  | .line text => routes.submit s text
  | .command c => routes.execute s c

/-- The ledger after requests, each in a setting of its own. A fault ends the
run. -/
def after (routes : Routes) (requests : List (Setting × Request)) (l : Ledger) :
    Except Fault Ledger :=
  requests.foldlM (fun l (s, q) => (·.2) <$> routes.answer s q l) l

/-- What is reached by requests is reached by the first one and then by the
others. -/
theorem after_cons {routes : Routes} {s : Setting} {q : Request} {rest : List (Setting × Request)}
    (h : routes.after ((s, q) :: rest) l = .ok l') :
    ∃ r m, routes.answer s q l = .ok (r, m) ∧ routes.after rest m = .ok l' := by
  rw [after, List.foldlM_cons] at h
  cases hAnswer : routes.answer s q l with
  | error fault => simp [hAnswer, bind, Except.bind, Functor.map, Except.map] at h
  | ok first =>
    obtain ⟨r, m⟩ := first
    simp only [hAnswer, bind, Except.bind, Functor.map, Except.map] at h
    exact ⟨r, m, rfl, h⟩

/-- A request that is answered takes a step and succeeds, or changes
nothing. -/
theorem answer_standard {q : Request} (h : standard.answer s q l = .ok (r, l')) :
    (r.success = true ∧ l.Step s.stamp l') ∨ l' = l := by
  cases q with
  | line text => exact submit_standard h
  | command c => exact execute_standard h

/-- So a request always takes a step, if only the one that changes nothing. -/
theorem step_of_answer {q : Request} (h : standard.answer s q l = .ok (r, l')) :
    l.Step s.stamp l' := by
  rcases answer_standard h with ⟨-, hStep⟩ | rfl
  · exact hStep
  · exact .kept

-- ---------------------------------------------------------------------------
-- Failures
-- ---------------------------------------------------------------------------

/-- A request that fails changes nothing, as every success is a step and every
other answer is none. -/
theorem eq_of_answer_failure {q : Request} (h : standard.answer s q l = .ok (r, l'))
    (hFailure : r.success = false) : l' = l := by
  rcases answer_standard h with ⟨hSuccess, -⟩ | rfl
  · rw [hSuccess] at hFailure
    exact absurd hFailure (by decide)
  · rfl

theorem eq_of_submit_failure {line : String} (h : standard.submit s line l = .ok (r, l'))
    (hFailure : r.success = false) : l' = l := by
  have hAnswer : standard.answer s (.line line) l = .ok (r, l') := h
  exact eq_of_answer_failure hAnswer hFailure

/-- A command, whatever it holds, and a line leave the whole ledger as it was if
their response is no success. What is refused is refused before the first
change. -/
theorem failure_keeps_ledger (s : Setting) (l : Ledger) :
    (∀ c r l', standard.execute s c l = .ok (r, l') → r.success = false → l' = l) ∧
      ∀ line r l', standard.submit s line l = .ok (r, l') → r.success = false → l' = l := by
  refine ⟨fun c r l' h hFailure => ?_, fun line r l' h hFailure => ?_⟩
  · exact eq_of_answer_failure (q := .command c) h hFailure
  · exact eq_of_answer_failure (q := .line line) h hFailure

/-- A ledger to begin with whose entries are numbered. -/
def numbered : Ledger := Ledger.sample (fun n => toString n) (.noon ⟨2026, 1, 7, by decide⟩)

/-- The day after. -/
def nextDay : Setting :=
  let day : Date := ⟨2026, 1, 8, by decide⟩
  ⟨{}, day, "next", .noon day⟩

/-- A list is to be made without a name, which no line asks for, and one cent
more is to be paid out than there is. -/
theorem refused_requests_keep_ledger :
    (∃ r l', standard.execute nextDay ⟨.list, .create, [], ""⟩ numbered = .ok (r, l') ∧
      r.success = false ∧ l' = numbered) ∧
    ∃ r l', standard.submit nextDay "account debit 125.51 --note bike" numbered = .ok (r, l') ∧
      r.success = false ∧ l' = numbered := by
  obtain ⟨hExecute, hSubmit⟩ := failure_keeps_ledger nextDay numbered
  refine ⟨⟨_, _, rfl, rfl, ?_⟩, ⟨_, _, rfl, rfl, ?_⟩⟩
  · exact hExecute ⟨.list, .create, [], ""⟩ _ _ rfl rfl
  · exact hSubmit "account debit 125.51 --note bike" _ _ rfl rfl

/-- The lines of a run that have succeeded. -/
def successes (lines : List (Setting × String)) (rs : List Response) : List (Setting × String) :=
  ((lines.zip rs).filter (·.2.success)).map (·.1)

/-- A run of the lines that have succeeded in a run has the same successes and
ends with the same ledger. The lines that failed have left nothing that later
ones could see. -/
theorem run_successes {lines : List (Setting × String)} {rs : List Response}
    (h : standard.run lines l = .ok (rs, l')) :
    standard.run (successes lines rs) l = .ok (rs.filter (·.success), l') := by
  induction lines generalizing l rs with
  | nil =>
    obtain ⟨rfl, rfl⟩ := Prod.mk.inj (Except.ok.inj h)
    rfl
  | cons first rest ih =>
    obtain ⟨s, line⟩ := first
    obtain ⟨r, m, rs', hSubmit, hRest, rfl⟩ := run_cons h
    cases hSuccess : r.success with
    | true =>
      have hLines : successes ((s, line) :: rest) (r :: rs') = (s, line) :: successes rest rs' := by
        simp [successes, hSuccess]
      rw [hLines, List.filter_cons_of_pos hSuccess]
      exact run_cons_eq hSubmit (ih hRest)
    | false =>
      have hLines : successes ((s, line) :: rest) (r :: rs') = successes rest rs' := by
        simp [successes, hSuccess]
      -- a line that fails has kept the ledger, so the others find it as it was
      obtain rfl : m = l := eq_of_answer_failure (q := .line line) hSubmit hSuccess
      rw [hLines, List.filter_cons_of_neg (by simp [hSuccess])]
      exact ih hRest

end Routes

end HomeLedger
