import HomeLedger.Proofs.Command.Format

/-!
# HomeLedger — what is offered is accepted

A line of two tokens is completed without being read: the actions of the
subject that the first token stands for are gone through for the names that
go on as the second one begins. A line is read by looking both tokens up, and
among actions abbreviations are shared and the first one counts. If the two
disagreed, a user would be offered a word that is then refused, or would
never learn of one that is not.

They agree since the name of an action is not looked up as an abbreviation
of another: names go first. So the lines that the names complete are accepted
if and only if the subject accepts the action (`exists_read_name_iff`), and
that is where the completions come from.

Main results:

* `exists_read_name_iff` — which names of actions are accepted behind a word.
* `completions_accepted` — the completions are the names that are accepted.
-/

namespace HomeLedger

namespace Subject

/-- No subject has two actions of one name, so that nothing is offered twice. -/
theorem nodup_names (subject : Subject) : (subject.actions.map (·.name)).Nodup := by
  cases subject <;> decide

end Subject

namespace Command

/-- A word and the name of an action are a command with that action if and only
if the word stands for a subject that accepts the action. The word is quoted, so
that it is one token whatever is in it. -/
theorem exists_read_name_iff {f : Formatting} {today : Date} {word : String} (hWord : word ≠ "")
    (action : Action) :
    (∃ c, Command.read f today (quote word ++ " " ++ action.name) = .ok c ∧ c.action = action) ↔
      ∃ subject, Subject.resolve? word = some subject ∧ action ∈ subject.actions := by
  have hLine : Wording (quote word ++ " " ++ action.name) [word, action.name] :=
    (wording_quote hWord).append (wording_action action)
  constructor
  · rintro ⟨c, hRead, rfl⟩
    obtain ⟨first, second, tokens, hTokens, hSubject, -, hAllows, -⟩ := read_eq_ok hRead
    rw [trimmed_of_wording hLine, tokenize_of_wording hLine] at hTokens
    obtain rfl : word = first := by simp_all
    exact ⟨c.subject, hSubject, List.contains_iff_mem.mp hAllows⟩
  · rintro ⟨subject, hSubject, hAction⟩
    exact ⟨_, read_of_resolved hLine hSubject (Action.resolve?_name action)
      (List.contains_iff_mem.mpr hAction), rfl⟩

end Command

/-- The completions of a line of two tokens are the names of some actions, each
once and in the order in which the subject has them: of all those, and only
those, that go on as the second token does in lower case and whose name makes
a command with that action of the first token. -/
theorem completions_accepted (f : Formatting) (today : Date) {line word beginning : String}
    (hLine : tokenize line = [word, beginning]) :
    ∃ accepted : List Action,
      completions line = accepted.map (·.name) ∧ (completions line).Nodup ∧
      (∀ subject, Subject.resolve? word = some subject → accepted.Sublist subject.actions) ∧
      ∀ action, action ∈ accepted ↔
        (Text.lower beginning).toList <+: action.name.toList ∧
        ∃ c, Command.read f today (quote word ++ " " ++ action.name) = .ok c ∧
          c.action = action := by
  have hWord : word ≠ "" := ne_empty_of_mem_tokenize (by rw [hLine]; exact List.mem_cons_self)
  cases hSubject : Subject.resolve? word with
  | none =>
    have hNone : completions line = [] := by
      rw [completions, hLine]
      simp only [hSubject]
    refine ⟨[], hNone, hNone ▸ List.nodup_nil, fun subject h => List.nil_sublist _, ?_⟩
    intro action
    rw [Command.exists_read_name_iff hWord, hSubject]
    simp
  | some subject =>
    -- the names that begin in this way, in the order of the actions
    have hSome : completions line = (subject.actions.filter fun action =>
        (Text.lower beginning).toList.isPrefixOf action.name.toList).map (·.name) := by
      rw [completions, hLine]
      simp only [hSubject, List.filter_map]
      rfl
    refine ⟨_, hSome, ?_, ?_, ?_⟩
    · rw [hSome]
      exact subject.nodup_names.sublist (List.filter_sublist.map _)
    · rintro _ ⟨⟩
      exact List.filter_sublist
    · intro action
      rw [Command.exists_read_name_iff hWord, hSubject, List.mem_filter,
        List.isPrefixOf_iff_prefix]
      simp [and_comm]

/-- Of the actions of an account one goes on as `Cr` does, though the word for
it is written otherwise and stands in quotes. -/
theorem credit_completed :
    tokenize "\" Acc \" Cr" = [" Acc ", "Cr"] ∧ completions "\" Acc \" Cr" = ["credit"] ∧
      ∃ c, Command.read {} ⟨2026, 1, 8, by decide⟩ "\" Acc \" credit" = .ok c ∧
        c.action = .credit := by
  have hLine : tokenize "\" Acc \" Cr" = [" Acc ", "Cr"] := by decide +kernel
  have hCompletions : completions "\" Acc \" Cr" = ["credit"] := by decide +kernel
  obtain ⟨accepted, hNames, -, -, hAccepted⟩ :=
    completions_accepted {} ⟨2026, 1, 8, by decide⟩ hLine
  have hCredit : Action.credit ∈ accepted := by
    rw [hCompletions] at hNames
    obtain ⟨action, hMem, hName⟩ := List.mem_map.mp (hNames ▸ List.mem_singleton_self "credit")
    obtain rfl : action = .credit := by revert hName; cases action <;> decide
    exact hMem
  exact ⟨hLine, hCompletions, ((hAccepted .credit).mp hCredit).2⟩

end HomeLedger
