import HomeLedger.Proofs.Ledger.Reread
import HomeLedger.Shell.Prompt

/-!
# HomeLedger — the ids of a session

A session draws ids: those of the ledger to begin with, unless there is a
ledger file, and one for each line. They are random, so two sessions never
draw the same ones. What the sessions do is the same nevertheless, as long as
the ids are new: no two are alike, and none is one that the ledger file, the
configuration or a line speaks of (`Draws.New`).

Main results:

* `newLedger_renamed` — a ledger to begin with does not depend on its ids.
* `run_renamed` — nor does a run.
* `exists_renamed_run` — so two sessions agree up to a renaming of the ids
  that they draw.
-/

namespace HomeLedger

open Text

-- ---------------------------------------------------------------------------
-- Drawing
-- ---------------------------------------------------------------------------

/-- The ids that a session draws: those of a new ledger by their numbers, and
one for each line by its number. -/
structure Draws where
  initial : Nat → String
  entry : Nat → String

namespace Draws

/-- The ids drawn for a number of lines, where the ledger file is there or
not. -/
def ids (d : Draws) (file : Option String) (n : Nat) : List String :=
  (if file = none then (List.range sampleIds).map d.initial else []) ++
    (List.range n).map d.entry

/-- The setting in which the line of a number is answered. -/
def setting (d : Draws) (f : Formatting) (today : Date) (now : Instant) (line : Nat) : Setting :=
  { formatting := f, today, stamp := ⟨d.entry line, now⟩ }

/-- What maps the ids of a session to those of another maps each to the one that
is drawn for the same. The lists are in the order of drawing, so that the n-th
of one goes to the n-th of the other. -/
theorem eq_of_map_ids {d d' : Draws} {file : Option String} {n : Nat} {f : String → String}
    (h : (d.ids file n).map f = d'.ids file n) :
    (file = none → ∀ i < sampleIds, f (d.initial i) = d'.initial i) ∧
      ∀ i < n, f (d.entry i) = d'.entry i := by
  unfold ids at h
  rw [List.map_append] at h
  obtain ⟨hInitial, hEntry⟩ := List.append_inj h (by split <;> simp)
  refine ⟨fun hFile i hi => ?_, fun i hi => ?_⟩
  · simp only [hFile, if_true, List.map_map, List.map_inj_left] at hInitial
    exact hInitial i (List.mem_range.mpr hi)
  · simp only [List.map_map, List.map_inj_left] at hEntry
    exact hEntry i (List.mem_range.mpr hi)

/-- Ids are new among texts that are known: no two are alike, and none is known.
Random ids are like that, and this is all that is used of them. -/
structure New (ids known : List String) : Prop where
  nodup : ids.Nodup
  unknown : ∀ id ∈ ids, id ∉ known

end Draws

/-- Lines in their settings, numbered from a number on. -/
def asked (setting : Nat → Setting) (first : Nat) (lines : List String) :
    List (Setting × String) :=
  (lines.zipIdx first).map fun (line, i) => (setting i, line)

/-- The first line is asked in the first setting, and the others in the ones
behind it. -/
theorem asked_cons (setting : Nat → Setting) (first : Nat) (line : String) (rest : List String) :
    asked setting first (line :: rest) =
      (setting first, line) :: asked setting (first + 1) rest := rfl

/-- The texts in a line that may be meant as ids. -/
def namedTexts (f : Formatting) (today : Date) (line : String) : List String :=
  match Command.read f today line with
  | .ok c => (c.parameters.filterMap (·.text?)).map trimmed
  | .error _ => []

/-- The texts that an id may be taken for: those in a ledger that comes from a
file, and those that the configuration and lines name. -/
def knownTexts (c : Config) (today : Date) (file : Option String) (l : Ledger)
    (lines : List String) : List String :=
  (if file = none then [] else l.mentions) ++ c.defaultAccount.toList.map trimmed ++
    lines.flatMap (namedTexts c.formatting today)

-- ---------------------------------------------------------------------------
-- Ledgers to begin with
-- ---------------------------------------------------------------------------

variable {ρ : Renaming}

namespace Ledger

/-- Ids stand in a ledger to begin with where they were drawn for it and nowhere
else. -/
theorem sample_renamed (ids : Nat → String) (now : Instant) :
    (sample ids now).renamed ρ = sample (fun i => ρ (ids i)) now := rfl

/-- Only the first ids are drawn for it, so the others may be any. -/
theorem sample_congr {ids ids' : Nat → String} (h : ∀ i < sampleIds, ids i = ids' i)
    (now : Instant) : sample ids now = sample ids' now := by
  have hCut : ∀ ids, sample ids now = sample (fun i => if i < sampleIds then ids i else "") now :=
    fun _ => rfl
  rw [hCut ids, hCut ids']
  congr 1
  funext i
  split
  · next hi => exact h i hi
  · rfl

/-- An account is selected, or nothing is done. A default account that is not
there is no error. -/
theorem run_selectAccount (query : String) (l : Ledger) :
    (selectAccount query).run l =
      match l.findAccount? query with
      | some a =>
        .ok ((l.accountOfId? a.id).getD a) { l with selectedAccount := some a.id }
      | none => .error (.refused (.noAccount query)) l := by
  simp only [selectAccount, EStateM.run_bind, EStateM.run_get]
  cases l.findAccount? query <;> rfl

end Ledger

namespace Config

variable {c : Config} {today : Date} {now : Instant}

/-- A ledger to begin with depends on the ids that are drawn for it only. -/
theorem newLedger_congr {ids ids' : Nat → String} (h : ∀ i < sampleIds, ids i = ids' i) :
    c.newLedger ⟨today, now, ids⟩ = c.newLedger ⟨today, now, ids'⟩ := by
  unfold newLedger
  simp only [Ledger.sample_congr h now]

/-- What the configuration selects in a ledger to begin with does not depend on
the ids in it, provided that the name in the configuration is not taken for one
of them. -/
theorem newLedger_renamed {ids : Nat → String}
    (h : ∀ name, c.defaultAccount = some name → Keeps ρ name) :
    (c.newLedger ⟨today, now, ids⟩).renamed ρ =
      c.newLedger ⟨today, now, fun i => ρ (ids i)⟩ := by
  unfold newLedger
  cases hName : c.defaultAccount with
  | none => exact Ledger.sample_renamed ids now
  | some name =>
    have hMirrors := Ledger.mirrors_selectAccount (h name hName) (l := Ledger.sample ids now)
    unfold Booking.Mirrors at hMirrors
    rw [Ledger.sample_renamed] at hMirrors
    simp only
    split at hMirrors
    · next hRun hRun' =>
      rw [hRun, hRun']
      exact hMirrors.1.symm
    · next hRun hRun' =>
      rw [hRun, hRun']
      exact hMirrors.2.symm
    · exact hMirrors.elim

/-- Selecting an account books nothing, so the transactions are those of the
sample. -/
theorem transactions_newLedger (s : Supply) :
    (c.newLedger s).transactions = (Ledger.sample s.ids s.now).transactions := by
  unfold newLedger
  cases c.defaultAccount with
  | none => rfl
  | some name =>
    simp only [Ledger.run_selectAccount]
    cases (Ledger.sample s.ids s.now).findAccount? name <;> rfl

/-- A ledger to begin with is read again as it is. -/
theorem reread_newLedger {s : Supply} (hNow : s.now.carried = s.now) :
    (c.newLedger s).reread = c.newLedger s :=
  Ledger.reread_congr (Ledger.reread_sample s.ids hNow) (transactions_newLedger s)

end Config

-- ---------------------------------------------------------------------------
-- Runs
-- ---------------------------------------------------------------------------

/-- A renaming that leaves alone the texts in a line leaves alone what the line
is read as. These texts are all that an id could be compared with. -/
theorem keptBy_of_namedTexts {f : Formatting} {today : Date} {line : String}
    (h : ∀ text ∈ namedTexts f today line, ρ text = text) :
    ∀ c, Command.read f today line = .ok c → c.KeptBy ρ := by
  intro c hc p hp t ht
  refine h (trimmed t) ?_
  rw [namedTexts, hc]
  exact List.mem_map_of_mem (List.mem_filterMap.mpr ⟨p, hp, ht⟩)

namespace Routes

/-- A run with other ids gives the same answers with other ids. By induction on
the lines: one step of the household is the same under a renaming, and the
ledger that is renamed is the one that the next line finds. -/
theorem run_renamed {setting setting' : Nat → Setting} {first : Nat} {lines : List String}
    {l l' : Ledger} {rs : List Response}
    (hSetting : ∀ i, first ≤ i → i < first + lines.length → setting' i = (setting i).renamed ρ)
    (hNamed : ∀ i, ∀ line ∈ lines,
      ∀ text ∈ namedTexts (setting i).formatting (setting i).today line, ρ text = text)
    (hRun : standard.run (asked setting first lines) l = .ok (rs, l')) :
    standard.run (asked setting' first lines) (l.renamed ρ) =
      .ok (rs.map (Response.renamed ρ), l'.renamed ρ) := by
  induction lines generalizing first l rs with
  | nil =>
    obtain ⟨rfl, rfl⟩ := Prod.mk.inj (Except.ok.inj hRun)
    rfl
  | cons line rest ih =>
    rw [asked_cons] at hRun
    obtain ⟨r, m, rs', hSubmit, hRest, rfl⟩ := run_cons hRun
    obtain ⟨hLine, hOthers⟩ : _ ∧ _ := ⟨fun i => hNamed i line List.mem_cons_self,
      fun i line' h => hNamed i line' (List.mem_cons_of_mem line h)⟩
    have hFirst : setting' first = (setting first).renamed ρ := by
      refine hSetting first le_rfl ?_
      rw [List.length_cons]
      omega
    -- the first answer is the same with other ids, and so is the ledger that the next line finds
    have hAnswer := submit_renamed (l := l) (keptBy_of_namedTexts (hLine first))
    rw [hSubmit, ← hFirst] at hAnswer
    have hLater : ∀ i, first + 1 ≤ i → i < first + 1 + rest.length →
        setting' i = (setting i).renamed ρ := by
      intro i hLow hHigh
      refine hSetting i (by omega) ?_
      rw [List.length_cons]
      omega
    have hAfter := ih hLater hOthers hRest
    exact run_cons_eq hAnswer hAfter

end Routes

-- ---------------------------------------------------------------------------
-- Two sessions
-- ---------------------------------------------------------------------------

section Sessions

variable {c : Config} {today : Date} {now : Instant} {file : Option String} {d d' : Draws}
  {lines : List String} {l l' : Ledger} {rs : List Response}

/-- The same ledger is opened, up to the ids that are drawn for it. A ledger
that is there is opened as it is, since none of its ids is renamed. -/
theorem openLedger_renamed (hOpen : c.openLedger ⟨today, now, d.initial⟩ file = .ok l)
    (hInitial : file = none → ∀ i < sampleIds, ρ (d.initial i) = d'.initial i)
    (hKnown : ∀ text ∈ knownTexts c today file l lines, ρ text = text) :
    c.openLedger ⟨today, now, d'.initial⟩ file = .ok (l.renamed ρ) := by
  cases file with
  | some file =>
    have hMentions : ∀ id ∈ l.mentions, ρ id = id := by
      intro id hId
      exact hKnown id (List.mem_append_left _ (List.mem_append_left _ hId))
    rw [Ledger.renamed_eq_self hMentions]
    exact hOpen
  | none =>
    obtain rfl := Except.ok.inj hOpen
    have hName : ∀ name, c.defaultAccount = some name → Keeps ρ name := by
      intro name hName
      refine hKnown (trimmed name) ?_
      simp [knownTexts, hName]
    rw [Config.newLedger_renamed hName, Config.newLedger_congr (hInitial rfl)]
    rfl

/-- Two sessions of the same lines agree up to a renaming of the ids that they
draw, if these are new in each of them. Every other text is left alone by this
renaming. -/
theorem exists_renamed_run (hOpen : c.openLedger ⟨today, now, d.initial⟩ file = .ok l)
    (hNew : Draws.New (d.ids file lines.length) (knownTexts c today file l lines))
    (hNew' : Draws.New (d'.ids file lines.length) (knownTexts c today file l lines))
    (hRun : Routes.standard.run (asked (d.setting c.formatting today now) 0 lines) l =
      .ok (rs, l')) :
    ∃ ρ : Renaming,
      (∀ id, id ∉ d.ids file lines.length → id ∉ d'.ids file lines.length → ρ id = id) ∧
      c.openLedger ⟨today, now, d'.initial⟩ file = .ok (l.renamed ρ) ∧
      Routes.standard.run (asked (d'.setting c.formatting today now) 0 lines) (l.renamed ρ) =
        .ok (rs.map (Response.renamed ρ), l'.renamed ρ) := by
  have hLength : (d.ids file lines.length).length = (d'.ids file lines.length).length := by
    unfold Draws.ids
    split <;> simp
  obtain ⟨ρ, hMap, hOthers⟩ := exists_renaming hLength hNew.nodup hNew'.nodup
  have hKnown : ∀ text ∈ knownTexts c today file l lines, ρ text = text := fun text hText =>
    hOthers text (fun h => hNew.unknown text h hText) (fun h => hNew'.unknown text h hText)
  -- the ids of the one session are renamed to those of the other in the order of the draws
  obtain ⟨hInitial, hEntry⟩ := Draws.eq_of_map_ids hMap
  refine ⟨ρ, hOthers, openLedger_renamed hOpen hInitial hKnown, ?_⟩
  refine Routes.run_renamed (fun i _ hi => ?_) (fun i line hLine text hText => ?_) hRun
  · rw [Draws.setting, ← hEntry i (by omega)]
    rfl
  · refine hKnown text (List.mem_append_right _ ?_)
    exact List.mem_flatMap.mpr ⟨line, hLine, hText⟩

end Sessions

end HomeLedger
