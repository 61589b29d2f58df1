import HomeLedger.Proofs.Calendar.Stamp
import HomeLedger.Proofs.Ledger.File
import HomeLedger.Proofs.Ledger.Mirror
import HomeLedger.Shell.Prompt

/-!
# HomeLedger — ledgers that files keep

A ledger that was read from a file is not always read again from the file
that it is saved in: a zero that was written with a sign is the one thing
that it may lose. All its times are those of time stamps already. What
requests add to a ledger is kept too, since they add positive amounts only,
so a ledger that a file keeps has no successor that a file does not keep.

Main results:

* `reread_of_ofFile` — when a ledger that was read is read again.
* `reread_of_step` — a step adds nothing that a file does not keep.
-/

namespace HomeLedger

open Node

-- ---------------------------------------------------------------------------
-- What was read
-- ---------------------------------------------------------------------------

/-- Each value of a list that was read comes from a node. -/
theorem exists_of_list? {α : Type} {decode : Node → Option α} {n : Node} {as : List α}
    (h : list? decode n = some as) : ∀ a ∈ as, ∃ item, decode item = some a := by
  unfold list? at h
  split at h
  · next items =>
    induction items generalizing as with
    | nil =>
      obtain rfl := Option.some.inj h
      simp
    | cons item items ih =>
      simp only [List.mapM_cons, Option.bind_eq_bind, Option.bind_eq_some_iff, pure,
        Option.some.injEq] at h
      obtain ⟨a, ha, as', has', rfl⟩ := h
      rw [List.forall_mem_cons]
      exact ⟨⟨item, ha⟩, ih has'⟩
  · simp at h

/-- The time of a transaction that was read is one of a time stamp. -/
theorem Transaction.carried_of_ofNode? {n : Node} {t : Transaction} (h : ofNode? n = some t) :
    t.createdAt.carried = t.createdAt := by
  simp only [ofNode?, Option.bind_eq_bind, Option.bind_eq_some_iff, pure, Option.some.injEq] at h
  obtain ⟨r, -, id, -, direction, -, amount, -, account, -, note, -, status, -, i, hi, rfl⟩ := h
  obtain ⟨node, -, hi⟩ := Option.bind_eq_some_iff.mp hi
  obtain ⟨text, -, hi⟩ := Option.bind_eq_some_iff.mp hi
  exact Instant.carried_of_read? hi

namespace Ledger

variable {stamp : Stamp} {l l' : Ledger}

theorem carried_of_ofNode? {n : Node} (h : ofNode? n = some l) :
    ∀ t ∈ l.transactions, t.createdAt.carried = t.createdAt := by
  simp only [ofNode?, Option.bind_eq_bind, Option.bind_eq_some_iff, pure, Option.some.injEq] at h
  obtain ⟨r, -, _, -, _, -, ts, hts, _, -, _, -, _, -, _, -, rfl⟩ := h
  obtain ⟨node, -, hts⟩ := Option.bind_eq_some_iff.mp hts
  intro t ht
  obtain ⟨item, hItem⟩ := exists_of_list? hts t ht
  exact Transaction.carried_of_ofNode? hItem

/-- A ledger that was read comes from a node, whatever its text looked like. -/
theorem exists_ofNode?_of_ofFile {file : String} (h : ofFile file = .ok l) :
    ∃ n, ofNode? n = some l := by
  unfold ofFile at h
  split at h
  · simp at h
  · next version l' hRead =>
    split at h
    · simp at h
    · obtain rfl := Except.ok.inj h
      obtain ⟨n, -, hRead⟩ := Option.bind_eq_some_iff.mp hRead
      simp only [versionedOfNode?, Option.bind_eq_bind, Option.bind_eq_some_iff, pure,
        Option.some.injEq, Prod.mk.injEq] at hRead
      obtain ⟨r, -, _, -, _, hFamily, -, rfl⟩ := hRead
      obtain ⟨node, -, hFamily⟩ := Option.bind_eq_some_iff.mp hFamily
      exact ⟨node, hFamily⟩

/-- No amount is a zero with a sign. -/
def Unsigned (l : Ledger) : Prop :=
  ∀ t ∈ l.transactions, t.amount.mantissa = 0 → t.amount.negative = false

instance (l : Ledger) : Decidable l.Unsigned :=
  inferInstanceAs (Decidable (∀ t ∈ l.transactions, _ → _))

/-- A ledger is read again as it is where no amount is a zero with a sign and
all times are those of time stamps. -/
theorem reread_of_unsigned (hAmounts : l.Unsigned)
    (hTimes : ∀ t ∈ l.transactions, t.createdAt.carried = t.createdAt) : l.reread = l := by
  refine (reread_eq_self_iff l).mpr fun t ht => ?_
  have hAmount := (Decimal.withoutZeroSign_eq_self_iff t.amount).mpr (hAmounts t ht)
  rw [Transaction.reread, hAmount, hTimes t ht]

/-- A ledger whose zeros have lost their signs. -/
def withoutZeroSigns (l : Ledger) : Ledger :=
  { l with transactions :=
      l.transactions.map fun t => { t with amount := t.amount.withoutZeroSign } }

theorem withoutZeroSigns_of_unsigned (hAmounts : l.Unsigned) : l.withoutZeroSigns = l := by
  have hTransactions : l.transactions.map (fun t =>
      { t with amount := t.amount.withoutZeroSign }) = l.transactions.map id := by
    refine List.map_congr_left fun t ht => ?_
    rw [(Decimal.withoutZeroSign_eq_self_iff t.amount).mpr (hAmounts t ht)]
    rfl
  rw [withoutZeroSigns, hTransactions, List.map_id]

/-- A ledger that was read loses no more than the signs of its zeros when it is
read again. Its times have been through a time stamp already. -/
theorem reread_eq_withoutZeroSigns {file : String} (h : ofFile file = .ok l) :
    l.reread = l.withoutZeroSigns := by
  obtain ⟨n, hn⟩ := exists_ofNode?_of_ofFile h
  have hTransactions : l.transactions.map (·.reread) = l.transactions.map fun t =>
      { t with amount := t.amount.withoutZeroSign } := by
    refine List.map_congr_left fun t ht => ?_
    rw [Transaction.reread, carried_of_ofNode? hn t ht]
  rw [reread, withoutZeroSigns, hTransactions]

/-- A ledger that was read is read again as it is, unless an amount is a zero
with a sign. -/
theorem reread_of_ofFile {file : String} (h : ofFile file = .ok l) (hAmounts : l.Unsigned) :
    l.reread = l := by
  obtain ⟨n, hn⟩ := exists_ofNode?_of_ofFile h
  exact reread_of_unsigned hAmounts (carried_of_ofNode? hn)

-- ---------------------------------------------------------------------------
-- What is entered
-- ---------------------------------------------------------------------------

/-- The ledger to begin with is read again as it is, if its time is one of a
time stamp. -/
theorem reread_sample (ids : Nat → String) {now : Instant} (hNow : now.carried = now) :
    (sample ids now).reread = sample ids now := by
  simp only [reread, sample, List.map_cons, List.map_nil, Transaction.reread, hNow]
  rfl

/-- An entry that is read again as it is can be added to such a ledger. -/
theorem reread_withEntry {t : Transaction} (h : l.reread = l) (ht : t.reread = t) :
    (l.withEntry t).reread = l.withEntry t := by
  rw [reread_eq_self_iff] at h ⊢
  intro t' ht'
  rcases List.mem_append.mp ht' with hMem | hMem
  · exact h t' hMem
  · rwa [List.mem_singleton.mp hMem]

theorem reread_congr (h : l.reread = l) (hTransactions : l'.transactions = l.transactions) :
    l'.reread = l' := by
  rw [reread_eq_self_iff] at h ⊢
  rwa [hTransactions]

/-- An entry of a positive amount is read again as it is, since it is no
zero. -/
theorem reread_entry {direction : Direction} {accountId note : String} {amount : Decimal}
    (hTime : stamp.time.carried = stamp.time) (hPositive : amount.isPositive = true) :
    (entry stamp direction accountId amount note).reread =
      entry stamp direction accountId amount note := by
  have hAmount : amount.withoutZeroSign = amount := by
    rw [Decimal.withoutZeroSign_eq_self_iff]
    intro hZero
    have hSigned := (Decimal.isPositive_iff amount).mp hPositive
    simp [Decimal.signed, hZero] at hSigned
  simp only [Transaction.reread, entry, hAmount, hTime]

/-- A step adds nothing that a file does not keep. Everything that is paid is
positive, and the stamp has the time of a time stamp. -/
theorem reread_of_step (hStep : l.Step stamp l') (h : l.reread = l)
    (hTime : stamp.time.carried = stamp.time) : l'.reread = l' := by
  cases hStep with
  | kept => exact h
  | memberSelected m hm => exact reread_congr h rfl
  | accountSelected a ha => exact reread_congr h rfl
  | accountOpened a hId hName hOwner => exact reread_congr h rfl
  | credited a amount new note hAccount hPositive hNew =>
    exact reread_withEntry h (reread_entry hTime hPositive)
  | debited a amount old new note hAccount hPositive hKind hOld hFunds hNew =>
    exact reread_withEntry h (reread_entry hTime hPositive)
  | listCreated list hId hName hItems => exact reread_congr h rfl
  | itemAdded i item hId => exact reread_congr h rfl
  | itemChanged i j change hKept => exact reread_congr h rfl

-- ---------------------------------------------------------------------------
-- Other ids
-- ---------------------------------------------------------------------------

/-- Ids are read as they are written. -/
theorem reread_renamed {ρ : Renaming} (h : l.reread = l) : (l.renamed ρ).reread = l.renamed ρ := by
  rw [reread_eq_self_iff] at h ⊢
  intro t' ht'
  obtain ⟨t, ht, rfl⟩ := List.mem_map.mp ht'
  exact congrArg (Transaction.renamed ρ) (h t ht)

end Ledger

end HomeLedger
