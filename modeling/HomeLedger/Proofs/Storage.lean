import HomeLedger.Storage

/-!
# HomeLedger — what is written is there

A file has the contents that were written to it, also when they were first
written to another file that took its name. Of the other files only the
temporary one is affected, which is gone.

Main results:

* `Directory.read?_atomicWrite` — a file that took its name has its contents.
* `Directory.read?_atomicWrite_cases` — what becomes of the other files.
* `Directory.lockedWrite_eq` — what a write under a lock comes to.
-/

namespace HomeLedger.Directory

variable {d : Directory} {name other contents : String}

-- ---------------------------------------------------------------------------
-- One file
-- ---------------------------------------------------------------------------

theorem read?_cons (d : Directory) (name contents other : String) :
    read? ((name, contents) :: d) other =
      if other = name then some contents else d.read? other := by
  unfold read?
  rw [List.find?_cons]
  by_cases h : other = name
  · subst h
    simp
  · have hName : (name == other) = false := beq_eq_false_iff_ne.mpr (Ne.symm h)
    simp [h, hName]

theorem read?_remove (d : Directory) (name other : String) :
    (d.remove name).read? other = if other = name then none else d.read? other := by
  unfold remove
  induction d with
  | nil => simp [read?]
  | cons file d ih =>
    obtain ⟨old, contents⟩ := file
    rw [List.filter_cons, read?_cons]
    by_cases hOld : old = name
    · rw [if_neg (by simpa using hOld), ih, hOld]
      split <;> rfl
    · rw [if_pos (by simpa using hOld), read?_cons, ih]
      split
      · next hOther => rw [if_neg (hOther ▸ hOld)]
      · rfl

theorem read?_write (d : Directory) (name contents other : String) :
    (d.write name contents).read? other =
      if other = name then some contents else d.read? other := by
  rw [write, read?_cons, read?_remove]
  split <;> rfl

/-- A file that is touched is there. It is empty if there was none, and as it
was otherwise. -/
theorem read?_touch (d : Directory) (name other : String) :
    (d.touch name).read? other =
      if other = name then some ((d.read? name).getD "") else d.read? other := by
  unfold touch
  split
  · next hThere =>
    obtain ⟨contents, hContents⟩ := Option.isSome_iff_exists.mp hThere
    split
    · next hOther => rw [hOther, hContents, Option.getD_some]
    · rfl
  · next hNone =>
    rw [Bool.not_eq_true, Option.isSome_eq_false_iff, Option.isNone_iff_eq_none] at hNone
    rw [read?_write, hNone, Option.getD_none]

-- ---------------------------------------------------------------------------
-- A file that takes a name
-- ---------------------------------------------------------------------------

/-- A file that is written to a temporary one has the contents, the temporary
one is gone, and the others are as they were. -/
theorem read?_atomicWrite_cases (d : Directory) (name contents other : String) :
    (d.atomicWrite name contents).read? other =
      if other = name then some contents
      else if other = FileName.temporary name then none
      else d.read? other := by
  have hTemporary : (d.write (FileName.temporary name) contents).read?
      (FileName.temporary name) = some contents := by rw [read?_write, if_pos rfl]
  rw [atomicWrite, rename, hTemporary]
  simp only
  rw [read?_write, read?_remove, read?_write]
  split
  · rfl
  · split <;> rfl

/-- A file that took its name has the contents that it was written with, even if
it is its own temporary file. -/
theorem read?_atomicWrite (d : Directory) (name contents : String) :
    (d.atomicWrite name contents).read? name = some contents := by
  rw [read?_atomicWrite_cases, if_pos rfl]

/-- A file of the directory itself is written when there is room for the name of
its lock file and there is a temporary file. The lock file stays. -/
theorem lockedWrite_eq {path : String} (h : Destination.ofPath? path = some ⟨name, true, false⟩)
    (hNames : (FileName.lock name).utf8ByteSize ≤ FileName.maxBytes ∧
      FileName.temporary name ≠ FileName.up) (d : Directory) (contents : String) :
    d.lockedWrite path contents =
      (true, (d.touch (FileName.lock name)).atomicWrite name contents) := by
  have hFits : ¬FileName.maxBytes < (FileName.lock name).utf8ByteSize :=
    Nat.not_lt.mpr hNames.1
  unfold lockedWrite
  rw [h]
  simp only
  rw [if_neg hFits, if_neg (by decide), if_neg (by decide), if_pos (bne_iff_ne.mpr hNames.2)]

end HomeLedger.Directory
