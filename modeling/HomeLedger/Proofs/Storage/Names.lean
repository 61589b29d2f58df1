import HomeLedger.Proofs.Storage

/-!
# HomeLedger — the three names of a write

A write under a lock has three names: that of the file, that of its lock file
and that of its temporary file. The last two are put together from the parts of
the first, and where it is cut depends on its dots. Were two of the names the
same, what is saved would be lost with a lock or a leftover.

Whatever the cut, the lock file has `.lock` behind the whole name
(`FileName.lock_eq`), and so it is longer than the name, tells which name it
belongs to, and ends otherwise than any temporary file. The temporary file may
be the file itself, which does no harm. But a name such as `..x` is that of the
directory above when its extension is taken off (`FileName.LeadsUp`). It has no
temporary file then, and cannot be written.

Main results:

* `FileName.lock_eq` / `FileName.lock_ne_temporary` — the lock file.
* `FileName.temporary_eq_up_iff` — the names without a temporary file.
* `Directory.ordinary_names_written` — which names are written, and what is in
  the directory then.
* `Directory.leading_up_not_written` — that not all of them are.
-/

namespace HomeLedger

namespace FileName

variable {name stem extension : String}

-- ---------------------------------------------------------------------------
-- The cut
-- ---------------------------------------------------------------------------

/-- A text is cut at its last dot just if there is one, and no other behind
it. -/
theorem splitLastDot_eq_some_iff {cs front back : List Char} :
    splitLastDot cs = some (front, back) ↔ cs = front ++ '.' :: back ∧ '.' ∉ back := by
  have hReverse : splitLastDot cs = some (front, back) ↔
      Text.splitOnce '.' cs.reverse = some (back.reverse, front.reverse) := by
    rw [splitLastDot, Option.map_eq_some_iff]
    constructor
    · rintro ⟨⟨a, b⟩, hSplit, hEq⟩
      obtain ⟨rfl, rfl⟩ := Prod.mk.inj hEq
      rw [hSplit, List.reverse_reverse, List.reverse_reverse]
    · exact fun h => ⟨_, h, by simp⟩
  rw [hReverse, Text.splitOnce_eq_some_iff, List.mem_reverse, List.reverse_eq_iff]
  simp

/-- The extension of a name is behind its last dot, and there is something in
front of that. A name with nothing in front of its only dot, such as `.plan`,
has no extension. -/
theorem splitExtension_eq_some_iff : splitExtension name = (stem, some extension) ↔
    name = stem ++ "." ++ extension ∧ stem ≠ "" ∧ '.' ∉ extension.toList := by
  have hCut : name = stem ++ "." ++ extension ↔
      name.toList = stem.toList ++ '.' :: extension.toList := by
    rw [← String.toList_inj, String.toList_append, String.toList_append, List.append_assoc]
    rfl
  rw [hCut]
  unfold splitExtension
  constructor
  · intro h
    split at h
    · exact absurd (Prod.mk.inj h).2 (by simp)
    · exact absurd (Prod.mk.inj h).2 (by simp)
    · next front back hEmpty hSplit =>
      obtain ⟨rfl, hBack⟩ := Prod.mk.inj h
      obtain rfl := Option.some.inj hBack
      obtain ⟨hName, hDot⟩ := splitLastDot_eq_some_iff.mp hSplit
      exact ⟨by simpa using hName, fun hNil => hEmpty (String.ofList_eq_empty_iff.mp hNil),
        by simpa using hDot⟩
  · rintro ⟨hName, hStem, hDot⟩
    have hSplit := splitLastDot_eq_some_iff.mpr ⟨hName, hDot⟩
    rw [hSplit]
    split
    -- A dot in front of the name makes no extension, but then the stem is empty.
    · next back hNil =>
      have hEmpty := (Prod.mk.inj (Option.some.inj hNil)).1
      exact absurd (by simpa using hEmpty) hStem
    · next hNone => cases hNone
    · next front back hEmpty hSome =>
      obtain ⟨rfl, rfl⟩ := Prod.mk.inj (Option.some.inj hSome)
      simp

/-- A name without an extension is all stem, also one that begins with a dot. -/
theorem splitExtension_of_none (h : splitExtension name = (stem, none)) : stem = name := by
  unfold splitExtension at h
  split at h
  · exact (Prod.mk.inj h).1.symm
  · exact (Prod.mk.inj h).1.symm
  · exact absurd (Prod.mk.inj h).2 (by simp)

-- ---------------------------------------------------------------------------
-- The lock file
-- ---------------------------------------------------------------------------

/-- The lock file has the whole name, and `.lock` behind it. It is made by
another extension, but one that has the old one in it, and so the cut does not
matter. -/
theorem lock_eq (name : String) : lock name = name ++ ".lock" := by
  obtain ⟨⟨stem, extension⟩, hSplit⟩ : ∃ parts, splitExtension name = parts := ⟨_, rfl⟩
  rw [lock, hSplit]
  cases extension with
  | none =>
    obtain rfl := splitExtension_of_none hSplit
    simp only [withExtension, hSplit, String.append_assoc]
    rfl
  | some extension =>
    obtain ⟨hName, -, -⟩ := splitExtension_eq_some_iff.mp hSplit
    simp only [withExtension, hSplit]
    rw [hName]
    simp only [String.append_assoc]

/-- Two files have two lock files, so no write waits for that of another
file. -/
theorem lock_injective : Function.Injective lock := by
  intro name other h
  rw [lock_eq, lock_eq] at h
  exact (String.append_left_inj _).mp h

/-- No file is its own lock file, which is longer. -/
theorem lock_ne_self (name : String) : lock name ≠ name := by
  intro h
  have hLength := congrArg String.length h
  rw [lock_eq, String.length_append] at hLength
  exact absurd (Nat.add_eq_left.mp hLength) (by decide)

-- ---------------------------------------------------------------------------
-- The temporary file
-- ---------------------------------------------------------------------------

/-- A text with another one behind it ends like that one. The last characters
are what tells a lock file from a temporary one. -/
theorem getLast?_append_toList {a b : String} {c : Char} (h : b.toList.getLast? = some c) :
    (a ++ b).toList.getLast? = some c := by
  rw [String.toList_append, List.getLast?_append, h, Option.some_or]

/-- The temporary file has another extension, unless that leads up. -/
theorem temporary_of_ne_up (h : temporary name ≠ up) :
    temporary name = withExtension name "tmp" := by
  unfold temporary at h ⊢
  split
  · next hUp => exact absurd (if_pos hUp) h
  · rfl

theorem getLast?_withExtension_tmp (name : String) :
    (withExtension name "tmp").toList.getLast? = some 'p' :=
  getLast?_append_toList rfl

/-- The temporary file is not the lock file. One ends in `p`, or is that of the
directory above, and the other ends in `k`. -/
theorem lock_ne_temporary (name : String) : lock name ≠ temporary name := by
  intro h
  have hLock : (lock name).toList.getLast? = some 'k' := by
    rw [lock_eq]
    exact getLast?_append_toList rfl
  rw [h] at hLock
  by_cases hUp : temporary name = up
  · rw [hUp] at hLock
    exact absurd hLock (by decide)
  · rw [temporary_of_ne_up hUp, getLast?_withExtension_tmp] at hLock
    exact absurd hLock (by decide)

/-- Whether a name has an extension, and is that of the directory above without
it: two dots, and no other one behind them. -/
def LeadsUp (name : String) : Prop :=
  ∃ extension : String, name = up ++ extension ∧ '.' ∉ extension.toList

/-- There is a temporary file unless the name leads up. Names are put together
again from their parts, and the only stem that gives the directory above is one
dot. -/
theorem temporary_eq_up_iff : temporary name = up ↔ LeadsUp name := by
  have hSingle : ∀ extension : String, splitExtension name = (".", some extension) ↔
      name = up ++ extension ∧ '.' ∉ extension.toList := by
    intro extension
    have hDots : "." ++ "." ++ extension = up ++ extension := rfl
    have hDot : "." ≠ "" := by decide
    rw [splitExtension_eq_some_iff, hDots, and_iff_right hDot]
  unfold LeadsUp
  simp only [← hSingle]
  constructor
  · intro h
    unfold temporary at h
    split at h
    · next hUp =>
      obtain ⟨extension, hSome⟩ := Option.isSome_iff_exists.mp hUp.2
      exact ⟨extension, Prod.ext hUp.1 hSome⟩
    -- Any other temporary name ends as `tmp` does.
    · have hLast := getLast?_withExtension_tmp name
      rw [h] at hLast
      exact absurd hLast (by decide)
  · rintro ⟨extension, hSplit⟩
    rw [temporary, hSplit, if_pos ⟨rfl, rfl⟩]

/-- Whether a name leads up can be checked, as it does just if it has no
temporary file. -/
instance (name : String) : Decidable (LeadsUp name) :=
  decidable_of_iff (temporary name = up) temporary_eq_up_iff

-- ---------------------------------------------------------------------------
-- Ordinary names
-- ---------------------------------------------------------------------------

/-- Whether a name is one step of a path, and leads to a file. The two names
that directories have for themselves and for the one above do not. -/
structure IsOrdinary (name : String) : Prop where
  nonempty : name ≠ ""
  notHere : name ≠ "."
  notUp : name ≠ up
  noSlash : '/' ∉ name.toList

instance (name : String) : Decidable (IsOrdinary name) :=
  decidable_of_iff (name ≠ "" ∧ name ≠ "." ∧ name ≠ up ∧ '/' ∉ name.toList)
    ⟨fun ⟨h₁, h₂, h₃, h₄⟩ => ⟨h₁, h₂, h₃, h₄⟩, fun ⟨h₁, h₂, h₃, h₄⟩ => ⟨h₁, h₂, h₃, h₄⟩⟩

/-- Whether a directory takes a file of this name, and one with `.lock` behind
it. This is asked for by the system of files and not by the program. -/
structure IsAccepted (name : String) : Prop where
  noNull : '\x00' ∉ name.toList
  fits : (name ++ ".lock").utf8ByteSize ≤ maxBytes

instance (name : String) : Decidable (IsAccepted name) :=
  decidable_of_iff ('\x00' ∉ name.toList ∧ (name ++ ".lock").utf8ByteSize ≤ maxBytes)
    ⟨fun ⟨h₁, h₂⟩ => ⟨h₁, h₂⟩, fun ⟨h₁, h₂⟩ => ⟨h₁, h₂⟩⟩

/-- The path of an ordinary name leads to the file of this name. -/
theorem IsOrdinary.ofPath?_eq (h : IsOrdinary name) (hNull : '\x00' ∉ name.toList) :
    Destination.ofPath? name = some ⟨name, true, false⟩ := by
  have hSteps : name.toList.splitOn '/' = [name.toList] := List.splitOn_eq_singleton h.noSlash
  have hIdle : (name.toList.isEmpty || name.toList == ['.']) = false := by
    have hHere : name.toList ≠ ['.'] := fun hHere => h.notHere (String.toList_injective hHere)
    simpa [h.nonempty] using hHere
  have hUp : (name.toList == ['.', '.']) = false :=
    beq_eq_false_iff_ne.mpr fun hUp => h.notUp (String.toList_injective hUp)
  have hMoves : [name.toList].filter (fun step => !(step.isEmpty || step == ['.'])) =
      [name.toList] := List.filter_cons_of_pos (by rw [hIdle]; rfl)
  have hRest : [name.toList].dropWhile (fun step => step == ['.', '.']) = [name.toList] :=
    List.dropWhile_cons_of_neg (by rw [hUp]; exact Bool.false_ne_true)
  have hRelative : name.startsWith "/" = false := by
    rw [String.startsWith_string_eq_false_iff]
    exact fun hSlash => h.noSlash (hSlash.subset (List.mem_singleton_self '/'))
  unfold Destination.ofPath?
  simp only [hSteps, hMoves, hRest]
  simp [hIdle, hRelative, hNull]

end FileName

namespace Directory

-- ---------------------------------------------------------------------------
-- Writes under a lock
-- ---------------------------------------------------------------------------

/-- A name that leads up is refused, and its lock file is left behind. The lock
is taken before the contents are written, which is what fails. -/
theorem lockedWrite_of_leadsUp {name : String} (hName : FileName.IsOrdinary name)
    (hAccepted : FileName.IsAccepted name) (hUp : FileName.LeadsUp name) (d : Directory)
    (contents : String) :
    d.lockedWrite name contents = (false, d.touch (FileName.lock name)) := by
  have hFits : ¬FileName.maxBytes < (FileName.lock name).utf8ByteSize := by
    rw [FileName.lock_eq]
    exact Nat.not_lt.mpr hAccepted.fits
  have hTemporary : (FileName.temporary name != FileName.up) = false := by
    rw [FileName.temporary_eq_up_iff.mpr hUp, bne_self_eq_false]
  unfold lockedWrite
  rw [hName.ofPath?_eq hAccepted.noNull]
  simp only
  rw [if_neg hFits, if_neg (by decide), if_neg (by decide), hTemporary,
    if_neg Bool.false_ne_true]

theorem touch_empty (name : String) : touch [] name = [(name, "")] := rfl

/-- In a directory with the lock file alone, a file is put in front of it. The
temporary file is not there any more. -/
theorem atomicWrite_lock (name contents : String) :
    atomicWrite [(FileName.lock name, "")] name contents =
      [(name, contents), (FileName.lock name, "")] := by
  -- Whichever of the other two names is given up, the lock file keeps its own.
  have hKept : ∀ other, FileName.lock name ≠ other →
      remove [(FileName.lock name, "")] other = [(FileName.lock name, "")] :=
    fun other hne => List.filter_cons_of_pos (by simpa using hne)
  have hTemporary : remove ((FileName.temporary name, contents) :: [(FileName.lock name, "")])
      (FileName.temporary name) = [(FileName.lock name, "")] :=
    (List.filter_cons_of_neg (by simp)).trans (hKept _ (FileName.lock_ne_temporary name))
  rw [atomicWrite, write, hKept _ (FileName.lock_ne_temporary name), rename, read?_cons,
    if_pos rfl]
  simp only
  rw [hTemporary, write, hKept _ (FileName.lock_ne_self name)]

/-- The lock file of an ordinary name has `.lock` behind it, and is neither the
file itself nor the temporary one nor the lock file of another name. In an
empty directory the write leaves the file with its contents and the lock file,
and nothing else; in any other one the temporary file is gone and the other
files are as they were. Only a name that leads up is refused, and then there is
nothing but the lock file. -/
theorem ordinary_names_written {name : String} (hName : FileName.IsOrdinary name)
    (hAccepted : FileName.IsAccepted name) (contents : String) :
    (FileName.lock name = name ++ ".lock" ∧ FileName.lock name ≠ name ∧
      FileName.lock name ≠ FileName.temporary name ∧
      ∀ other, FileName.lock other = FileName.lock name → other = name) ∧
    (FileName.LeadsUp name → lockedWrite [] name contents = (false, [(name ++ ".lock", "")])) ∧
    (¬FileName.LeadsUp name →
      lockedWrite [] name contents = (true, [(name, contents), (name ++ ".lock", "")]) ∧
      ∀ d : Directory, ∃ d', d.lockedWrite name contents = (true, d') ∧
        ∀ other, d'.read? other =
          if other = name then some contents
          else if other = FileName.temporary name then none
          else if other = name ++ ".lock" then some ((d.read? other).getD "")
          else d.read? other) := by
  have hLock : FileName.lock name = name ++ ".lock" := FileName.lock_eq name
  refine ⟨⟨hLock, FileName.lock_ne_self name, FileName.lock_ne_temporary name,
    fun other hOther => FileName.lock_injective hOther⟩, fun hUp => ?_, fun hUp => ?_⟩
  · rw [lockedWrite_of_leadsUp hName hAccepted hUp, touch_empty, hLock]
  · have hNames : (FileName.lock name).utf8ByteSize ≤ FileName.maxBytes ∧
        FileName.temporary name ≠ FileName.up :=
      ⟨hLock ▸ hAccepted.fits, mt FileName.temporary_eq_up_iff.mp hUp⟩
    have hWritten := lockedWrite_eq (hName.ofPath?_eq hAccepted.noNull) hNames
    constructor
    · rw [hWritten, touch_empty, atomicWrite_lock, hLock]
    -- the lock file is touched first, so what it held is still in it
    · refine fun d => ⟨_, hWritten d contents, fun other => ?_⟩
      rw [read?_atomicWrite_cases, read?_touch, hLock]
      split
      · rfl
      · split
        · rfl
        · split
          · next hOther => rw [hOther]
          · rfl

/-- A file that is its own temporary one is written, and so is one with three
dots in front of its extension, but not one with two. -/
theorem own_temporary_written :
    FileName.temporary ".plan.tmp" = ".plan.tmp" ∧
      lockedWrite [] ".plan.tmp" "milk" =
        (true, [(".plan.tmp", "milk"), (".plan.tmp.lock", "")]) ∧
      lockedWrite [] "...plan" "milk" = (true, [("...plan", "milk"), ("...plan.lock", "")]) ∧
      lockedWrite [] "..plan" "milk" = (false, [("..plan.lock", "")]) := by
  have hOne : FileName.IsOrdinary ".plan.tmp" := by decide
  have hTwo : FileName.IsOrdinary "..plan" := by decide
  have hThree : FileName.IsOrdinary "...plan" := by decide
  obtain ⟨-, -, hWritten⟩ := ordinary_names_written hOne (by decide) "milk"
  obtain ⟨-, hRefused, -⟩ := ordinary_names_written hTwo (by decide) "milk"
  obtain ⟨-, -, hWritten'⟩ := ordinary_names_written hThree (by decide) "milk"
  exact ⟨by decide, (hWritten (by decide)).1, (hWritten' (by decide)).1, hRefused (by decide)⟩

/-- Not every ordinary name is written. One that leads up is accepted by the
directory, and yet it is refused. -/
theorem leading_up_not_written : ¬∀ name contents : String, FileName.IsOrdinary name →
    FileName.IsAccepted name → (lockedWrite [] name contents).1 = true := by
  intro hAll
  have hWritten := hAll "..plan" "milk" (by decide) (by decide)
  rw [lockedWrite_of_leadsUp (by decide) (by decide) (by decide)] at hWritten
  exact absurd hWritten Bool.false_ne_true

end Directory

end HomeLedger
