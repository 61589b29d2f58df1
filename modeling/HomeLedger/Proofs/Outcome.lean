import Mathlib.Data.List.Forall2

/-!
# HomeLedger — computations that may fail

A computation that has succeeded has succeeded in each of its steps. These
are the two forms in which that is used: for one step after another, and for
one step on each entry of a list.
-/

namespace HomeLedger

variable {ε α β : Type}

/-- A computation that is known to succeed has a result. -/
theorem exists_of_isOk {x : Except ε α} (h : x.isOk = true) : ∃ a, x = .ok a := by
  cases x with
  | error e => exact absurd h (by simp [Except.isOk, Except.toBool])
  | ok a => exact ⟨a, rfl⟩

/-- A computation has the result that is left of it when errors are
forgotten. -/
theorem eq_ok_of_toOption {x : Except ε α} {a : α} (h : x.toOption = some a) : x = .ok a := by
  cases x with
  | error e => cases h
  | ok a' => exact congrArg Except.ok (Option.some.inj h)

/-- What is known of the result of a computation that is known to succeed. -/
theorem exists_of_map_eq_ok {x : Except ε α} {f : α → β} {b : β} (h : x.map f = .ok b) :
    ∃ a, x = .ok a ∧ f a = b := by
  cases x with
  | error e => cases h
  | ok a => exact ⟨a, rfl, Except.ok.inj h⟩

/-- Another form of an error is no result, so that errors can be reworded
without a look at what succeeds. -/
theorem mapError_eq_ok {ε' : Type} {x : Except ε α} {change : ε → ε'} {a : α} :
    x.mapError change = .ok a ↔ x = .ok a := by
  cases x <;> simp [Except.mapError]

/-- Two steps succeed if the first does, and the second does on its result. -/
theorem bind_eq_ok {x : Except ε α} {next : α → Except ε β} {b : β} :
    (x >>= next) = .ok b ↔ ∃ a, x = .ok a ∧ next a = .ok b := by
  cases x with
  | error e => simp [bind, Except.bind]
  | ok a => simp [bind, Except.bind]

/-- A list is gone through with success if each entry is. The results are as
many as the entries, and in their order. -/
theorem mapM_eq_ok {step : α → Except ε β} {xs : List α} {ys : List β} :
    xs.mapM step = .ok ys ↔ List.Forall₂ (fun x y => step x = .ok y) xs ys := by
  induction xs generalizing ys with
  | nil =>
    rw [List.mapM_nil, List.forall₂_nil_left_iff]
    exact ⟨fun h => (Except.ok.inj h).symm, fun h => h ▸ rfl⟩
  | cons x xs ih =>
    rw [List.mapM_cons, bind_eq_ok, List.forall₂_cons_left_iff]
    constructor
    · rintro ⟨y, hy, h⟩
      obtain ⟨ys', hys', h⟩ := bind_eq_ok.mp h
      exact ⟨y, ys', hy, ih.mp hys', (Except.ok.inj h).symm⟩
    · rintro ⟨y, ys', hy, hys', rfl⟩
      exact ⟨y, hy, bind_eq_ok.mpr ⟨ys', ih.mpr hys', rfl⟩⟩

/-- A list is gone through with success if there is a result for each
entry. -/
theorem exists_mapM_eq_ok {step : α → Except ε β} {xs : List α}
    (h : ∀ x ∈ xs, ∃ y, step x = .ok y) : ∃ ys, xs.mapM step = .ok ys := by
  induction xs with
  | nil => exact ⟨[], rfl⟩
  | cons x xs ih =>
    obtain ⟨y, hy⟩ := h x List.mem_cons_self
    obtain ⟨ys, hys⟩ := ih fun x' hx' => h x' (List.mem_cons_of_mem x hx')
    exact ⟨y :: ys, mapM_eq_ok.mpr (.cons hy (mapM_eq_ok.mp hys))⟩

/-- Each entry of the result comes from one of the list. -/
theorem exists_of_mapM_eq_ok {step : α → Except ε β} {xs : List α} {ys : List β}
    (h : xs.mapM step = .ok ys) {y : β} (hy : y ∈ ys) : ∃ x ∈ xs, step x = .ok y := by
  obtain ⟨i, hi, rfl⟩ := List.mem_iff_getElem.mp hy
  have hAll := mapM_eq_ok.mp h
  have hi' : i < xs.length := by rwa [hAll.length_eq]
  exact ⟨xs[i], List.getElem_mem hi', hAll.get hi' hi⟩

end HomeLedger
