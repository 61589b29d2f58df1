import HomeLedger.Binary64.Basic

/-!
# HomeLedger — JSON values

The ledger file, the machine form of commands and the data of responses are JSON. A number is an
integer or a binary number, and the two are told apart in text: `1` is an integer, `1.0` is not. An
object keeps its members in order. Where a text is read into a value, members are sorted by key and
the last one of each key counts (`Json.insert`).
-/

namespace HomeLedger

/-- A JSON value. -/
inductive Json where
  | null
  | bool (b : Bool)
  | integer (i : Int)
  | float (x : Binary64)
  | string (s : String)
  | array (items : List Json)
  | object (members : List (String × Json))
  deriving Repr

instance : Inhabited Json := ⟨.null⟩

namespace Json

/-- Puts a member into a list sorted by key, in place of one that has the same key. -/
def insert {α : Type} (key : String) (value : α) : List (String × α) → List (String × α)
  | [] => [(key, value)]
  | (k, v) :: rest =>
    if key < k then (key, value) :: (k, v) :: rest
    else if key = k then (key, value) :: rest
    else (k, v) :: insert key value rest

/-- Whether members are sorted by key. Then no key occurs twice, so that members with the same
values under the same keys are the same list. -/
def SortedMembers {α : Type} (members : List (String × α)) : Prop :=
  members.Pairwise fun m m' => m.1 < m'.1

instance {α : Type} (members : List (String × α)) : Decidable (SortedMembers members) :=
  inferInstanceAs (Decidable (List.Pairwise _ _))

section Insert

variable {α : Type} {key : String} {value : α} {members : List (String × α)}

theorem mem_insert {m : String × α} (h : m ∈ insert key value members) :
    m = (key, value) ∨ m ∈ members := by
  induction members with
  | nil => exact Or.inl (List.mem_singleton.mp h)
  | cons first rest ih =>
    rw [insert] at h
    split at h
    · exact List.mem_cons.mp h
    · split at h
      · exact (List.mem_cons.mp h).imp_right (List.mem_cons_of_mem _)
      · rcases List.mem_cons.mp h with rfl | hRest
        · exact Or.inr List.mem_cons_self
        · exact (ih hRest).imp_right (List.mem_cons_of_mem _)

/-- A member is put in between those with lesser and those with greater keys. -/
theorem SortedMembers.insert (h : SortedMembers members) :
    SortedMembers (insert key value members) := by
  induction members with
  | nil => exact List.pairwise_singleton _ _
  | cons first rest ih =>
    obtain ⟨k, v⟩ := first
    obtain ⟨hFirst, hRest⟩ := List.pairwise_cons.mp h
    rw [Json.insert]
    split
    · next hBefore =>
      refine List.pairwise_cons.mpr ⟨fun m hm => ?_, h⟩
      rcases List.mem_cons.mp hm with rfl | hm
      · exact hBefore
      · exact String.lt_trans hBefore (hFirst m hm)
    · split
      · next hSame =>
        subst hSame
        exact List.pairwise_cons.mpr ⟨hFirst, hRest⟩
      · next hNotBefore hne =>
        refine List.pairwise_cons.mpr ⟨fun m hm => ?_, ih hRest⟩
        rcases mem_insert hm with rfl | hm
        · exact Std.lt_of_le_of_ne (String.not_lt.mp hNotBefore) (Ne.symm hne)
        · exact hFirst m hm

end Insert

/-- The value of a member. -/
def lookup? {α : Type} (key : String) (members : List (String × α)) : Option α :=
  (members.find? (·.1 == key)).map (·.2)

/-- A text, or `null` for none. -/
def ofOption {α : Type} (toJson : α → Json) : Option α → Json
  | none => .null
  | some a => toJson a

end Json

end HomeLedger
