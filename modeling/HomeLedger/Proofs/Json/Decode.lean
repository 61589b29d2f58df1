import HomeLedger.Json.Decode
import HomeLedger.Proofs.Calendar.Instant
import HomeLedger.Proofs.Decimal.Text
import HomeLedger.Proofs.Json.Layout
import Mathlib.Data.List.Nodup

/-!
# HomeLedger — a value is decoded from the text that it was written as

Writing and decoding a value are joined by the tree in the middle
(`Json.Decodes`): the text is read as some tree, and the tree is decoded as
the value. Each form of value has one rule, and the rule of a record takes
the trees of its members and is left with the members themselves.

Main results:

* `decodes_decimal` — an amount is decoded without the sign of a zero.
* `decodes_instant` — an instant is decoded as what it shows.
* `decodes_list` / `decodes_record` — values that hold others.
-/

namespace HomeLedger.Json

open Text

variable {α β : Type}

/-- Whether a value of the library is decoded from the text of a value of JSON.
The tree is in between, and it is nobody's business how a text leads to it. -/
def Decodes (decode : Node → Option α) (j : Json) (a : α) : Prop :=
  ∃ n, j.Reads n ∧ decode n = some a

-- ---------------------------------------------------------------------------
-- Plain values
-- ---------------------------------------------------------------------------

/-- What is decoded from a string can be said of its text, as a string is read
as itself. -/
theorem decodes_of_string {decode : Node → Option α} {s : String} {a : α}
    (h : decode (.string (some s)) = some a) : Decodes decode (.string s) a :=
  ⟨_, reads_string s, h⟩

theorem decodes_text (s : String) : Decodes Node.text? (.string s) s := decodes_of_string rfl

theorem decodes_bool (b : Bool) : Decodes Node.bool? (.bool b) b := ⟨_, reads_bool b, rfl⟩

/-- An amount is decoded without the sign of a zero. -/
theorem decodes_decimal (d : Decimal) :
    Decodes Node.decimal? (.string d.text) d.withoutZeroSign :=
  decodes_of_string (Decimal.read_text d)

/-- A date is decoded from its form, which has year, month and day. -/
theorem date?_isoText (d : Date) : Node.date? (.string (some d.isoText)) = some d :=
  Date.ofIso?_isoText d

/-- An instant is decoded as what it shows. -/
theorem decodes_instant (i : Instant) : Decodes Node.instant? (.string i.text) i.carried :=
  decodes_of_string (Instant.read?_text i)

/-- A constant is decoded from its name. -/
theorem decodes_constant {name : α → String} {all : List α} {a : α}
    (h : lookup? (name a) (Node.tagged name all) = some a) :
    Decodes (Node.constant? (Node.tagged name all)) (.string (name a)) a :=
  decodes_of_string h

/-- A number of 32 bits is decoded within its bounds; it is checked to have no
more. -/
theorem decodes_nat32 {n : Nat} (h : n < 2 ^ 32) : Decodes Node.nat32? (.integer n) n := by
  have hValue : Numeral.toJson? ⟨false, decimal n, none, none⟩ = some (.integer n) := by
    have hFits : (!false && decide (n < 2 ^ 64)) = true := by simp; omega
    rw [Numeral.toJson?]
    simp only [ofDecimal_decimal]
    rw [if_pos hFits]
  refine ⟨_, reads_natural n, ?_⟩
  simp only [Node.nat32?, hValue]
  rw [if_pos (by omega), Int.toNat_natCast]

/-- What is absent is `null`, and what is there is a string. -/
theorem decodes_option {decode : Node → Option α} (write : α → String)
    (h : ∀ a, decode (.string (some (write a))) = some a) (o : Option α) :
    Decodes (Node.option? decode) (ofOption .string (o.map write)) o := by
  cases o with
  | none => exact ⟨_, reads_null, rfl⟩
  | some a =>
    refine decodes_of_string ?_
    rw [Node.option?, h, Option.map_some]
    simp

theorem decodes_optionalText (o : Option String) :
    Decodes (Node.option? Node.text?) (ofOption .string o) o := by
  have h : Decodes (Node.option? Node.text?) (ofOption .string (o.map id)) o :=
    decodes_option id (fun _ => rfl) o
  rwa [Option.map_id_fun, id_eq] at h

-- ---------------------------------------------------------------------------
-- Lists
-- ---------------------------------------------------------------------------

/-- The items of an array are decoded one by one. -/
theorem decodes_list {decode : Node → Option β} {write : α → Json} {value : α → β}
    {items : List α} (h : ∀ a ∈ items, Decodes decode (write a) (value a)) :
    Decodes (Node.list? decode) (.array (items.map write)) (items.map value) := by
  have hNodes : ∃ nodes, List.Forall₂ Reads (items.map write) nodes ∧
      nodes.mapM decode = some (items.map value) := by
    induction items with
    | nil => exact ⟨[], .nil, rfl⟩
    | cons a items ih =>
      rw [List.forall_mem_cons] at h
      obtain ⟨node, hReads, hDecode⟩ := h.1
      obtain ⟨nodes, hAll, hDecodes⟩ := ih h.2
      refine ⟨node :: nodes, .cons hReads hAll, ?_⟩
      rw [List.mapM_cons, hDecode, hDecodes]
      rfl
  obtain ⟨nodes, hReads, hDecode⟩ := hNodes
  exact ⟨_, reads_array hReads, hDecode⟩

-- ---------------------------------------------------------------------------
-- Records
-- ---------------------------------------------------------------------------

theorem readsMember {key : String} {j : Json} {n : Node} (h : j.Reads n) :
    ReadsMember (key, j) (key, n) := ⟨rfl, h⟩

/-- The keys of an object that was written are strings that can be read, so that
all of them are there for the record. -/
theorem mapM_keys (nodes : List (String × Node)) :
    (nodes.map fun (key, node) => (some key, node)).mapM
      (fun (key, node) => key.map (·, node)) = some nodes := by
  induction nodes with
  | nil => rfl
  | cons m nodes ih =>
    rw [List.map_cons, List.mapM_cons, ih]
    rfl

/-- An object that has just the members of a record is that record. The members
are in the order of the names, and none of them is there twice. -/
theorem record?_object {nodes : List (String × Node)} {names : List String}
    (hNames : nodes.map (·.1) = names) (hNodup : names.Nodup) :
    Node.record? names (.object (nodes.map fun (key, node) => (some key, node))) = some nodes := by
  subst hNames
  have hKnown : nodes.filter ((nodes.map (·.1)).contains ·.1) = nodes := by
    refine List.filter_eq_self.mpr fun m hm => ?_
    rw [List.contains_iff_mem]
    exact List.mem_map_of_mem hm
  have hOnce : ((nodes.map (·.1)).all fun name =>
      (nodes.filter (·.1 == name)).length ≤ 1) = true := by
    rw [List.all_eq_true]
    intro name _
    rw [decide_eq_true_iff, ← List.countP_eq_length_filter]
    have hCount := List.nodup_iff_count_le_one.mp hNodup name
    rwa [List.count, List.countP_map] at hCount
  unfold Node.record?
  simp only [mapM_keys, Option.bind_eq_bind, Option.bind_some, hKnown]
  rw [if_pos hOnce]

/-- What is decoded from an object can be said of its members. -/
theorem decodes_object {members : List (String × Json)} {nodes : List (String × Node)}
    (h : List.Forall₂ ReadsMember members nodes) {decode : Node → Option α} {a : α}
    (hDecode : decode (.object (nodes.map fun (key, node) => (some key, node))) = some a) :
    Decodes decode (.object members) a :=
  ⟨_, reads_object h, hDecode⟩

/-- A record is decoded from its members. This is the rule for all records of
the library; what is left to show for each is what it is built from. -/
theorem decodes_record {members : List (String × Json)} {nodes : List (String × Node)}
    (h : List.Forall₂ ReadsMember members nodes) {names : List String}
    (hNames : nodes.map (·.1) = names) (hNodup : names.Nodup)
    {build : List (String × Node) → Option α} {a : α} (hBuild : build nodes = some a) :
    Decodes (fun n => (n.record? names).bind build) (.object members) a := by
  refine decodes_object h ?_
  rw [record?_object hNames hNodup, Option.bind_some, hBuild]

end HomeLedger.Json
