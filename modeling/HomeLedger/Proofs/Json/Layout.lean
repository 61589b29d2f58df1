import HomeLedger.Proofs.Json.String
import HomeLedger.Proofs.Text.Digits
import Mathlib.Data.List.DropRight
import Mathlib.Data.List.Forall2

/-!
# HomeLedger — a text of JSON is read as the tree that it was written from

There are two ways to lay out a value, and they differ in nothing but the
blanks between its parts. So what is said of a text is said without its
layout (`ReadsAs`): it is read as a node wherever it stands, as long as
something ends it. A list of such texts is read as the list of their nodes,
whatever blanks stand in front of each (`listed`), and only then a value is
taken in each of its layouts (`Json.Reads`).

The reader is given a number of steps. Two for each character are enough at
any depth: an array takes one step to be opened and one for each item, and
both have characters of their own.

Main results:

* `reads_string` / `reads_natural` — values that hold no others.
* `reads_array` / `reads_object` — values that hold others.
* `parse?_pretty` / `parse?_compact` — a text is read as its tree.
-/

namespace HomeLedger

open Text

-- ---------------------------------------------------------------------------
-- Blanks
-- ---------------------------------------------------------------------------

namespace Node

/-- What does not begin with a blank is not changed by passing over blanks. -/
theorem skip_of_not_blank {c : Char} (h : isJsonBlank c = false) (cs : List Char) :
    skip (c :: cs) = c :: cs := by
  rw [skip, List.dropWhile_cons_of_neg (by simp [h])]

/-- Blanks in front of a text are passed over. -/
theorem skip_append {blanks : List Char} (h : ∀ c ∈ blanks, isJsonBlank c = true)
    (cs : List Char) : skip (blanks ++ cs) = skip cs := List.dropWhile_append_of_pos h

theorem skip_skip (cs : List Char) : skip (skip cs) = skip cs :=
  List.dropWhile_idempotent _ cs

-- A reader passes over blanks first, so texts that differ in them are read alike.

theorem read?_congr {cs cs' : List Char} (h : skip cs = skip cs') (steps : Nat) :
    read? steps cs = read? steps cs' := by
  cases steps with
  | zero => rfl
  | succ steps => rw [read?, read?, h]

theorem readItems?_congr {cs cs' : List Char} (h : skip cs = skip cs') (steps : Nat) :
    readItems? steps cs = readItems? steps cs' := by
  cases steps with
  | zero => rfl
  | succ steps => rw [readItems?, readItems?, read?_congr h]

theorem readMembers?_congr {cs cs' : List Char} (h : skip cs = skip cs') (steps : Nat) :
    readMembers? steps cs = readMembers? steps cs' := by
  cases steps with
  | zero => rfl
  | succ steps => rw [readMembers?, readMembers?, h]

-- ---------------------------------------------------------------------------
-- Brackets
-- ---------------------------------------------------------------------------

variable {steps : Nat} {cs cs' rest : List Char}

/-- An array that does not close at once is read by its items. -/
theorem read?_array {items : List Node} {c : Char} (hSkip : skip cs = c :: cs') (hc : c ≠ ']')
    (h : readItems? steps cs = some (items, rest)) :
    read? (steps + 1) ('[' :: cs) = some (.array items, rest) := by
  have hItems : readItems? steps (c :: cs') = some (items, rest) := by
    rw [← hSkip, readItems?_congr (skip_skip cs), h]
  unfold read?
  rw [skip_of_not_blank (by decide)]
  simp only [hSkip]
  split
  · next hEq => exact absurd (List.cons.inj hEq).1 hc
  · rw [hItems, Option.map_some]

/-- An object that does not close at once is read by its members. -/
theorem read?_object {members : List (Option String × Node)} (hSkip : skip cs = '"' :: cs')
    (h : readMembers? steps cs = some (members, rest)) :
    read? (steps + 1) ('{' :: cs) = some (.object members, rest) := by
  have hMembers : readMembers? steps ('"' :: cs') = some (members, rest) := by
    rw [← hSkip, readMembers?_congr (skip_skip cs), h]
  unfold read?
  rw [skip_of_not_blank (by decide)]
  simp only [hSkip]
  show Option.map _ (readMembers? steps ('"' :: cs')) = _
  rw [hMembers, Option.map_some]

section Entries

variable {entries rest' : List Char} {node : Node} {items : List Node} {key : Option String}
  {members : List (Option String × Node)}

/-- The last item of an array. -/
theorem readItems?_last (h : read? steps cs = some (node, rest))
    (hSkip : skip rest = ']' :: rest') : readItems? (steps + 1) cs = some ([node], rest') := by
  rw [readItems?, h]
  simp only [Option.bind_eq_bind, Option.bind_some, hSkip]

/-- An item with others behind it. -/
theorem readItems?_next (h : read? steps cs = some (node, rest))
    (hSkip : skip rest = ',' :: entries) (hItems : readItems? steps entries = some (items, rest')) :
    readItems? (steps + 1) cs = some (node :: items, rest') := by
  rw [readItems?, h]
  simp only [Option.bind_eq_bind, Option.bind_some, hSkip, hItems, pure]

/-- The last member of an object. -/
theorem readMembers?_last {text value : List Char} (hKey : skip cs = '"' :: text)
    (hText : readString? text = some (key, ':' :: value))
    (h : read? steps value = some (node, rest)) (hSkip : skip rest = '}' :: rest') :
    readMembers? (steps + 1) cs = some ([(key, node)], rest') := by
  have hColon : skip (':' :: value) = ':' :: value := skip_of_not_blank (by decide) value
  rw [readMembers?, hKey]
  simp only [Option.bind_eq_bind, Option.bind_some, hText, hColon, h, hSkip]

/-- A member with others behind it. -/
theorem readMembers?_next {text value : List Char} (hKey : skip cs = '"' :: text)
    (hText : readString? text = some (key, ':' :: value))
    (h : read? steps value = some (node, rest)) (hSkip : skip rest = ',' :: entries)
    (hMembers : readMembers? steps entries = some (members, rest')) :
    readMembers? (steps + 1) cs = some ((key, node) :: members, rest') := by
  have hColon : skip (':' :: value) = ':' :: value := skip_of_not_blank (by decide) value
  rw [readMembers?, hKey]
  simp only [Option.bind_eq_bind, Option.bind_some, hText, hColon, h, hSkip, hMembers, pure]

end Entries

end Node

-- ---------------------------------------------------------------------------
-- Texts that are read wherever they stand
-- ---------------------------------------------------------------------------

/-- Whether a text ends the value in front of it. -/
def IsEnd (rest : List Char) : Prop := ∀ c ∈ rest.head?, c ∈ [',', '\n', ']', '}']

theorem isEnd_nil : IsEnd [] := by
  intro c hc
  simp at hc

theorem isEnd_cons {c : Char} (hc : c ∈ [',', '\n', ']', '}']) (rest : List Char) :
    IsEnd (c :: rest) := by
  intro c' hc'
  obtain rfl : c = c' := by simpa using hc'
  exact hc

/-- Whether a text is read as a node, whatever ends it. It does not look like
the end of an array. Two steps for each character are enough, and it is this
bound that goes through the induction. -/
structure ReadsAs (cs : List Char) (n : Node) : Prop where
  starts : ∃ c rest, cs = c :: rest ∧ Node.isJsonBlank c = false ∧ c ≠ ']'
  reads : ∀ steps rest, IsEnd rest → 2 * cs.length ≤ steps →
    Node.read? steps (cs ++ rest) = some (n, rest)

namespace ReadsAs

variable {cs : List Char} {n : Node}

/-- Blanks in front of a text are passed over. -/
theorem read?_gap (h : ReadsAs cs n) {gap : List Char} (hGap : ∀ c ∈ gap, Node.isJsonBlank c = true)
    {steps : Nat} {rest : List Char} (hEnd : IsEnd rest) (hSteps : 2 * cs.length ≤ steps) :
    Node.read? steps (gap ++ (cs ++ rest)) = some (n, rest) := by
  rw [Node.read?_congr (Node.skip_append hGap _)]
  exact h.reads steps rest hEnd hSteps

/-- A text that is read with some step left over is read as a whole. -/
theorem of_succ {c : Char} {cs : List Char} (hBlank : Node.isJsonBlank c = false) (hClose : c ≠ ']')
    (h : ∀ steps rest, IsEnd rest → 2 * cs.length ≤ steps →
      Node.read? (steps + 1) (c :: (cs ++ rest)) = some (n, rest)) : ReadsAs (c :: cs) n := by
  refine ⟨⟨c, cs, rfl, hBlank, hClose⟩, ?_⟩
  intro steps rest hEnd hSteps
  rw [List.length_cons] at hSteps
  obtain ⟨k, rfl⟩ : ∃ k, steps = k + 1 := ⟨steps - 1, by omega⟩
  exact h k rest hEnd (by omega)

end ReadsAs

-- ---------------------------------------------------------------------------
-- Lists of texts
-- ---------------------------------------------------------------------------

/-- Texts with commas between them, each behind a gap. -/
def listed (gap : List Char) : List (List Char) → List Char
  | [] => []
  | [cs] => gap ++ cs
  | cs :: rest => gap ++ cs ++ ',' :: listed gap rest

/-- Of several texts, the first one stands behind its gap and in front of a
comma. -/
theorem listed_cons_cons (gap cs cs' : List Char) (rest : List (List Char)) :
    listed gap (cs :: cs' :: rest) = gap ++ cs ++ ',' :: listed gap (cs' :: rest) := by
  rw [listed]
  simp

theorem listed_head (gap cs : List Char) (rest : List (List Char)) :
    ∃ more, listed gap (cs :: rest) = gap ++ (cs ++ more) := by
  cases rest with
  | nil => exact ⟨[], by rw [List.append_nil]; rfl⟩
  | cons cs' rest => exact ⟨_, by rw [listed_cons_cons, List.append_assoc]⟩

section Listed

variable {gap tail rest : List Char}

/-- Items are read one after the other, up to the bracket behind them. The
induction is on the items, and each takes its own characters from the steps. -/
theorem readItems?_listed (hGap : ∀ c ∈ gap, Node.isJsonBlank c = true) (hEnd : IsEnd tail)
    (hTail : Node.skip tail = ']' :: rest) {items : List (List Char)} {nodes : List Node}
    (h : List.Forall₂ ReadsAs items nodes) (hne : items ≠ []) {steps : Nat}
    (hSteps : 2 * (listed gap items).length < steps) :
    Node.readItems? steps (listed gap items ++ tail) = some (nodes, rest) := by
  induction h generalizing steps with
  | nil => exact absurd rfl hne
  | @cons item node items nodes hItem hItems ih =>
    obtain ⟨k, rfl⟩ : ∃ k, steps = k + 1 := ⟨steps - 1, by omega⟩
    cases hItems with
    | nil =>
      have hList : listed gap [item] = gap ++ item := rfl
      rw [hList, List.length_append] at hSteps
      rw [hList, List.append_assoc]
      exact Node.readItems?_last (hItem.read?_gap hGap hEnd (by omega)) hTail
    | @cons item' node' items nodes hItem' hItems =>
      rw [listed_cons_cons, List.length_append, List.length_append, List.length_cons] at hSteps
      rw [listed_cons_cons, List.append_assoc, List.append_assoc, List.cons_append]
      refine Node.readItems?_next
        (hItem.read?_gap hGap (isEnd_cons (by simp) _) (by omega))
        (Node.skip_of_not_blank (by decide) _) ?_
      exact ih (List.cons_ne_nil _ _) (by omega)

/-- A key and the text of a value, with blanks behind the colon. -/
def memberChars (blanks : List Char) (m : String × List Char) : List Char :=
  Json.stringText m.1 ++ ':' :: (blanks ++ m.2)

/-- A member in front of a text, taken apart into key, colon and value. -/
theorem memberChars_append (blanks : List Char) (m : String × List Char) (rest : List Char) :
    memberChars blanks m ++ rest =
      '"' :: (m.1.toList.flatMap Json.escape ++ '"' :: ':' :: (blanks ++ (m.2 ++ rest))) := by
  simp [memberChars, Json.stringText]

/-- Members are read one after the other, up to the brace behind them. It is the
same induction as for items, with a key in front of each value. -/
theorem readMembers?_listed {blanks : List Char} (hGap : ∀ c ∈ gap, Node.isJsonBlank c = true)
    (hBlanks : ∀ c ∈ blanks, Node.isJsonBlank c = true) (hEnd : IsEnd tail)
    (hTail : Node.skip tail = '}' :: rest) {members : List (String × List Char)}
    {nodes : List (String × Node)}
    (h : List.Forall₂ (fun m n => m.1 = n.1 ∧ ReadsAs m.2 n.2) members nodes) (hne : members ≠ [])
    {steps : Nat} (hSteps : 2 * (listed gap (members.map (memberChars blanks))).length < steps) :
    Node.readMembers? steps (listed gap (members.map (memberChars blanks)) ++ tail) =
      some (nodes.map fun (key, node) => (some key, node), rest) := by
  have hKey : ∀ (key : String) (more : List Char),
      Node.skip (gap ++ '"' :: (key.toList.flatMap Json.escape ++ '"' :: more)) =
        '"' :: (key.toList.flatMap Json.escape ++ '"' :: more) := by
    intro key more
    rw [Node.skip_append hGap, Node.skip_of_not_blank (by decide)]
  -- each value is shorter than its member, so the steps that are left are enough for it
  have hValue : ∀ m : String × List Char, m.2.length < (memberChars blanks m).length := by
    intro m
    simp only [memberChars, List.length_append, List.length_cons]
    omega
  induction h generalizing steps with
  | nil => exact absurd rfl hne
  | @cons m n members nodes hMember hMembers ih =>
    obtain ⟨key, node⟩ := n
    obtain ⟨rfl, hReads⟩ := hMember
    have hShorter := hValue m
    obtain ⟨k, rfl⟩ : ∃ k, steps = k + 1 := ⟨steps - 1, by omega⟩
    cases hMembers with
    | nil =>
      have hList : listed gap ([m].map (memberChars blanks)) = gap ++ memberChars blanks m := rfl
      rw [hList, List.length_append] at hSteps
      rw [hList, List.append_assoc, memberChars_append]
      exact Node.readMembers?_last (hKey m.1 _) (Node.readString?_stringText m.1 _)
        (hReads.read?_gap hBlanks hEnd (by omega)) hTail
    | @cons m' n' members nodes hMember' hMembers =>
      rw [List.map_cons, List.map_cons, listed_cons_cons, List.length_append, List.length_append,
        List.length_cons] at hSteps
      rw [List.map_cons, List.map_cons, listed_cons_cons, List.append_assoc, List.append_assoc,
        List.cons_append, memberChars_append]
      -- what follows the value is a comma, so it is read as it would be in front of anything else
      refine Node.readMembers?_next (hKey m.1 _) (Node.readString?_stringText m.1 _)
        (hReads.read?_gap hBlanks (isEnd_cons (by simp) _) (by omega))
        (Node.skip_of_not_blank (by decide) _) ?_
      rw [← List.map_cons] at hSteps ⊢
      exact ih (List.cons_ne_nil _ _) (by omega)

end Listed

-- ---------------------------------------------------------------------------
-- Layouts
-- ---------------------------------------------------------------------------

/-- The ways to lay out a value: without blanks, or with one item a line, at a
depth of indentation. -/
inductive Layout where
  | compact
  | pretty (depth : Nat)

namespace Layout

/-- The text of a value. -/
def chars : Layout → Json → List Char
  | compact => Json.compactChars
  | pretty depth => Json.prettyChars depth

/-- The layout of what a value holds. -/
def inner : Layout → Layout
  | compact => compact
  | pretty depth => pretty (depth + 1)

/-- What stands in front of each item, and in front of the bracket. -/
def gap : Layout → List Char
  | compact => []
  | pretty depth => Json.newLine depth

/-- What stands behind a colon. -/
def blanks : Layout → List Char
  | compact => []
  | pretty _ => [' ']

variable (layout : Layout)

/-- A gap is made of blanks, be it empty or a line break with indentation. -/
theorem isJsonBlank_gap : ∀ c ∈ layout.gap, Node.isJsonBlank c = true := by
  intro c hc
  cases layout with
  | compact => simp [gap] at hc
  | pretty depth =>
    rcases List.mem_cons.mp hc with rfl | hc
    · decide
    · obtain rfl := List.eq_of_mem_replicate hc
      decide

theorem isJsonBlank_blanks : ∀ c ∈ layout.blanks, Node.isJsonBlank c = true := by
  intro c hc
  cases layout with
  | compact => simp [blanks] at hc
  | pretty depth =>
    obtain rfl := List.mem_singleton.mp hc
    decide

/-- A bracket ends the value in front of it, behind a gap or not. -/
theorem isEnd_gap {c : Char} (hc : c ∈ [',', '\n', ']', '}']) (rest : List Char) :
    IsEnd (layout.gap ++ c :: rest) := by
  cases layout with
  | compact => exact isEnd_cons hc rest
  | pretty depth => exact isEnd_cons (by simp) _

theorem skip_gap {c : Char} (hc : Node.isJsonBlank c = false) (rest : List Char) :
    Node.skip (layout.gap ++ c :: rest) = c :: rest := by
  rw [Node.skip_append layout.isJsonBlank_gap, Node.skip_of_not_blank hc]

-- The two layouts are written by functions of their own, which agree with `listed`.

theorem compactItems_eq (items : List Json) :
    Json.compactItems items = listed [] (items.map Json.compactChars) := by
  induction items with
  | nil => rfl
  | cons item items ih =>
    cases items with
    | nil => rfl
    | cons item' items =>
      rw [Json.compactItems, ih, List.map_cons, List.map_cons, List.map_cons, listed_cons_cons]
      · rfl
      · simp

/-- The items of an array with one item a line are a list with line breaks for
gaps. -/
theorem prettyItems_eq (depth : Nat) (items : List Json) :
    Json.prettyItems depth items =
      listed (Json.newLine depth) (items.map (Json.prettyChars depth)) := by
  induction items with
  | nil => rfl
  | cons item items ih =>
    cases items with
    | nil => rfl
    | cons item' items =>
      rw [Json.prettyItems, ih, List.map_cons, List.map_cons, List.map_cons, listed_cons_cons]
      simp

theorem compactMembers_eq (members : List (String × Json)) :
    Json.compactMembers members =
      listed [] (members.map fun m => memberChars [] (m.1, Json.compactChars m.2)) := by
  induction members with
  | nil => rfl
  | cons m members ih =>
    obtain ⟨key, value⟩ := m
    cases members with
    | nil => rfl
    | cons m' members =>
      rw [Json.compactMembers, ih, List.map_cons, List.map_cons, List.map_cons, listed_cons_cons]
      · simp [memberChars]
      · simp

theorem prettyMembers_eq (depth : Nat) (members : List (String × Json)) :
    Json.prettyMembers depth members = listed (Json.newLine depth)
      (members.map fun m => memberChars [' '] (m.1, Json.prettyChars depth m.2)) := by
  induction members with
  | nil => rfl
  | cons m members ih =>
    obtain ⟨key, value⟩ := m
    cases members with
    | nil => simp [Json.prettyMembers, listed, memberChars]
    | cons m' members =>
      rw [Json.prettyMembers, ih, List.map_cons, List.map_cons, List.map_cons, listed_cons_cons]
      · simp [memberChars]
      · simp

/-- An array has one form in both layouts, and what differs is the gap. -/
theorem chars_array (item : Json) (items : List Json) :
    layout.chars (.array (item :: items)) =
      '[' :: (listed layout.inner.gap ((item :: items).map layout.inner.chars) ++
        (layout.gap ++ [']'])) := by
  cases layout with
  | compact =>
    show '[' :: Json.compactItems (item :: items) ++ [']'] = _
    rw [compactItems_eq]
    rfl
  | pretty depth =>
    show '[' :: Json.prettyItems (depth + 1) (item :: items) ++ Json.newLine depth ++ [']'] = _
    rw [prettyItems_eq, List.append_assoc]
    rfl

theorem chars_object (m : String × Json) (members : List (String × Json)) :
    layout.chars (.object (m :: members)) =
      '{' :: (listed layout.inner.gap (((m :: members).map fun m =>
        (m.1, layout.inner.chars m.2)).map (memberChars layout.blanks)) ++
          (layout.gap ++ ['}'])) := by
  rw [List.map_map]
  cases layout with
  | compact =>
    show '{' :: Json.compactMembers (m :: members) ++ ['}'] = _
    rw [compactMembers_eq]
    rfl
  | pretty depth =>
    show '{' :: Json.prettyMembers (depth + 1) (m :: members) ++ Json.newLine depth ++ ['}'] = _
    rw [prettyMembers_eq, List.append_assoc]
    rfl

end Layout

-- ---------------------------------------------------------------------------
-- Values that hold no others
-- ---------------------------------------------------------------------------

namespace Json

/-- Whether a value is read as a node in each of its layouts. A layout of what
is inside follows from that of the whole, so this is what goes through the
induction. -/
def Reads (j : Json) (n : Node) : Prop := ∀ layout : Layout, ReadsAs (layout.chars j) n

/-- The text of a value that holds no others is the same in each layout. -/
theorem reads_of_chars {j : Json} {n : Node} {cs : List Char} (h : ReadsAs cs n)
    (hCompact : compactChars j = cs) (hPretty : ∀ depth, prettyChars depth j = cs) :
    Reads j n := by
  intro layout
  cases layout with
  | compact =>
    show ReadsAs (compactChars j) n
    rwa [hCompact]
  | pretty depth =>
    show ReadsAs (prettyChars depth j) n
    rwa [hPretty]

theorem reads_null : Reads .null .null := by
  have hReads : ReadsAs ['n', 'u', 'l', 'l'] .null :=
    ReadsAs.of_succ (by decide) (by decide) fun _ _ _ _ => rfl
  exact reads_of_chars hReads rfl fun _ => rfl

theorem reads_bool (b : Bool) : Reads (.bool b) (.bool b) := by
  cases b with
  | false =>
    have hReads : ReadsAs ['f', 'a', 'l', 's', 'e'] (.bool false) :=
      ReadsAs.of_succ (by decide) (by decide) fun _ _ _ _ => rfl
    exact reads_of_chars hReads rfl fun _ => rfl
  | true =>
    have hReads : ReadsAs ['t', 'r', 'u', 'e'] (.bool true) :=
      ReadsAs.of_succ (by decide) (by decide) fun _ _ _ _ => rfl
    exact reads_of_chars hReads rfl fun _ => rfl

theorem reads_string (s : String) : Reads (.string s) (.string (some s)) := by
  have hReads : ReadsAs ('"' :: (s.toList.flatMap escape ++ ['"'])) (.string (some s)) := by
    refine ReadsAs.of_succ (by decide) (by decide) ?_
    intro steps rest _ _
    unfold Node.read?
    rw [Node.skip_of_not_blank (by decide), List.append_assoc]
    show Option.map _ (Node.readString? (s.toList.flatMap escape ++ '"' :: rest)) = _
    rw [Node.readString?_stringText]
    rfl
  exact reads_of_chars hReads rfl fun _ => rfl

/-- The digits of a number begin with a zero only if there is nothing else. A
reader of JSON would stop behind a leading zero. -/
theorem readWhole?_decimal (n : Nat) {rest : List Char}
    (hRest : ∀ c ∈ rest.head?, c.isDigit = false) :
    Numeral.readWhole? (decimal n ++ rest) = some (decimal n, rest) := by
  have hSpan : spanDigits (decimal n ++ rest) = (decimal n, rest) :=
    spanDigits_append (allDigits_decimal n) hRest
  unfold Numeral.readWhole?
  rw [hSpan]
  by_cases hZero : n = 0
  · subst hZero
    rfl
  -- the first digit is no zero, and so a number may go on behind it
  · obtain ⟨c, cs, hCons, hc⟩ := decimal_head (Nat.pos_of_ne_zero hZero)
    rw [hCons]
    split
    · next hEq => simp at hEq
    · next hEq =>
      simp only [Prod.mk.injEq, List.cons.injEq] at hEq
      exact absurd hEq.1.1 hc
    · next hEq =>
      simp only [Prod.mk.injEq, List.cons.injEq] at hEq
      exact absurd hEq.1.1 hc
    · next hEq =>
      simp only [Prod.mk.injEq] at hEq
      rw [hEq.1, hEq.2]

/-- What ends a value is no part of a numeral, so a number is read to its last
digit. -/
theorem readNumeral?_decimal (n : Nat) {rest : List Char} (hEnd : IsEnd rest) :
    Numeral.read? (decimal n ++ rest) = some (⟨false, decimal n, none, none⟩, rest) := by
  -- what ends a value is neither a point nor the mark of an exponent
  have hMark : ∀ c ∈ rest.head?, c.isDigit = false ∧ c ≠ '.' ∧ c ≠ 'e' ∧ c ≠ 'E' := by
    intro c hc
    have hMem := hEnd c hc
    simp only [List.mem_cons, List.not_mem_nil, or_false] at hMem
    rcases hMem with rfl | rfl | rfl | rfl <;> decide
  have hFraction : Numeral.readFraction? rest = some (none, rest) := by
    unfold Numeral.readFraction?
    split
    · next cs => exact absurd rfl (hMark '.' rfl).2.1
    · rfl
  have hExponent : Numeral.readExponent? rest = some (none, rest) := by
    unfold Numeral.readExponent?
    split
    · next c cs =>
      obtain ⟨-, -, hLower, hUpper⟩ := hMark c rfl
      rw [if_neg (not_or.mpr ⟨hLower, hUpper⟩)]
    · rfl
  obtain ⟨c, cs, hCons⟩ := List.exists_cons_of_ne_nil (decimal_ne_nil n)
  have hMinus : c ≠ '-' :=
    (ne_of_isDigit (allDigits_decimal n c (by rw [hCons]; exact List.mem_cons_self))).1
  have hWhole := readWhole?_decimal n fun c hc => (hMark c hc).1
  rw [hCons, List.cons_append] at hWhole ⊢
  unfold Numeral.read?
  split
  next negative cs' hEq =>
  split at hEq
  · next hSign => exact absurd (List.cons.inj hSign).1 hMinus
  · obtain ⟨rfl, rfl⟩ := Prod.mk.inj hEq
    simp only [hWhole, hFraction, hExponent, Option.bind_eq_bind, Option.bind_some, pure]

theorem reads_natural (n : Nat) :
    Reads (.integer n) (.number ⟨false, decimal n, none, none⟩) := by
  obtain ⟨c, cs, hCons⟩ := List.exists_cons_of_ne_nil (decimal_ne_nil n)
  have hDigit : c.isDigit = true := allDigits_decimal n c (by rw [hCons]; exact List.mem_cons_self)
  -- a digit begins nothing but a number
  have hne : ∀ c', c'.isDigit = false → c ≠ c' := by
    rintro c' hc' rfl
    rw [hDigit] at hc'
    exact Bool.noConfusion hc'
  have hBlank : Node.isJsonBlank c = false := by
    simp [Node.isJsonBlank, hne]
  have hReads : ReadsAs (decimal n) (.number ⟨false, decimal n, none, none⟩) := by
    have hRead := fun rest (hEnd : IsEnd rest) => readNumeral?_decimal n hEnd
    rw [hCons] at hRead ⊢
    refine ReadsAs.of_succ hBlank (hne _ (by decide)) ?_
    intro steps rest hEnd _
    unfold Node.read?
    rw [Node.skip_of_not_blank hBlank]
    split
    · next hEq => exact absurd (List.cons.inj hEq).1 (hne _ (by decide))
    · next hEq => exact absurd (List.cons.inj hEq).1 (hne _ (by decide))
    · next hEq => exact absurd (List.cons.inj hEq).1 (hne _ (by decide))
    · next hEq => exact absurd (List.cons.inj hEq).1 (hne _ (by decide))
    · next hEq => exact absurd (List.cons.inj hEq).1 (hne _ (by decide))
    · next hEq => exact absurd (List.cons.inj hEq).1 (hne _ (by decide))
    · rw [← List.cons_append, hRead rest hEnd]
      rfl
  exact reads_of_chars hReads rfl fun _ => rfl

-- ---------------------------------------------------------------------------
-- Values that hold others
-- ---------------------------------------------------------------------------

/-- An array is read from its items. It takes a step to open it and one for each
item, and its brackets and commas pay for them. -/
theorem reads_array {items : List Json} {nodes : List Node} (h : List.Forall₂ Reads items nodes) :
    Reads (.array items) (.array nodes) := by
  cases h with
  | nil =>
    have hReads : ReadsAs ['[', ']'] (.array []) :=
      ReadsAs.of_succ (by decide) (by decide) fun _ _ _ _ => rfl
    exact reads_of_chars hReads rfl fun _ => rfl
  | @cons item node items nodes hItem hItems =>
    intro layout
    rw [layout.chars_array]
    have hTexts :
        List.Forall₂ ReadsAs ((item :: items).map layout.inner.chars) (node :: nodes) := by
      rw [List.forall₂_map_left_iff]
      exact (List.Forall₂.cons hItem hItems).imp fun _ _ h => h layout.inner
    -- the first item is neither a blank nor the end of the array, so there is one to be read
    obtain ⟨c, cs, hFirst, hBlank, hClose⟩ := (hItem layout.inner).starts
    obtain ⟨more, hMore⟩ := listed_head layout.inner.gap (layout.inner.chars item)
      (items.map layout.inner.chars)
    refine ReadsAs.of_succ (by decide) (by decide) ?_
    intro steps rest _ hSteps
    rw [List.append_assoc, List.append_assoc]
    rw [List.length_append, List.length_append] at hSteps
    have hSkip : Node.skip (listed layout.inner.gap ((item :: items).map layout.inner.chars) ++
        (layout.gap ++ ([']'] ++ rest))) =
        c :: (cs ++ (more ++ (layout.gap ++ ([']'] ++ rest)))) := by
      rw [List.map_cons, hMore, hFirst, List.append_assoc, List.append_assoc,
        Node.skip_append layout.inner.isJsonBlank_gap, List.cons_append]
      exact Node.skip_of_not_blank hBlank _
    refine Node.read?_array hSkip hClose (readItems?_listed layout.inner.isJsonBlank_gap
      (layout.isEnd_gap (by simp) rest) (layout.skip_gap (by decide) rest) hTexts (by simp) ?_)
    rw [List.length_singleton] at hSteps
    omega

/-- Whether a member is read as a key and a node. -/
def ReadsMember (m : String × Json) (n : String × Node) : Prop := m.1 = n.1 ∧ Reads m.2 n.2

/-- An object is read from its members, in the same way. The steps that are
given are enough, because each character costs one at most. -/
theorem reads_object {members : List (String × Json)} {nodes : List (String × Node)}
    (h : List.Forall₂ ReadsMember members nodes) :
    Reads (.object members) (.object (nodes.map fun (key, node) => (some key, node))) := by
  cases h with
  | nil =>
    have hReads : ReadsAs ['{', '}'] (.object []) :=
      ReadsAs.of_succ (by decide) (by decide) fun _ _ _ _ => rfl
    exact reads_of_chars hReads rfl fun _ => rfl
  | @cons m n members nodes hMember hMembers =>
    intro layout
    rw [layout.chars_object]
    have hTexts : List.Forall₂ (fun m n => m.1 = n.1 ∧ ReadsAs m.2 n.2)
        ((m :: members).map fun m => (m.1, layout.inner.chars m.2)) (n :: nodes) := by
      rw [List.forall₂_map_left_iff]
      exact (List.Forall₂.cons hMember hMembers).imp fun _ _ h => ⟨h.1, h.2 layout.inner⟩
    -- the key of the first member is what follows the brace, so the object is not empty
    obtain ⟨more, hMore⟩ := listed_head layout.inner.gap
      (memberChars layout.blanks (m.1, layout.inner.chars m.2))
      ((members.map fun m => (m.1, layout.inner.chars m.2)).map (memberChars layout.blanks))
    refine ReadsAs.of_succ (by decide) (by decide) ?_
    intro steps rest _ hSteps
    rw [List.append_assoc, List.append_assoc]
    rw [List.length_append, List.length_append, List.length_singleton] at hSteps
    have hSkip : Node.skip (listed layout.inner.gap (((m :: members).map fun m =>
        (m.1, layout.inner.chars m.2)).map (memberChars layout.blanks)) ++
          (layout.gap ++ (['}'] ++ rest))) =
        '"' :: (m.1.toList.flatMap escape ++ '"' :: ':' :: (layout.blanks ++
          (layout.inner.chars m.2 ++ (more ++ (layout.gap ++ (['}'] ++ rest)))))) := by
      rw [List.map_cons, List.map_cons, hMore, List.append_assoc, List.append_assoc,
        memberChars_append, Node.skip_append layout.inner.isJsonBlank_gap]
      exact Node.skip_of_not_blank (by decide) _
    refine Node.read?_object hSkip
      (readMembers?_listed layout.inner.isJsonBlank_gap layout.isJsonBlank_blanks
        (layout.isEnd_gap (by simp) rest) (layout.skip_gap (by decide) rest) hTexts (by simp) ?_)
    omega

-- ---------------------------------------------------------------------------
-- Whole texts
-- ---------------------------------------------------------------------------

/-- A text is read as its tree. The number of steps that the reader is given is
enough, as it is taken from the length of the text. -/
theorem parse?_layout {j : Json} {n : Node} (h : Reads j n) (layout : Layout) :
    Node.parse? (String.ofList (layout.chars j)) = some n := by
  have hRead := (h layout).reads (2 * (layout.chars j).length + 2) [] isEnd_nil (by omega)
  rw [List.append_nil] at hRead
  rw [Node.parse?, String.toList_ofList]
  simp only [hRead, Option.bind_eq_bind, Option.bind_some]
  rfl

theorem parse?_pretty {j : Json} {n : Node} (h : Reads j n) : Node.parse? j.pretty = some n :=
  parse?_layout h (.pretty 0)

theorem parse?_compact {j : Json} {n : Node} (h : Reads j n) : Node.parse? j.compact = some n :=
  parse?_layout h .compact

end Json

end HomeLedger
