import HomeLedger.Calendar.Pattern.Write
import HomeLedger.Proofs.Calendar.Reading
import HomeLedger.Proofs.Text.Blank
import HomeLedger.Proofs.Text.Digits

/-!
# HomeLedger — trimming does not matter to a pattern that writes dates

A pattern may begin or end with blanks, and what it writes is trimmed before
it is read again. It is read all the same: numbers are read behind any blanks,
a blank of the pattern stands for none as well, and whatever else a pattern
that writes dates may contain neither takes a blank nor asks for one. Zones
are what this is not true of: a zone takes everything up to a blank.

Main results:

* `readItems?_append` — blanks at the end are left over or read as blanks.
* `isPlain_of_writeItems?` — what a pattern that writes dates is made of.
* `read?_trim` — a trimmed text is read as it was before.
-/

namespace HomeLedger

open Text

-- ---------------------------------------------------------------------------
-- Items that write dates
-- ---------------------------------------------------------------------------

/-- Whether an item is a character other than a blank, a blank, a number or a
name. These are the items that writing a date is made of, as is shown below. -/
def PatternItem.IsPlain : PatternItem → Prop
  | .literal c => isBlank c = false
  | .blank _ | .number _ _ | .monthName _ | .weekdayName _ => True
  | .meridiem | .fraction _ _ | .zoneName | .zoneOffset _ | .stamp => False

/-- Whether an item is no blank that stands for itself. The pattern reader makes
an item of its own of such a blank, so that it may stand for none. -/
def PatternItem.isProper : PatternItem → Bool
  | .literal c => !isBlank c
  | _ => true

namespace Pattern

/-- What was read, with more behind the rest. Reading a text with blanks behind
it is compared to reading it without them by way of this. -/
def withBehind {α : Type} (bs : List Char) (found : α × List Char) : α × List Char :=
  (found.1, found.2 ++ bs)

variable {bs : List Char}

-- ---------------------------------------------------------------------------
-- Numbers
-- ---------------------------------------------------------------------------

/-- Blanks behind a text that is not all blank are behind it after trimming,
too. -/
theorem trimStart_append_blank (hbs : AllBlank bs) (cs : List Char) :
    trimStart (cs ++ bs) = if trimStart cs = [] then [] else trimStart cs ++ bs := by
  have hNil : bs.dropWhile isBlank = [] := trimStart_of_allBlank hbs
  show (cs ++ bs).dropWhile isBlank =
    if cs.dropWhile isBlank = [] then [] else cs.dropWhile isBlank ++ bs
  rw [List.dropWhile_append, hNil]
  simp only [List.isEmpty_iff]

/-- Digits end where blanks begin, so that blanks behind a text add no
digits. -/
theorem takeWhile_append_blank (hbs : AllBlank bs) (cs : List Char) :
    (cs ++ bs).takeWhile Char.isDigit = cs.takeWhile Char.isDigit := by
  have hNil : bs.takeWhile Char.isDigit = [] := by
    cases bs with
    | nil => rfl
    | cons b bs =>
      have hb : ¬b.isDigit = true := fun hDigit =>
        ne_of_isBlank (hbs b List.mem_cons_self) (isBlank_of_isDigit hDigit) rfl
      exact List.takeWhile_cons_of_neg hb
  rw [List.takeWhile_append, hNil, List.append_nil]
  split
  · next hLength => exact ((List.takeWhile_prefix _).eq_of_length hLength).symm
  · rfl

/-- A number takes as much from a text with blanks behind it as without, be its
width fixed or not. -/
theorem readNumber?_append (hbs : AllBlank bs) (width : Option Nat) (cs : List Char) :
    readNumber? width (cs ++ bs) = (readNumber? width cs).map (withBehind bs) := by
  -- the digits are the same with and without the blanks, so it is enough to compare what is left
  have hRead : ∀ digits : List Char, digits.length ≤ cs.length →
      (if digits.isEmpty then none
        else if ofDecimal digits < 2 ^ 63 then
          some (ofDecimal digits, (cs ++ bs).drop digits.length)
        else none) =
      (if digits.isEmpty then none
        else if ofDecimal digits < 2 ^ 63 then some (ofDecimal digits, cs.drop digits.length)
        else none).map (withBehind bs) := by
    intro digits hLength
    rw [List.drop_append_of_le_length hLength]
    split
    · rfl
    · split <;> rfl
  cases width with
  | none =>
    rw [readNumber?, readNumber?]
    simp only [takeWhile_append_blank hbs]
    exact hRead _ (List.takeWhile_prefix _).length_le
  | some w =>
    have hGap : AllBlank (bs.take (w - cs.length)) := fun c hc => hbs c (List.mem_of_mem_take hc)
    rw [readNumber?, readNumber?]
    simp only [List.take_append, takeWhile_append_blank hGap]
    exact hRead _ ((List.takeWhile_prefix _).length_le.trans (List.length_take_le' _ _))

theorem readYear?_append (hbs : AllBlank bs) (cs : List Char) :
    readYear? (cs ++ bs) = (readYear? cs).map (withBehind bs) := by
  -- what is made of the number does not change what is left behind it
  have hMap : ∀ (value : Nat → Int) (width : Option Nat) (cs : List Char),
      (readNumber? width (cs ++ bs)).map (fun found => (value found.1, found.2)) =
        ((readNumber? width cs).map fun found => (value found.1, found.2)).map
          (withBehind bs) := by
    intro value width cs
    rw [readNumber?_append hbs, Option.map_map, Option.map_map]
    rfl
  have hUnsigned : ∀ {cs : List Char}, (∀ rest, cs ≠ '-' :: rest) → (∀ rest, cs ≠ '+' :: rest) →
      readYear? cs = (readNumber? (some 4) cs).map fun found => ((found.1 : Int), found.2) := by
    intro cs hMinus hPlus
    unfold readYear?
    split
    · exact absurd rfl (hMinus _)
    · exact absurd rfl (hPlus _)
    · rfl
  -- a sign is looked for at the front, which may be a blank from behind if there is no text
  cases cs with
  | nil =>
    have hSign : ∀ {sign : Char} {rest : List Char}, isBlank sign = false → bs ≠ sign :: rest := by
      rintro sign rest hSign rfl
      exact ne_of_isBlank (hbs sign List.mem_cons_self) hSign rfl
    rw [List.nil_append, hUnsigned (fun _ => hSign (by decide)) (fun _ => hSign (by decide))]
    exact hMap (fun k => k) (some 4) []
  | cons c cs =>
    by_cases hMinus : c = '-'
    · subst hMinus
      exact hMap (fun k => -(k : Int)) none cs
    · by_cases hPlus : c = '+'
      · subst hPlus
        exact hMap (fun k => k) none cs
      · have hne : ∀ {sign : Char}, c ≠ sign → ∀ {cs rest : List Char}, c :: cs ≠ sign :: rest :=
          fun hne _ _ h => hne (List.cons.inj h).1
        rw [List.cons_append, hUnsigned (fun _ => hne hMinus) (fun _ => hne hPlus),
          hUnsigned (fun _ => hne hMinus) (fun _ => hne hPlus)]
        exact hMap (fun k => k) (some 4) (c :: cs)

theorem readValue?_append (hbs : AllBlank bs) (part : NumberPart) (cs : List Char) :
    readValue? part (cs ++ bs) = (readValue? part cs).map (withBehind bs) := by
  unfold readValue?
  split
  · exact readYear?_append hbs cs
  · exact readYear?_append hbs cs
  · rw [readNumber?_append hbs, Option.map_map, Option.map_map]
    rfl

/-- There is no number where nothing is left. A text that is all blank is one
with nothing left, as numbers are read behind blanks. -/
theorem readValue?_nil (part : NumberPart) : readValue? part [] = none := by
  cases part <;> rfl

/-- What is noted of a value does not depend on what is behind it. -/
theorem bind_noted_append {α β : Type} {read read' : Option (α × List Char)}
    (h : read' = read.map (withBehind bs)) (note : α → Option β) (store : β → Fields) :
    read'.bind (noted note store) = (read.bind (noted note store)).map (withBehind bs) := by
  rw [h]
  cases read with
  | none => rfl
  | some found =>
    show (note found.1).bind _ = ((note found.1).bind _).map _
    cases note found.1 <;> rfl

/-- A part is read from a text with blanks behind it as without, as its value
is. -/
theorem readPart?_append (hbs : AllBlank bs) (f : Fields) (part : NumberPart) (cs : List Char) :
    readPart? f part (cs ++ bs) = (readPart? f part cs).map (withBehind bs) := by
  rw [readPart?_eq, readPart?_eq, trimStart_append_blank hbs]
  split
  · next hNil =>
    rw [hNil, readValue?_nil]
    rfl
  · exact bind_noted_append (readValue?_append hbs part _) _ _

-- ---------------------------------------------------------------------------
-- Names
-- ---------------------------------------------------------------------------

theorem dropWord?_cons (w c : Char) (word cs : List Char) : dropWord? (w :: word) (c :: cs) =
    if c.toLower = w.toLower then dropWord? word cs else none := by
  unfold dropWord?
  simp only [List.length_cons, List.take_succ_cons, List.map_cons, List.cons.injEq,
    List.drop_succ_cons]
  by_cases h : c.toLower = w.toLower
  · simp only [h, true_and, if_true]
  · simp only [h, false_and, if_false]

/-- A letter is not found where a blank is. -/
theorem dropWord?_blank {w b : Char} (hw : isBlank w = false) (hb : isBlank b = true)
    (word cs : List Char) : dropWord? (w :: word) (b :: cs) = none := by
  have hne : b.toLower ≠ w.toLower := by
    intro hEq
    have hSame : isBlank b = isBlank w := by rw [← isBlank_toLower b, hEq, isBlank_toLower w]
    rw [hw, hb] at hSame
    exact Bool.false_ne_true hSame.symm
  rw [dropWord?_cons, if_neg hne]

/-- A word without blanks is found as it is where there are blanks behind. The
word ends before them or is not there: it cannot reach into the blanks. -/
theorem dropWord?_append (hbs : AllBlank bs) {word : List Char}
    (hWord : ∀ c ∈ word, isBlank c = false) (cs : List Char) :
    dropWord? word (cs ++ bs) = (dropWord? word cs).map (· ++ bs) := by
  induction word generalizing cs with
  | nil => rfl
  | cons w word ih =>
    have hw : isBlank w = false := hWord w List.mem_cons_self
    cases cs with
    | cons c cs =>
      rw [List.cons_append, dropWord?_cons, dropWord?_cons]
      split
      · exact ih (fun c hc => hWord c (List.mem_cons_of_mem _ hc)) cs
      · rfl
    | nil =>
      show dropWord? (w :: word) bs = none
      cases bs with
      | nil => rfl
      | cons b bs => exact dropWord?_blank hw (hbs b List.mem_cons_self) word bs

/-- Whether names hold no blanks, and each begins with something. -/
def AreWords (names : List String) : Prop :=
  ∀ name ∈ names, name.toList.take 3 ≠ [] ∧ name.toList.all (!isBlank ·) = true

instance (names : List String) : Decidable (AreWords names) := List.decidableBAll _ names

theorem areWords_monthNames : AreWords monthNames := by decide

theorem areWords_weekdayNames : AreWords weekdayNames := by decide

/-- The name that an index stands for has no blanks, nor has what stands in when
there is none. -/
theorem AreWords.letters {names : List String} (h : AreWords names) (i : Nat) :
    ∀ c ∈ (names.getD i "").toList, isBlank c = false := by
  rw [List.getD_eq_getElem?_getD]
  cases hName : names[i]? with
  | none => simp
  | some name =>
    intro c hc
    have hWord := List.all_eq_true.mp (h name (List.mem_of_getElem? hName)).2 c hc
    simpa using hWord

/-- A name takes as much from a text with blanks behind it as without. Long
names are looked for by their first three letters and then by the others, and
either part is a word without blanks. -/
theorem readName?_append (hbs : AllBlank bs) {names : List String} (hNames : AreWords names)
    (long : Bool) (cs : List Char) :
    readName? names long (cs ++ bs) = (readName? names long cs).map (withBehind bs) := by
  unfold readName?
  rw [List.map_findSome?]
  refine congrArg (List.findSome? · _) (funext fun i => ?_)
  have hDrop : ∀ {word : List Char}, (∀ c ∈ word, c ∈ (names.getD i "").toList) → ∀ cs,
      dropWord? word (cs ++ bs) = (dropWord? word cs).map (· ++ bs) := fun hWord =>
    dropWord?_append hbs fun c hc => hNames.letters i c (hWord c hc)
  simp only [Function.comp_apply, hDrop fun _ => List.mem_of_mem_take]
  cases dropWord? ((names.getD i "").toList.take 3) cs with
  | none => rfl
  | some rest =>
    cases long with
    | false => rfl
    | true =>
      simp only [Option.map_some, Option.bind_eq_bind, Option.bind_some, if_true,
        hDrop fun _ => List.mem_of_mem_drop]
      cases dropWord? ((names.getD i "").toList.drop 3) rest <;> rfl

/-- No name begins with a blank, so none is found where one stands. -/
theorem readName?_blank {names : List String} (hNames : AreWords names) (long : Bool) {b : Char}
    (hb : isBlank b = true) (cs : List Char) : readName? names long (b :: cs) = none := by
  unfold readName?
  refine List.findSome?_eq_none_iff.mpr fun i hi => ?_
  have hName : names.getD i "" ∈ names := by
    rw [List.getD_eq_getElem?_getD, List.getElem?_eq_getElem (List.mem_range.mp hi)]
    exact List.getElem_mem _
  obtain ⟨w, word, hWord⟩ := List.exists_cons_of_ne_nil (hNames _ hName).1
  have hw : isBlank w = false :=
    hNames.letters i w (List.mem_of_mem_take (by rw [hWord]; exact List.mem_cons_self))
  simp only [hWord, dropWord?_blank hw hb, Option.bind_eq_bind, Option.bind_none]

-- ---------------------------------------------------------------------------
-- Items
-- ---------------------------------------------------------------------------

/-- A character that is no blank is found in front of blanks as it was. -/
theorem readLiteral?_append (hbs : AllBlank bs) {c : Char} (hc : isBlank c = false)
    (cs : List Char) : readLiteral? c (cs ++ bs) = (readLiteral? c cs).map (· ++ bs) := by
  cases cs with
  | cons c' cs =>
    rw [List.cons_append, readLiteral?, readLiteral?]
    split <;> rfl
  | nil =>
    cases bs with
    | nil => rfl
    | cons b bs => exact if_neg (ne_of_isBlank (hbs b List.mem_cons_self) hc).symm

/-- Blanks behind a text are left by an item, unless it takes blanks only. Then
some of them may be gone, so that what is left is blank but not known to be the
same. -/
theorem readItem?_append (hbs : AllBlank bs) {item : PatternItem} (hItem : item.IsPlain)
    (f : Fields) (cs : List Char) : ∃ bs', AllBlank bs' ∧
      readItem? f (cs ++ bs) item = (readItem? f cs item).map (withBehind bs') := by
  cases item with
  | literal c =>
    refine ⟨bs, hbs, ?_⟩
    rw [readItem?, readLiteral?_append hbs hItem, Option.map_map, readItem?, Option.map_map]
    rfl
  | blank c =>
    have hBlank : readItem? f (cs ++ bs) (.blank c) = some (f, trimStart (cs ++ bs)) := rfl
    rw [hBlank, trimStart_append_blank hbs]
    split
    · next hNil =>
      refine ⟨[], fun _ h => absurd h List.not_mem_nil, ?_⟩
      rw [readItem?, hNil]
      rfl
    · exact ⟨bs, hbs, rfl⟩
  | number part padding => exact ⟨bs, hbs, readPart?_append hbs f part cs⟩
  | monthName long =>
    rw [readItem?_monthName, readItem?_monthName]
    exact ⟨bs, hbs, bind_noted_append (readName?_append hbs areWords_monthNames long cs) _ _⟩
  | weekdayName long =>
    rw [readItem?_weekdayName, readItem?_weekdayName]
    exact ⟨bs, hbs, bind_noted_append (readName?_append hbs areWords_weekdayNames long cs) _ _⟩
  | _ => exact hItem.elim

/-- Blanks at the end of a text are left over in the end, some of them perhaps
read as blanks of the pattern. That is enough, because a text is read if nothing
but blanks is left. -/
theorem readItems?_append (hbs : AllBlank bs) {items : List PatternItem}
    (hItems : ∀ item ∈ items, item.IsPlain) (f : Fields) (cs : List Char) :
    ∃ bs', AllBlank bs' ∧
      readItems? f (cs ++ bs) items = (readItems? f cs items).map (withBehind bs') := by
  induction items generalizing bs f cs with
  | nil => exact ⟨bs, hbs, rfl⟩
  | cons item items ih =>
    obtain ⟨hItem, hRest⟩ := List.forall_mem_cons.mp hItems
    obtain ⟨bs', hbs', hRead⟩ := readItem?_append hbs hItem f cs
    rw [readItems?, hRead, readItems?]
    cases readItem? f cs item with
    | none => exact ⟨bs', hbs', rfl⟩
    | some found => exact ih hbs' hRest found.1 found.2

/-- An item that does not begin with blanks finds none. Numbers pass over blanks
by themselves, and all others would not be found behind them. -/
theorem readItem?_trimStart {item : PatternItem} (hItem : item.IsPlain) {f f' : Fields}
    {cs rest : List Char} (h : readItem? f cs item = some (f', rest)) :
    readItem? f (trimStart cs) item = some (f', rest) := by
  have hTwice : trimStart (trimStart cs) = trimStart cs := trimStart_eq_self (head_trimStart cs)
  -- an item that does not pass over blanks has read none, so there were none in front
  have hFirst : (∀ b tail, cs = b :: tail → isBlank b = true → readItem? f cs item = none) →
      readItem? f (trimStart cs) item = some (f', rest) := by
    intro hNone
    rwa [trimStart_eq_self fun b hb => ?_]
    obtain ⟨tail, rfl⟩ := List.head?_eq_some_iff.mp hb
    by_contra hBlank
    rw [hNone b tail rfl (by simpa using hBlank)] at h
    simp at h
  cases item with
  | literal c =>
    refine hFirst ?_
    rintro b tail rfl hb
    rw [readItem?, readLiteral?, if_neg (ne_of_isBlank hb hItem).symm]
    rfl
  | blank c =>
    rw [← h, readItem?, hTwice]
    rfl
  | number part padding =>
    rw [← h, readItem?, readPart?_eq, hTwice, readItem?, readPart?_eq]
  | monthName long =>
    refine hFirst ?_
    rintro b tail rfl hb
    rw [readItem?, readName?_blank areWords_monthNames long hb]
    rfl
  | weekdayName long =>
    refine hFirst ?_
    rintro b tail rfl hb
    rw [readItem?, readName?_blank areWords_weekdayNames long hb]
    rfl
  | _ => exact hItem.elim

/-- A text that is read to its end is read so without the blanks around it.
Those in front are what no item asks for, and those behind are what no item
leaves. -/
theorem readItems?_trim {items : List PatternItem} (hItems : ∀ item ∈ items, item.IsPlain)
    {f f' : Fields} {cs : List Char} (h : readItems? f cs items = some (f', [])) :
    readItems? f (trim cs) items = some (f', []) := by
  have hStart : readItems? f (trimStart cs) items = some (f', []) := by
    cases items with
    | nil =>
      obtain ⟨rfl, rfl⟩ := Prod.mk.inj (Option.some.inj h)
      rfl
    | cons item items =>
      rw [readItems?] at h ⊢
      obtain ⟨⟨f'', rest⟩, hRead, hRest⟩ := Option.bind_eq_some_iff.mp h
      rw [readItem?_trimStart (hItems item List.mem_cons_self) hRead]
      exact hRest
  obtain ⟨behind, hBehind, hcs⟩ := exists_trimEnd (trimStart cs)
  obtain ⟨behind', -, hRead⟩ := readItems?_append hBehind hItems f (trim cs)
  have hWhole : trim cs ++ behind = trimStart cs := hcs.symm
  rw [hWhole, hStart] at hRead
  obtain ⟨⟨f'', rest⟩, hTrim, hFound⟩ := Option.map_eq_some_iff.mp hRead.symm
  obtain ⟨rfl, hRest⟩ := Prod.mk.inj hFound
  have hNil : rest = [] := (List.append_eq_nil_iff.mp hRest).1
  rw [hTrim, hNil]

-- ---------------------------------------------------------------------------
-- Patterns
-- ---------------------------------------------------------------------------

/-- What a letter of a pattern stands for holds no blank that stands for itself,
whether it is one item or several. -/
theorem isProper_of_specifier? {c : Char} {items : List PatternItem}
    (h : specifier? c = some items) : items.all (·.isProper) = true := by
  unfold specifier? at h
  split at h <;> first
    | cases h; rfl
    | simp at h

theorem isProper_of_repad? {padding : Padding} {c : Char} {items : List PatternItem}
    (h : repad? padding c = some items) : items.all (·.isProper) = true := by
  unfold repad? at h
  split at h
  · cases h; rfl
  · simp at h

/-- A blank of a pattern never stands for itself. Blanks are gathered into an
item of their own, which may stand for none. -/
theorem isProper_of_items? {pattern : List Char} {items : List PatternItem}
    (h : items? pattern = some items) : items.all (·.isProper) = true := by
  have hAppend : ∀ (first : List PatternItem) {rest : List PatternItem},
      first.all (·.isProper) = true → rest.all (·.isProper) = true →
        (first ++ rest).all (·.isProper) = true := by
    intro first rest hFirst hRest
    rw [List.all_append, hFirst, hRest]
    rfl
  fun_induction items? pattern generalizing items
  case case1 =>
    cases h
    rfl
  case case14 => simp at h
  all_goals
    simp only [Option.bind_eq_bind, Option.bind_eq_some_iff, pure, Option.some.injEq] at h
  -- specifiers in front
  case case2 ih | case3 ih | case4 ih =>
    obtain ⟨first, hFirst, rest, hRest, rfl⟩ := h
    exact hAppend first (isProper_of_repad? hFirst) (ih hRest)
  case case12 ih | case13 ih =>
    obtain ⟨first, hFirst, rest, hRest, rfl⟩ := h
    exact hAppend first (isProper_of_specifier? hFirst) (ih hRest)
  -- one item of a fraction or a zone in front
  case case5 ih | case6 ih | case7 ih | case8 ih | case9 ih | case11 ih =>
    obtain ⟨rest, hRest, rfl⟩ := h
    exact hAppend [_] rfl (ih hRest)
  case case10 ih =>
    obtain ⟨n, hn, rest, hRest, rfl⟩ := h
    exact hAppend [_] rfl (ih hRest)
  case case15 c cs _ _ _ _ _ _ _ _ _ _ _ _ ih =>
    obtain ⟨rest, hRest, rfl⟩ := h
    refine hAppend [_] ?_ (ih hRest)
    by_cases hc : isBlank c = true <;> simp [hc, PatternItem.isProper]

/-- A pattern that writes dates has plain items only. A time, a zone or a
fraction has nothing to be written from, so that writing a date fails with
it. -/
theorem isPlain_of_writeItems? {d : Date} {items : List PatternItem} {out : List Char}
    (hProper : items.all (·.isProper) = true) (h : d.writeItems? items = some out) :
    ∀ item ∈ items, item.IsPlain := by
  induction items generalizing out with
  | nil => exact fun _ hMem => absurd hMem List.not_mem_nil
  | cons item items ih =>
    obtain ⟨hItem, hRest⟩ := Bool.and_eq_true_iff.mp (List.all_cons.symm.trans hProper)
    obtain ⟨text, hText, h⟩ := Option.bind_eq_some_iff.mp h
    obtain ⟨out', hOut, -⟩ := Option.bind_eq_some_iff.mp h
    refine List.forall_mem_cons.mpr ⟨?_, ih hRest hOut⟩
    cases item with
    | literal c => exact (Bool.not_eq_true' _).mp hItem
    | blank | number | monthName | weekdayName => exact trivial
    | meridiem | fraction | zoneName | zoneOffset | stamp => simp [Date.itemText?] at hText

/-- A text that is read by a pattern which writes dates is read without the
blanks around it. -/
theorem read?_trim {d : Date} {pattern : String} {out : List Char}
    (hWrite : d.write? pattern = some out) {cs : List Char} {f : Fields}
    (h : read? pattern cs = some f) : read? pattern (trim cs) = some f := by
  obtain ⟨items, hItems, hOut⟩ := Option.bind_eq_some_iff.mp hWrite
  have hPlain := isPlain_of_writeItems? (isProper_of_items? hItems) hOut
  rw [read?, hItems, Option.bind_eq_bind, Option.bind_some] at h ⊢
  obtain ⟨⟨f', rest⟩, hRead, hEnd⟩ := Option.bind_eq_some_iff.mp h
  cases rest with
  | cons c rest => simp at hEnd
  | nil =>
    obtain rfl := Option.some.inj hEnd
    rw [readItems?_trim hPlain hRead]
    rfl

end Pattern

end HomeLedger
