import HomeLedger.Proofs.Command.Format
import HomeLedger.Proofs.Token.First

/-!
# HomeLedger — what is displayed without quotes

A parameter is displayed as the tokens that it stands for, with its value as
the user writes it. Most values are put in quotes where they need them. Three
texts are not: the name of a flag, an amount and a date. These are as they
should be only if nothing in them is special in a line, and for an amount and
a date that is up to the user, who chooses the symbol of the currency, the
separator and the pattern of dates.

Main results:

* `shortDate_ne_empty` — a date is always displayed as something.
* `plain_shown_iff` — the marks that leave an amount one token.
* `isDisplayable_default` — under the default formatting only names matter.
* `tokenize_display` — a parameter of a line is displayed as its tokens just
  if it is displayable in this sense.
* `euros_displayed_apart` — an amount that is displayed as two tokens.
-/

namespace HomeLedger

open Text

-- ---------------------------------------------------------------------------
-- Nothing is no date
-- ---------------------------------------------------------------------------

namespace Pattern

/-- No number is read from nothing, for at least one digit is asked for. -/
theorem readNumber?_nil (width : Option Nat) : readNumber? width [] = none := by
  cases width <;> simp [readNumber?]

/-- Nor is a part of a date or of a time that is written as a number. -/
theorem readPart?_nil (f : Fields) (part : NumberPart) : readPart? f part [] = none := by
  have hTrim : trimStart [] = [] := rfl
  cases part <;> simp [readPart?, hTrim, readYear?, readNumber?_nil]

/-- An item that is read from nothing tells nothing. The only ones are blanks
and texts without characters, and these set no field. -/
theorem readItem?_nil {f f' : Fields} {item : PatternItem} {rest : List Char}
    (h : readItem? f [] item = some (f', rest)) : f = f' ∧ [] = rest := by
  have hTrim : trimStart [] = [] := rfl
  have hMonth : ∀ long, readName? monthNames long [] = none := by decide
  have hWeekday : ∀ long, readName? weekdayNames long [] = none := by decide
  cases item with
  | literal c => simp [readItem?, readLiteral?] at h
  | blank c => simpa [readItem?, hTrim] using h
  | number part padding => simp [readItem?, readPart?_nil] at h
  | monthName long => simp [readItem?, hMonth] at h
  | weekdayName long => simp [readItem?, hWeekday] at h
  | meridiem => simp [readItem?, readMeridiem?] at h
  | fraction point digits =>
    cases point with
    | true => simpa [readItem?, readFractionPart?] using h
    | false =>
      cases digits <;>
        simp [readItem?, readFractionPart?, readFixedFraction?, readFraction?, readNumber?_nil] at h
  | zoneName => simpa [readItem?] using h
  | zoneOffset lenient => simp [readItem?, hTrim, readOffset?] at h
  | stamp => simp [readItem?, readStamp?, readIsoDate?, readPart?_nil] at h

theorem readItems?_nil {f f' : Fields} {items : List PatternItem} {rest : List Char}
    (h : readItems? f [] items = some (f', rest)) : f = f' := by
  induction items with
  | nil => exact (Prod.mk.inj (Option.some.inj h)).1
  | cons item items ih =>
    rw [readItems?] at h
    obtain ⟨⟨g, cs⟩, hItem, h⟩ := Option.bind_eq_some_iff.mp h
    obtain ⟨rfl, rfl⟩ := readItem?_nil hItem
    exact ih h

theorem read?_nil {pattern : String} {f : Fields} (h : read? pattern [] = some f) : f = {} := by
  obtain ⟨items, -, h⟩ := Option.bind_eq_some_iff.mp h
  obtain ⟨⟨g, rest⟩, hRead, h⟩ := Option.bind_eq_some_iff.mp h
  obtain rfl := readItems?_nil hRead
  cases rest with
  | nil => exact (Option.some.inj h).symm
  | cons c cs => cases h

end Pattern

/-- No pattern reads a date from nothing. With no field set there is no year,
and no date can be made. -/
theorem Date.read?_nil (pattern : String) : Date.read? pattern [] = none := by
  cases hRead : Pattern.read? pattern [] with
  | none =>
    rw [Date.read?, hRead]
    rfl
  | some f =>
    obtain rfl := Pattern.read?_nil hRead
    rw [Date.read?, hRead]
    rfl

namespace Formatting

/-- A date is displayed as something, for it has to be read again. A pattern
that writes nothing, such as the empty one, gives way to the ISO form. -/
theorem shortDate_ne_empty (f : Formatting) (d : Date) : f.shortDate d ≠ "" := by
  have hIso : d.isoText ≠ "" := by
    intro hEmpty
    have hList := Pattern.isoText_append d []
    rw [hEmpty] at hList
    simp at hList
  unfold shortDate
  split
  · next out hOut =>
    split
    · next hRead =>
      intro hEmpty
      have hNil : out = [] := by simpa using congrArg String.toList hEmpty
      rw [hNil, Date.read?_nil] at hRead
      cases hRead
    · exact hIso
  · exact hIso

-- ---------------------------------------------------------------------------
-- Amounts in one token
-- ---------------------------------------------------------------------------

end Formatting

/-- Whether nothing in a text is special in a line. -/
abbrev IsPlain (text : String) : Prop := ∀ c ∈ text.toList, isSpecial c = false

namespace Formatting

/-- The marks that leave an amount without special characters: the symbol has
none, and the separator has none if it is needed. -/
theorem plain_shown_iff {f : Formatting} {d : Decimal} :
    (∀ c ∈ f.shown d, isSpecial c = false) ↔ IsPlain f.currencySymbol ∧
      (d.wholeDigits.length ≤ 3 ∨ IsPlain f.groupingSeparator) := by
  constructor
  · intro h
    refine ⟨fun c hc => h c ?_, ?_⟩
    · simp [shown, shownWith, hc]
    -- a number of more than three digits has the separator in it
    · refine or_iff_not_imp_left.mpr fun hLong c hc => h c ?_
      obtain ⟨front, rest, hGrouped, -⟩ :=
        exists_grouped f.groupingSeparator.toList (Nat.lt_of_not_le hLong)
      simp [shown, shownWith, hGrouped, hc]
  · rintro ⟨hSymbol, hSeparator⟩
    have hPlain : ∀ separator : List Char, (∀ c ∈ separator, isSpecial c = false) →
        ∀ c ∈ f.shownWith f.currencySymbol.toList separator d, isSpecial c = false := by
      intro separator hSeparator c hc
      rcases mem_shownWith hc with hDigit | rfl | rfl | hMem | hMem
      · exact isSpecial_of_isDigit hDigit
      · decide
      · decide
      · exact hSymbol c hMem
      · exact hSeparator c hMem
    -- up to three digits there is no group, and any separator will do
    rcases hSeparator with hShort | hSeparator
    · have hShown : f.shown d = f.shownWith f.currencySymbol.toList [] d := by
        rw [shown, shownWith, shownWith, grouped_of_length_le hShort, grouped_of_length_le hShort]
      rw [hShown]
      exact hPlain [] (List.forall_mem_nil _)
    · exact hPlain _ hSeparator

/-- The one way in which an amount is not displayed is that there is no space
for its digits. -/
theorem currency_eq_error {f : Formatting} {a : Decimal} {fault : Fault}
    (h : f.currency a = .error fault) : fault = .displayOverflow := by
  unfold currency at h
  simp only at h
  split at h
  · exact (Except.error.inj h).symm
  · cases h

/-- An amount that is displayed is one token just if its marks have nothing
special. Its own characters are digits, a point and a sign, and these never
are. -/
theorem tokenize_currency_iff {f : Formatting} {a : Decimal} {text : String}
    (h : f.currency a = .ok text) : tokenize text = [text] ↔ IsPlain f.currencySymbol ∧
      ((a.round f.places).wholeDigits.length ≤ 3 ∨ IsPlain f.groupingSeparator) := by
  obtain ⟨-, rfl⟩ := currency_eq_ok.mp h
  have hne : String.ofList (f.shown (a.round f.places)) ≠ "" := by
    intro hEmpty
    have hList := congrArg String.toList hEmpty
    rw [String.toList_ofList, shown, shownWith] at hList
    have hWhole := (List.append_eq_nil_iff.mp (List.append_eq_nil_iff.mp hList).2).1
    have hHead := head?_grouped f.groupingSeparator.toList (a.round f.places).wholeDigits
    rw [hWhole] at hHead
    exact decimal_ne_nil _ (List.head?_eq_none_iff.mp hHead.symm)
  rw [tokenize_eq_singleton_iff, and_iff_right hne, String.toList_ofList, plain_shown_iff]

end Formatting

-- ---------------------------------------------------------------------------
-- Parameters
-- ---------------------------------------------------------------------------

namespace Parameter

variable {f : Formatting} {today : Date}

/-- The value as the user is to read it, without the marks that make it a token.
Amounts and dates are formatted, and all else is shown as it was typed. -/
def shownValue (f : Formatting) (p : Parameter) : Except Fault String :=
  match p.value with
  | .amount d => f.currency d
  | .date d => .ok (f.shortDate d)
  | _ => .ok p.raw

/-- Whether what is displayed without quotes needs none: the name of a flag,
the marks of an amount and the text of a date. -/
structure IsDisplayable (f : Formatting) (p : Parameter) : Prop where
  name : p.place = .longFlag ∨ p.place = .shortFlag → IsPlain p.name
  amount : ∀ d, p.value = .amount d → IsPlain f.currencySymbol ∧
    ((d.round f.places).wholeDigits.length ≤ 3 ∨ IsPlain f.groupingSeparator)
  date : ∀ d, p.value = .date d → IsPlain (f.shortDate d)

/-- The tokens that a parameter stands for when its value is written in another
way. What is displayed has to be read as these. -/
def tokensWith (p : Parameter) (value : String) : List String := { p with raw := value }.tokens

/-- Whether a parameter is displayed as the tokens that it stands for, just if
it is displayable, unless it is an amount that there is no space for. -/
def DisplayedAsTokens (f : Formatting) (p : Parameter) : Prop :=
  (∃ d, p.value = .amount d ∧ f.currency d = .error .displayOverflow ∧
    p.display f = .error .displayOverflow) ∨
  ∃ value text, p.shownValue f = .ok value ∧ p.display f = .ok text ∧
    (tokenize text = p.tokensWith value ↔ p.IsDisplayable f)

/-- Of a parameter that is neither an amount nor a date, only the name is
displayed without quotes, and only if it is a flag or a switch. -/
theorem isDisplayable_iff_name {p : Parameter} (hAmount : ∀ d, p.value ≠ .amount d)
    (hDate : ∀ d, p.value ≠ .date d) : p.IsDisplayable f ↔
      (p.place = .longFlag ∨ p.place = .shortFlag → IsPlain p.name) :=
  ⟨fun h => h.name, fun h => ⟨h, fun d hd => absurd hd (hAmount d), fun d hd =>
    absurd hd (hDate d)⟩⟩

/-- What fills a slot is displayed without quotes if it is an amount or a date.
These are the two cases in which the formatting decides. In all other ones the
value is put in quotes where it needs them. -/
theorem displayedAsTokens_of_required {p : Parameter} (hPlace : p.place = .required)
    (hne : p.raw ≠ "") : p.DisplayedAsTokens f := by
  obtain ⟨name, value, raw, isRequired, place⟩ := p
  obtain rfl : place = .required := hPlace
  have hQuoted : tokenize (quote raw) = [raw] := tokenize_of_wording (wording_quote hne)
  cases value with
  | amount d =>
    cases hCurrency : f.currency d with
    | error fault =>
      obtain rfl := Formatting.currency_eq_error hCurrency
      refine .inl ⟨d, rfl, hCurrency, ?_⟩
      show f.currency d >>= _ = _
      rw [hCurrency]
      rfl
    | ok text =>
      refine .inr ⟨text, text, hCurrency, display_required rfl hCurrency, ?_⟩
      show tokenize text = [text] ↔ _
      rw [Formatting.tokenize_currency_iff hCurrency]
      -- the other two conditions are not about an amount
      refine ⟨fun h => ⟨by simp, fun d' hd' => ?_, by simp⟩, fun h => h.amount d rfl⟩
      obtain rfl := Value.amount.inj hd'
      exact h
  | date d =>
    refine .inr ⟨f.shortDate d, f.shortDate d, rfl, rfl, ?_⟩
    show tokenize (f.shortDate d) = [f.shortDate d] ↔ _
    rw [tokenize_eq_singleton_iff, and_iff_right (f.shortDate_ne_empty d)]
    refine ⟨fun h => ⟨by simp, by simp, fun d' hd' => ?_⟩, fun h => h.date d rfl⟩
    obtain rfl := Value.date.inj hd'
    exact h
  | _ =>
    refine .inr ⟨raw, quote raw, rfl, rfl, iff_of_true hQuoted ?_⟩
    exact (isDisplayable_iff_name (by simp) (by simp)).mpr (by simp)

/-- A flag or a switch is displayed without quotes around its name, and what
stands on its own in quotes where it needs them. The formatting has no part in
this, since none of these is an amount or a date. -/
theorem displayedAsTokens_of_extra {tokens : List String} {p : Parameter} (h : Extra tokens p)
    (hne : ∀ token ∈ tokens, token ≠ "") : p.DisplayedAsTokens f := by
  have hShort : "-" ≠ "" ∧ IsPlain "-" := ⟨by decide, plain_of_all (by decide)⟩
  have hLong : "--" ≠ "" ∧ IsPlain "--" := ⟨by decide, plain_of_all (by decide)⟩
  have hDisplayable : p.IsDisplayable f ↔
      (p.place = .longFlag ∨ p.place = .shortFlag → IsPlain p.name) := by
    refine isDisplayable_iff_name (fun d hd => ?_) fun d hd => ?_ <;> cases h <;> cases hd
  refine .inr ?_
  rw [hDisplayable]
  cases h with
  | switch place name hPlace =>
    -- a mark with a name is one text, which is the token just if nothing in the name is special
    rcases hPlace with rfl | rfl
    · refine ⟨"true", "--" ++ name, rfl, rfl, ?_⟩
      show tokenize ("--" ++ name) = ["--" ++ name] ↔ _
      rw [tokenize_mark_iff hLong.1 hLong.2]
      exact ⟨fun hName _ => hName, fun hName => hName (.inl rfl)⟩
    · refine ⟨"true", "-" ++ name, rfl, rfl, ?_⟩
      show tokenize ("-" ++ name) = ["-" ++ name] ↔ _
      rw [tokenize_mark_iff hShort.1 hShort.2]
      exact ⟨fun hName _ => hName, fun hName => hName (.inr rfl)⟩
  | flag name value hValue =>
    refine ⟨value, "--" ++ name ++ " " ++ quote value, rfl, rfl, ?_⟩
    show tokenize ("--" ++ name ++ " " ++ quote value) = ["--" ++ name, value] ↔ _
    rw [tokenize_marked_iff hLong.1 hLong.2 (wording_quote (hne value hValue))]
    exact ⟨fun hName _ => hName, fun hName => hName (.inl rfl)⟩
  | bare number token hToken =>
    have hPlace : ¬((bare number token).place = .longFlag ∨
        (bare number token).place = .shortFlag) := by
      simp [bare, placed]
    refine ⟨token, quote token, rfl, rfl, iff_of_true ?_ fun hFlag => absurd hFlag hPlace⟩
    exact tokenize_of_wording (wording_quote (hne token hToken))

/-- Under the default formatting only a name can be in the way. Neither the
symbol and the separator nor a date have anything special. -/
theorem isDisplayable_default {p : Parameter}
    (hName : p.place = .longFlag ∨ p.place = .shortFlag → IsPlain p.name) :
    p.IsDisplayable {} where
  name := hName
  amount := fun _ _ => ⟨plain_of_all (by decide), .inr (plain_of_all (by decide))⟩
  date := fun d _ =>
    (tokenize_eq_singleton_iff.mp (tokenize_of_wording (Formatting.wording_shortDate d))).2

end Parameter

-- ---------------------------------------------------------------------------
-- Commands
-- ---------------------------------------------------------------------------

namespace Command

variable {f : Formatting} {today : Date}

/-- Each parameter of a line is displayed, unless it is an amount that there is
no space for, and the text is read as the tokens that it stands for, with its
value as the user writes it, just if it is displayable: if it is a flag or a
switch its name has nothing special in it, if it is an amount neither has the
symbol, nor has the separator where it is needed, and if it is a date its text
has not. -/
theorem tokenize_display {line : String} {c : Command} (h : Command.read f today line = .ok c) :
    ∀ p ∈ c.parameters,
      (∃ d, p.value = .amount d ∧ f.currency d = .error .displayOverflow ∧
        p.display f = .error .displayOverflow) ∨
      ∃ value text, p.shownValue f = .ok value ∧ p.display f = .ok text ∧
        (tokenize text = p.tokensWith value ↔ p.IsDisplayable f) := by
  obtain ⟨subject, action, tokens, hTokens, -, -, -, -, hParameters⟩ := read_eq_ok h
  have hne : ∀ token ∈ tokens, token ≠ "" := by
    intro token hToken
    have hMem : token ∈ tokenize (Text.trimmed line) := by
      rw [hTokens]
      exact List.mem_cons_of_mem _ (List.mem_cons_of_mem _ hToken)
    exact ne_empty_of_mem_tokenize hMem
  intro p hp
  rw [hParameters] at hp
  rcases List.mem_append.mp hp with hSlot | hExtra
  · rw [← List.map_uncurry_zip_eq_zipWith] at hSlot
    obtain ⟨⟨kind, token⟩, hMem, rfl⟩ := List.mem_map.mp hSlot
    exact Parameter.displayedAsTokens_of_required rfl (hne token (List.of_mem_zip hMem).2)
  · exact Parameter.displayedAsTokens_of_extra (Parameter.extra_of_mem_ofExtras p hExtra)
      fun token hToken => hne token (List.mem_of_mem_drop hToken)

/-- A line with an amount, a note of two words and a switch: one parameter for
each way in which a value is displayed. -/
def giftLine : String := "account credit 1234.56 --note \"two words\" -x"

/-- The parameters of it, with the amount as a value and the others as texts. -/
def giftParameters : List Parameter :=
  [.placed .required "amount" (.amount ((Decimal.read "1234.56".toList).getD .zero)) "1234.56",
    .flag "note" "two words", .switch .shortFlag "x"]

/-- Each of them is displayed as its tokens, under the default formatting and
with the note in quotes. -/
theorem giftLine_displayed : ∃ c, Command.read {} ticketDay giftLine = .ok c ∧
    c.parameters = giftParameters ∧
      ∀ p ∈ c.parameters, ∃ value text, p.shownValue {} = .ok value ∧
        p.display {} = .ok text ∧ tokenize text = p.tokensWith value := by
  have hMap : (Command.read {} ticketDay giftLine).map (·.parameters) = .ok giftParameters := by
    decide +kernel
  obtain ⟨c, hRead, hParameters⟩ := exists_of_map_eq_ok hMap
  have hNames : ∀ p ∈ giftParameters, p.name.toList.all (!isSpecial ·) = true := by decide
  refine ⟨c, hRead, hParameters, fun p hp => ?_⟩
  rcases tokenize_display hRead p hp with ⟨d, -, hCurrency, -⟩ | ⟨value, text, hValue, hText, hIff⟩
  · rw [Formatting.currency_default] at hCurrency
    cases hCurrency
  · have hDisplayable : p.IsDisplayable {} :=
      Parameter.isDisplayable_default fun _ => plain_of_all (hNames p (hParameters ▸ hp))
    exact ⟨value, text, hValue, hText, hIff.mpr hDisplayable⟩

/-- With blanks between groups, the amount in the slot is displayed as two
tokens. The digits of the thousands are then read as the whole amount. -/
theorem euros_displayed_apart : ∃ c, Command.read Formatting.euros ticketDay giftLine = .ok c ∧
    ∃ p ∈ c.parameters, p.place = .required ∧
      ∃ text, p.display Formatting.euros = .ok text ∧ tokenize text = ["€1", "234.56"] := by
  have hMap : (Command.read Formatting.euros ticketDay giftLine).map (·.parameters) =
      .ok giftParameters := by
    decide +kernel
  obtain ⟨c, hRead, hParameters⟩ := exists_of_map_eq_ok hMap
  have hMem : giftParameters[0] ∈ c.parameters := by
    rw [hParameters]
    exact List.getElem_mem _
  exact ⟨c, hRead, _, hMem, rfl, "€1 234.56", by decide, by decide⟩

end Command

end HomeLedger
