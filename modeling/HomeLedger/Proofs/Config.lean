import HomeLedger.Proofs.Config.File
import HomeLedger.Proofs.Toml.Report

/-!
# HomeLedger — opening the configuration

A configuration that was opened is opened again as it was. If it was read
from a file, the file is still the same. If there was none, the defaults were
written, and they are what the new file is read as.

A file that cannot be read is told from one that is not there by the words of
the error. These words also hold the path of the file and a report, which
quotes the line that is wrong and may quote a value. All of them are up to the
user. So a file that is wrong in such a line counts as one that is not there,
and is lost.

Main results:

* `ofFile_defaults` — the file of the defaults holds the defaults.
* `loadOrCreate_again` — what was opened once is opened again.
* `saysMissing_malformed` — which errors say that there is no file.
-/

namespace HomeLedger

open Toml

namespace Config

-- ---------------------------------------------------------------------------
-- Opening
-- ---------------------------------------------------------------------------

variable {path : String}

/-- The defaults are a configuration like any other, and so their file is read
as what was written into it. -/
theorem ofFile_defaults : ofFile ({} : Config).toFile = .ok {} := ofFile_toFile {}

/-- What is wrong with a file that cannot be read is told by a report on it.
There is no other error of a file that is there. -/
theorem exists_malformed {file : String} {e : LoadError} (h : ofFile file = .error e) :
    ∃ flaw, e = .malformed (report file flaw) := by
  unfold ofFile at h
  split at h
  · next flaw _ => exact ⟨flaw, (Except.error.inj h).symm⟩
  · split at h
    · simp at h
    · next flaw _ => exact ⟨flaw, (Except.error.inj h).symm⟩

/-- Whether the path of a file, the line of it that is wrong, or what is said
about this line holds the words that say that there is no file. The user has a
say in each of these three. -/
def MentionsMissing (path : String) (r : Report) : Prop :=
  missingText.toList <:+: path.toList ∨ missingText.toList <:+: r.quoted.toList ∨
    missingText.toList <:+: r.words.toList

/-- Whether it does can be looked up, since all three are texts. -/
instance (path : String) (r : Report) : Decidable (MentionsMissing path r) :=
  inferInstanceAs (Decidable (_ ∨ _ ∨ _))

/-- In the text of an error, quotation marks and a colon stand between the path
and the report. -/
theorem toList_message (r : Report) :
    ((LoadError.malformed r).message path).toList =
      "Failed to parse config file ".toList ++ '\'' :: (path.toList ++ '\'' :: ([] ++ ':' ::
        (' ' :: r.text.toList))) := by
  have hOpening : "Failed to parse config file '".toList =
      "Failed to parse config file ".toList ++ ['\''] := by decide
  have hClosing : "': ".toList = ['\'', ':', ' '] := by decide
  show ("Failed to parse config file '" ++ toString path ++ "': " ++ toString r.text).toList = _
  simp only [String.toList_append, toString, hOpening, hClosing, List.append_assoc,
    List.cons_append, List.nil_append]

/-- Such a text says that there is no file if the path, the line that is wrong
or what is said about it says so, and not otherwise. None of the marks between
the parts is in the words that are looked for, so they lie within a part, and
the other parts are the same for all files. -/
theorem saysMissing_malformed {r : Report} :
    (LoadError.malformed r).saysMissing path = true ↔ MentionsMissing path r := by
  have hWords : missingText.toList = 'C' :: "onfig file not found".toList := by decide
  have hFront : ¬missingText.toList <:+: "Failed to parse config file ".toList := by decide
  have hNil : ¬missingText.toList <:+: [] := by decide
  have hQuote : '\'' ∉ missingText.toList := by decide
  have hColon : ':' ∉ missingText.toList := by decide
  have hReport : missingText.toList <:+: ' ' :: r.text.toList ↔
      missingText.toList <:+: r.quoted.toList ∨ missingText.toList <:+: r.words.toList := by
    rw [hWords, List.infix_cons_iff, List.cons_prefix_cons, or_iff_right,
      infix_text_iff (by decide) (by decide) (by decide) (by decide)]
    rintro ⟨hc, -⟩
    exact absurd hc (by decide)
  rw [LoadError.saysMissing, Text.occursIn_iff, toList_message, Text.infix_append_cons_iff hQuote,
    Text.infix_append_cons_iff hQuote, Text.infix_append_cons_iff hColon, hReport]
  simp only [hFront, hNil, false_or, MentionsMissing]

/-- Where there is no file, the defaults are written, and they are what is
opened. -/
theorem loadOrCreate_none :
    loadOrCreate none path = .ok ({}, true, some ({} : Config).toFile) := by
  have hWords : Text.occursIn missingText.toList missingText.toList = true := by decide
  have hMissing : LoadError.missing.saysMissing path = true := hWords
  rw [loadOrCreate, load]
  exact if_pos hMissing

theorem loadOrCreate_of_ok {file : String} {c : Config} (h : ofFile file = .ok c) :
    loadOrCreate (some file) path = .ok (c, false, some file) := by
  rw [loadOrCreate, load, h]

/-- A file that cannot be read is written over just where the error says that
there is none. What was in it is lost then, and the error with it. -/
theorem loadOrCreate_of_error {file : String} {e : LoadError} (h : ofFile file = .error e) :
    loadOrCreate (some file) path =
      if e.saysMissing path then .ok ({}, true, some ({} : Config).toFile) else .error e := by
  rw [loadOrCreate, load, h]

/-- What was opened once is opened again, and its file is not created a second
time. In each of the three cases the file that is left can be read. -/
theorem loadOrCreate_again {file file' : Option String} {c : Config} {created : Bool}
    (h : loadOrCreate file path = .ok (c, created, file')) :
    loadOrCreate file' path = .ok (c, false, file') := by
  unfold loadOrCreate at h
  split at h
  · next hLoad =>
    obtain ⟨rfl, rfl, rfl⟩ := h
    rw [loadOrCreate, hLoad]
  · next e _ =>
    split at h
    · obtain ⟨rfl, rfl, rfl⟩ := h
      exact loadOrCreate_of_ok ofFile_defaults
    · simp at h

end Config

end HomeLedger
