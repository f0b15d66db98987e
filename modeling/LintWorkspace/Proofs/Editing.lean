/-
# What setting an action does

`setSeverity` reads a document, sets the action of a code in it and writes it back.  What the
resolver reads there before and after is exactly this (`setSeverity_exact`):

| the document | the edit |
| --- | --- |
| is not laid out strictly | fails, `malformed` |
| no rule that is a table has the code | fails, `noRule` |
| some rule that is a table has the code | sets the action of all of these, and of no other rule |

Each rule is a table or not (`length_tables`), so none gets lost in the last case.

The resolver accepts more than the editor sees.  A rule that is a list of two words keeps its
action and goes unnoticed, and a document with an inline table over several lines cannot be
edited: `not_setsExactly`.
-/

import LintWorkspace.Proofs.Addressed
import LintWorkspace.Proofs.Parts
import LintWorkspace.Proofs.Regrade
import LintWorkspace.Proofs.Tree

namespace LintWorkspace

/-! ### Writing over a file -/

namespace Disk

variable {d : Disk} {p : Path} {text : String}

/-- The disk with another text in the file at a path. -/
def overwrite (d : Disk) (p : Path) (s : String) : Disk :=
  d.put (p.normalize d.cwd) (.file s.toUTF8)

/-- Only the last text stays. -/
theorem overwrite_overwrite (d : Disk) (p : Path) (s s' : String) :
    (d.overwrite p s).overwrite p s' = d.overwrite p s' := by
  have hcwd : (d.overwrite p s).cwd = d.cwd := rfl
  rw [overwrite, hcwd, overwrite, overwrite, put, put, put]
  simp [List.filter_filter]

/-- **A file that can be read can be written over.** -/
theorem Tree.writeFile_eq (h : d.Tree) (htext : d.readText p = .ok text) (s : String) :
    d.writeFile p s.toUTF8 = .ok (d.overwrite p s) := by
  obtain ⟨old, hlocate, hentry, -⟩ := exists_file_of_readText htext
  rw [Disk.writeFile_eq hlocate, if_neg (by simp [hentry]), h.parent _ (by simp [hentry])]
  rfl

/-- A file that was written over is read as what was written. -/
theorem Tree.readText_overwrite (h : d.Tree) (htext : d.readText p = .ok text) (s : String) :
    (d.overwrite p s).readText p = .ok s := by
  obtain ⟨hedit, hover, hnew⟩ := overwritten_of_writeFile htext (h.writeFile_eq htext s)
  obtain ⟨old, hlocate, -⟩ := exists_file_of_readText htext
  have hspares : Spares (p.normalize d.cwd) d (d.overwrite p s) p := .inl hover
  rw [hedit.cwd_eq] at hnew
  refine readText_of_entryAt ?_ hnew (fromUTF8?_toUTF8 s)
  rw [← locate_congr hedit.cwd_eq (hedit.alike_of_spares hspares), hlocate, hedit.cwd_eq]

/-- Writing over a file leaves the directories. -/
theorem Tree.overwrite (h : d.Tree) (htext : d.readText p = .ok text) (s : String) :
    (d.overwrite p s).Tree := by
  obtain ⟨old, -, hentry, -⟩ := exists_file_of_readText htext
  have hput := fun m => entryAt_put d (p.normalize d.cwd) m (.file s.toUTF8)
    (ne_root_of_entryAt_ne (d := d) (by simp [hentry]))
  have hkept : ∀ m, d.entryAt m = some .directory →
      (d.overwrite p s).entryAt m = some .directory := by
    intro m hm
    have hne : p.normalize d.cwd ≠ m := by
      rintro rfl
      simp [hentry] at hm
    rw [Disk.overwrite, hput, if_neg hne, hm]
  refine ⟨hkept _ h.cwd, fun m hm => hkept _ (h.parent m ?_)⟩
  rw [Disk.overwrite, hput] at hm
  split at hm
  · rename_i hl
    simp [← hl, hentry]
  · exact hm

end Disk

namespace Ruleset

open Toml

variable {code : String} {sev : Severity} {doc doc' : Toml.Document}
  {said : List (String × Value)} {decoded : Document} {d : Disk} {path : Path} {text : String}

/-! ### The edit of a document -/

/-- For each rule of a text whether it is written as a table. -/
def Document.tables (text : String) : List Bool :=
  ((fieldsOfText? .free text).map ruleTables).getD []

/-- Some rule of a text is written as a table and has a code. -/
def Document.Addresses (decoded : Document) (text code : String) : Prop :=
  ∃ e ∈ decoded.rules.zip (Document.tables text), e.2 = true ∧ e.1.code = code

theorem tables_of_fields? (hfree : Toml.Document.ofText? .free text.toList = some doc)
    (hsaid : doc.fields? = some said) : Document.tables text = ruleTables said := by
  have hfields : fieldsOfText? .free text = some said := by
    rw [fieldsOfText?, hfree]
    exact hsaid
  rw [Document.tables, hfields, Option.map_some, Option.getD_some]

/-- What the editor has read is what the resolver has read. -/
theorem exists_of_ofText (hdoc : Toml.Document.ofText? .oneLine text.toList = some doc)
    (hread : Document.ofText text = .ok decoded) : ∃ said, doc.fields? = some said ∧
      Document.ofFields said = .ok decoded ∧ Document.tables text = ruleTables said := by
  obtain ⟨read, said, hfree, hsaid, hdecoded⟩ := exists_fields?_of_ofText hread
  obtain rfl : doc = read := Option.some.inj ((ofText?_free hdoc).symm.trans hfree)
  exact ⟨said, hsaid, hdecoded, tables_of_fields? hfree hsaid⟩

/-- Each rule of a text is a table or not. -/
theorem length_tables (hread : Document.ofText text = .ok decoded) :
    (Document.tables text).length = decoded.rules.length := by
  obtain ⟨doc, said, hfree, hsaid, hdecoded⟩ := exists_fields?_of_ofText hread
  rw [tables_of_fields? hfree hsaid]
  exact length_ruleTables hsaid hdecoded

/-- **The text that an edit writes** is the same document but for the action of the rules of
the code that are tables. -/
theorem ofText_unixText_withAction?
    (hdoc : Toml.Document.ofText? .oneLine text.toList = some doc)
    (hread : Document.ofText text = .ok decoded) (h : withAction? code sev doc = some doc') :
    Document.ofText (String.ofList doc'.unixText) = .ok { decoded with
      rules := graded code sev.text decoded.rules (Document.tables text) } := by
  obtain ⟨said, hsaid, hdecoded, htables⟩ := exists_of_ofText hdoc hread
  obtain ⟨said', hsaid', hrules⟩ := ofFields_withAction? hsaid hdecoded h
  rw [htables]
  exact ofText_unixText (legible_withAction? h (legible_of_ofText? hdoc).1) hsaid' hrules

/-! ### The edit of a file -/

/-- **Setting the action of a code** in a document that the resolver reads: without the strict
layout it is malformed, without a table of the code there is no such rule.  Otherwise the
document is written, and read again it has the same imports and the same rules, of which those
that are tables of the code have the new action. -/
theorem setSeverity_exact (code : String) (sev : Severity) (hd : d.Tree)
    (htext : d.readText path = .ok text) (hread : Document.ofText text = .ok decoded) :
    (Toml.Document.ofText? .oneLine text.toList = none →
      setSeverity d path code sev = .error (.invalid path (.unloadable .malformed))) ∧
    ∀ doc, Toml.Document.ofText? .oneLine text.toList = some doc →
      (¬ decoded.Addresses text code →
        setSeverity d path code sev = .error (.noRule path code)) ∧
      (decoded.Addresses text code → ∃ e, setSeverity d path code sev = .ok e ∧
        ∃ new, e.readText path = .ok new ∧ Document.ofText new = .ok { decoded with
          rules := graded code sev.text decoded.rules (Document.tables text) }) := by
  refine ⟨fun hnone => ?_, fun doc hdoc => ?_⟩
  · simp [setSeverity, edit, readForEdit, htext, hnone, bind, Except.bind]
  · obtain ⟨said, hsaid, hdecoded, htables⟩ := exists_of_ofText hdoc hread
    have hfind : (withAction? code sev doc).isSome = true ↔ decoded.Addresses text code := by
      rw [withAction?_isSome_iff_of_ofFields hsaid hdecoded, Document.Addresses, htables]
    have hedit : readForEdit d path = .ok doc :=
      readForEdit_eq_ok_iff.2 ⟨text, htext, hdoc, by rw [hsaid]; rfl⟩
    refine ⟨fun hno => ?_, fun haddressed => ?_⟩
    · rw [← hfind, Option.not_isSome_iff_eq_none] at hno
      exact edit_of_none hedit hno
    · obtain ⟨doc', hdoc'⟩ := Option.isSome_iff_exists.1 (hfind.2 haddressed)
      have hwrite := hd.writeFile_eq htext (String.ofList doc'.unixText)
      exact ⟨_, edit_of_some hedit hdoc' hwrite, _, hd.readText_overwrite htext _,
        ofText_unixText_withAction? hdoc hread hdoc'⟩

/-! ### Rules that an edit does not see -/

/-- A disk with one document. -/
def oneDocument (text : String) : Disk := ⟨.root, [(place "/r.toml", .file text.toUTF8)]⟩

/-- What the document of such a disk says after an edit, if it succeeds. -/
def edited? (d : Disk) (code : String) (sev : Severity) : Option Document :=
  (setSeverity d (.ofText "/r.toml") code sev).toOption.bind fun e =>
    (e.readText (.ofText "/r.toml")).toOption.bind fun text => (Document.ofText text).toOption

instance (decoded : Document) (text code : String) : Decidable (decoded.Addresses text code) :=
  inferInstanceAs (Decidable (∃ e ∈ decoded.rules.zip (Document.tables text),
    e.2 = true ∧ e.1.code = code))

/-- A list in which a code stands twice, in a table and in two words.  Its lines end with a
carriage return, also those of the import. -/
def twoForms : String :=
  "imports = [\"\"\"a\r\nb\"\"\"]\r\nrules = [\r\n" ++
    "  \x7b code = \"X\", action = \"warn\" \x7d, # table\r\n  [\"X\", \"info\"],\r\n]\r\n"

/-- The table is edited, and the words are not. -/
theorem setSeverity_exact_twoForms : ∃ e, setSeverity (oneDocument twoForms) (.ofText "/r.toml")
    "X" .error = .ok e ∧ ∃ new, e.readText (.ofText "/r.toml") = .ok new ∧
      Document.ofText new = .ok ⟨["a\r\nb"], [⟨"X", "error"⟩, ⟨"X", "info"⟩]⟩ := by
  have htree : (oneDocument twoForms).Tree :=
    Disk.tree_of_entries (by decide +kernel) (by decide +kernel)
  have htext : (oneDocument twoForms).readText (.ofText "/r.toml") = .ok twoForms :=
    toOption_eq_some_iff.1 (by decide +kernel)
  have hread : Document.ofText twoForms =
      .ok ⟨["a\r\nb"], [⟨"X", "warn"⟩, ⟨"X", "info"⟩]⟩ :=
    toOption_eq_some_iff.1 (by decide +kernel)
  have hsome : (Toml.Document.ofText? .oneLine twoForms.toList).isSome = true := by
    decide +kernel
  have htables : Document.tables twoForms = [true, false] := by decide +kernel
  obtain ⟨doc, hdoc⟩ := Option.isSome_iff_exists.1 hsome
  obtain ⟨-, hexact⟩ := setSeverity_exact "X" .error htree htext hread
  obtain ⟨-, hedit⟩ := hexact doc hdoc
  obtain ⟨e, he, new, hnew, hofText⟩ := hedit (by decide +kernel)
  rw [htables] at hofText
  exact ⟨e, he, new, hnew, hofText⟩

/-- An edit sets the action of every rule of a code, and of no other rule. -/
def SetsExactly (d : Disk) (code : String) (sev : Severity) : Prop :=
  ∀ text decoded, d.readText (.ofText "/r.toml") = .ok text →
    Document.ofText text = .ok decoded →
      ((∀ r ∈ decoded.rules, r.code ≠ code) →
        setSeverity d (.ofText "/r.toml") code sev = .error (.noRule (.ofText "/r.toml") code)) ∧
      ((∃ r ∈ decoded.rules, r.code = code) → edited? d code sev = some { decoded with
        rules := decoded.rules.map fun r =>
          if r.code = code then { r with action := sev.text } else r })

/-- **An edit misses rules that the resolver sees**: one that is a list of two words, alone or
beside a table, and one that is written over two lines. -/
theorem not_setsExactly :
    ¬SetsExactly (oneDocument "rules = [[\"X\", \"warn\"]]\n") "X" .error ∧
    ¬SetsExactly (oneDocument twoForms) "X" .error ∧
    ¬SetsExactly (oneDocument
      "rules = [\x7b code = \"X\",\n  action = \"warn\" \x7d]\n") "X" .error := by
  have hnot : ∀ text decoded, (Document.ofText text).toOption = some decoded →
      ((oneDocument text).readText (.ofText "/r.toml")).toOption = some text →
      (∃ r ∈ decoded.rules, r.code = "X") →
      edited? (oneDocument text) "X" .error ≠ some { decoded with
        rules := decoded.rules.map fun r =>
          if r.code = "X" then { r with action := Severity.error.text } else r } →
      ¬SetsExactly (oneDocument text) "X" .error := fun text decoded hread htext hrule hedited h =>
    hedited ((h text decoded (toOption_eq_some_iff.1 htext)
      (toOption_eq_some_iff.1 hread)).2 hrule)
  refine ⟨hnot _ ⟨[], [⟨"X", "warn"⟩]⟩ ?_ ?_ ?_ ?_,
    hnot _ ⟨["a\r\nb"], [⟨"X", "warn"⟩, ⟨"X", "info"⟩]⟩ ?_ ?_ ?_ ?_,
    hnot _ ⟨[], [⟨"X", "warn"⟩]⟩ ?_ ?_ ?_ ?_⟩
  all_goals decide +kernel

end Ruleset
end LintWorkspace
