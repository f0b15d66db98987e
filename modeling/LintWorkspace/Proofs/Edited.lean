/-
# An edited document is read back

The text of a document whose rules of a code have another action is that of a legible
document (`legible_withAction?`).  A legible document is written with plain line breaks, and that
is read back as what the document says (`ofText_unixText`).  What the edited document says is
known (`fields?_withAction?`), and with it what the written file is loaded as
(`ofText_withAction?`).
-/

import LintWorkspace.Proofs.Insertion
import LintWorkspace.Proofs.LineBreaks

namespace LintWorkspace
namespace Ruleset

open Toml

variable {code : String} {sev : Severity} {doc doc' : Toml.Document}
  {said : List (String × Value)} {decoded : Document}

/-- What a text is loaded as. -/
theorem exists_fields?_of_ofText {text : String} (h : Document.ofText text = .ok decoded) :
    ∃ doc said, Toml.Document.ofText? .free text.toList = some doc ∧ doc.fields? = some said ∧
      Document.ofFields said = .ok decoded := by
  rw [Document.ofText, load] at h
  cases hfields : fieldsOfText? .free text with
  | none => simp [hfields] at h
  | some said =>
    obtain ⟨doc, hdoc, hsaid⟩ := Option.bind_eq_some_iff.1 hfields
    refine ⟨doc, said, hdoc, hsaid, ?_⟩
    rw [hfields] at h
    dsimp only at h
    split at h
    · rename_i hdecoded
      rw [hdecoded, Except.ok.inj h]
    · cases h

/-- **What is written of a document** is loaded as what the document says. -/
theorem ofText_unixText (hlegible : LegibleDocument .oneLine doc) (hsaid : doc.fields? = some said)
    (hdecoded : Document.ofFields said = .ok decoded) :
    Document.ofText (String.ofList doc.unixText) = .ok decoded := by
  have hfields : fieldsOfText? .free (String.ofList doc.unixText) = some said := by
    rw [fieldsOfText?, String.toList_ofList, ofText?_free (ofText?_unixText hlegible)]
    exact (fields?_plain doc).trans hsaid
  rw [Document.ofText, load, hfields]
  dsimp only
  rw [hdecoded]

/-- **The edited text is the same ruleset document**, in which only rules of that code may
have the new action. -/
theorem ofText_withAction? {text : String}
    (hdoc : Toml.Document.ofText? .oneLine text.toList = some doc)
    (hread : Document.ofText text = .ok decoded) (h : withAction? code sev doc = some doc') :
    ∃ rules, Document.ofText (String.ofList doc'.unixText) = .ok { decoded with rules } ∧
      List.Forall₂ (Regraded code sev.text) decoded.rules rules := by
  obtain ⟨read, said, hfree, hsaid, hdecoded⟩ := exists_fields?_of_ofText hread
  obtain rfl : doc = read := Option.some.inj ((ofText?_free hdoc).symm.trans hfree)
  obtain ⟨said', hsaid', hset⟩ := fields?_withAction? hsaid hdecoded h
  obtain ⟨rules, hrules, hregraded⟩ := hset.ofFields hsaid hdecoded
  have hlegible := legible_withAction? h (legible_of_ofText? hdoc).1
  exact ⟨rules, ofText_unixText hlegible hsaid' hrules, hregraded⟩

end Ruleset
end LintWorkspace
