/-
# A ruleset in which one code is graded anew

Two disks on which a document says the same but for the actions of rules of one code
(`Rewritten`) are resolved along the same course.  The same documents are reached in the same
order, and whatever is kept or found on the way agrees for every other code
(`Visits.regraded`).  So the ruleset has the same documents, and its severities agree for
every other code (`resolve_regraded`).

Setting the action of a code in a document makes two such disks (`rewritten_setSeverity`): it
writes the one file that it has read, and the text that it writes is read back
(`ofText_withAction?`).
-/

import LintWorkspace.Proofs.Edited
import LintWorkspace.Proofs.Reach
import LintWorkspace.Proofs.Staging

namespace LintWorkspace
namespace Ruleset

variable {F G : Disk} {code action : String} {sev : Severity} {l root : Location}
  {m m' n n' : Severities} {p p' q q' : Progress} {chain ls : List Location}

/-! ### Tables that agree -/

/-- Two tables give the same severity to every other code. -/
def Agree (code : String) (m m' : Severities) : Prop := ∀ c ≠ code, m'.find? c = m.find? c

theorem Agree.refl (m : Severities) : Agree code m m := fun _ _ => rfl

theorem Agree.merge (hm : Agree code m m') (hn : Agree code n n') :
    Agree code (m.merge n) (m'.merge n') := fun c hc => by
  rw [SortedMap.find?_merge, SortedMap.find?_merge, hm c hc, hn c hc]

theorem Agree.insert (hm : Agree code m m') {k : String} {s s' : Severity}
    (hs : k ≠ code → s' = s) : Agree code (m.insert k s) (m'.insert k s') := fun c hc => by
  rw [SortedMap.find?_insert, SortedMap.find?_insert, hm c hc]
  by_cases hk : k = c
  · rw [if_pos hk, if_pos hk, hs (hk ▸ hc)]
  · rw [if_neg hk, if_neg hk]

/-- Rules of which some have a new action, laid over tables that agree, make tables that
agree. -/
theorem applyRules_regraded {rules rules' : List Rule}
    (hrules : List.Forall₂ (Regraded code sev.text) rules rules') (hm : Agree code m m')
    (h : applyRules l rules m = .ok n) :
    ∃ n', applyRules l rules' m' = .ok n' ∧ Agree code n n' := by
  induction hrules generalizing m m' with
  | nil =>
    obtain rfl := Except.ok.inj h
    exact ⟨m', rfl, hm⟩
  | @cons r r' rules rules' hr _ ih =>
    rw [applyRules_cons] at h
    cases hs : Severity.ofText r.action with
    | error cause => simp [hs] at h
    | ok s =>
      rw [hs] at h
      obtain ⟨s', hs', hcode, hsame⟩ : ∃ s', Severity.ofText r'.action = .ok s' ∧
          r'.code = r.code ∧ (r.code ≠ code → s' = s) := by
        rcases hr with rfl | ⟨hcode, rfl⟩
        · exact ⟨s, hs, rfl, fun _ => rfl⟩
        · exact ⟨sev, Severity.ofText_text sev, rfl, fun hne => absurd hcode hne⟩
      obtain ⟨n', hn', hagree⟩ := ih (hm.insert hsame) h
      refine ⟨n', ?_, hagree⟩
      rw [applyRules_cons, hs', hcode]
      exact hn'

/-! ### The same course -/

/-- Two progresses that reached the same and keep the same documents, for which they keep
tables that agree. -/
structure Progress.Agree (code : String) (p p' : Progress) : Prop where
  reached_eq : p'.reached = p.reached
  done : List.Forall₂ (fun e e' => e'.1 = e.1 ∧ Ruleset.Agree code e.2 e'.2) p.done p'.done

/-- What is kept for a document in one progress is kept for it in the other. -/
theorem lookup_of_forall₂ {done done' : List (Location × Severities)}
    (h : List.Forall₂ (fun e e' => e'.1 = e.1 ∧ Agree code e.2 e'.2) done done') (l : Location) :
    (done.lookup l = none → done'.lookup l = none) ∧
      ∀ n, done.lookup l = some n → ∃ n', done'.lookup l = some n' ∧ Agree code n n' := by
  induction h with
  | nil => simp
  | @cons e e' done done' he _ ih =>
    obtain ⟨x, k⟩ := e
    obtain ⟨x', k'⟩ := e'
    obtain ⟨rfl, hagree⟩ := he
    by_cases hx : l = x'
    · subst hx
      simpa using hagree
    · rw [List.lookup_cons, List.lookup_cons, beq_false_of_ne hx]
      exact ih

theorem Progress.Agree.reach (h : p.Agree code p') (l : Location) :
    (p.reach l).Agree code (p'.reach l) :=
  ⟨by rw [reached_reach, reached_reach, h.reached_eq], h.done⟩

theorem Progress.Agree.finish (h : p.Agree code p') (l : Location) (hn : Ruleset.Agree code n n') :
    (p.finish l n).Agree code (p'.finish l n') :=
  ⟨h.reached_eq, .cons ⟨rfl, hn⟩ h.done⟩

/-- A document of one disk says the same on another but for the actions of rules of a code. -/
def Rewritten (code action : String) (F G : Disk) (l : Location) : Prop :=
  ∀ doc, Document.read F l = .ok doc → ∃ rules,
    Document.read G l = .ok { doc with rules } ∧
      List.Forall₂ (Regraded code action) doc.rules rules

/-- **Visits that succeed take the same course** where the documents are rewritten. -/
theorem Visits.regraded {out out' : Except RulesetFault Severities}
    (h : Visits F chain ls m p out q) (hok : out = .ok n)
    (hdocs : ∀ x ∈ q.reached, Rewritten code sev.text F G x)
    (hm : Agree code m m') (hp : p.Agree code p') (h' : Visits G chain ls m' p' out' q') :
    ∃ n', out' = .ok n' ∧ Agree code n n' ∧ q.Agree code q' := by
  induction h generalizing m' p' out' q' n with
  | none =>
    obtain rfl := Except.ok.inj hok
    cases h' with
    | none => exact ⟨m', rfl, hm, hp⟩
  | again hdone _ ih =>
    obtain ⟨k, hk, hagree⟩ := (lookup_of_forall₂ hp.done _).2 _ hdone
    cases h' with
    | again hdone' hrest =>
      obtain rfl := Option.some.inj (hk.symm.trans hdone')
      exact ih hok hdocs (hm.merge hagree) hp hrest
    | cycle hnew | unreadable hnew | broken hnew | unruly hnew | settled hnew =>
      rw [hk] at hnew
      cases hnew
  | cycle | unreadable | broken | unruly => cases hok
  | @settled chain l ls m k below p q q₂ out doc hnew hmem hread hbelow hrules hrest ih ihrest =>
    have hnew' := (lookup_of_forall₂ hp.done l).1 hnew
    have hreached : ∀ x ∈ q.reached, x ∈ q₂.reached := fun x hx =>
      hrest.prefix_reached.subset hx
    have hl : l ∈ q.reached := hbelow.prefix_reached.subset (by simp)
    obtain ⟨rules, hread', hgraded⟩ := hdocs l (hreached l hl) doc hread
    -- the imports are the same, so what stands below is visited alike
    have hsame : ∀ {out' q'}, Visits G (chain ++ [l]) (targets l doc) ∅ (p'.reach l) out' q' →
        ∃ n', out' = .ok n' ∧ Agree code below n' ∧ q.Agree code q' :=
      ih rfl (fun x hx => hdocs x (hreached x hx)) (Agree.refl ∅) (hp.reach l)
    cases h' with
    | again hdone =>
      rw [hnew'] at hdone
      cases hdone
    | cycle _ hmem' => exact absurd hmem' hmem
    | unreadable _ _ hfault =>
      rw [hread'] at hfault
      cases hfault
    | broken _ _ hread₂ hbelow' =>
      obtain rfl := Except.ok.inj (hread'.symm.trans hread₂)
      obtain ⟨_, hout, -⟩ := hsame hbelow'
      cases hout
    | unruly _ _ hread₂ hbelow' hrules' =>
      obtain rfl := Except.ok.inj (hread'.symm.trans hread₂)
      obtain ⟨below', hout, hagree, -⟩ := hsame hbelow'
      obtain rfl := Except.ok.inj hout
      obtain ⟨k', hk', -⟩ := applyRules_regraded hgraded hagree hrules
      rw [hk'] at hrules'
      cases hrules'
    | settled _ _ hread₂ hbelow' hrules' hrest' =>
      obtain rfl := Except.ok.inj (hread'.symm.trans hread₂)
      obtain ⟨below', hout, hagree, hq⟩ := hsame hbelow'
      obtain rfl := Except.ok.inj hout
      obtain ⟨k', hk', hk⟩ := applyRules_regraded hgraded hagree hrules
      obtain rfl := Except.ok.inj (hk'.symm.trans hrules')
      exact ihrest hok hdocs (hm.merge hk) (hq.finish l hk) hrest'

/-- **A ruleset whose documents are rewritten** has the same documents and gives the same
severity to every other code. -/
theorem resolve_regraded {r : Resolved} (h : (resolve F root).1 = .ok r)
    (hdocs : ∀ x ∈ r.documents, Rewritten code sev.text F G x) :
    ∃ r', (resolve G root).1 = .ok r' ∧ r'.documents = r.documents ∧
      Agree code r.severities r'.severities := by
  obtain ⟨q, hcourse, hreached⟩ := visits_resolve F root
  obtain ⟨q', hcourse', hreached'⟩ := visits_resolve G root
  rw [documents_of_resolve h, hreached] at hdocs
  obtain ⟨m', hm', hagree, hq⟩ :=
    hcourse.regraded (congrArg (Except.map Resolved.severities) h) hdocs (Agree.refl ∅)
      ⟨rfl, .nil⟩ hcourse'
  obtain ⟨r', hr, rfl⟩ := map_eq_ok_iff.1 hm'
  refine ⟨r', hr, ?_, hagree⟩
  rw [documents_of_resolve hr, documents_of_resolve h, hreached, hreached', hq.reached_eq]

end Ruleset

/-! ### Writing over a file -/

namespace Disk

variable {F G : Disk} {p : Path} {text : String}

theorem fromUTF8?_toUTF8 (s : String) : String.fromUTF8? s.toUTF8 = some s := by
  unfold String.fromUTF8?
  rw [String.toUTF8_eq_toByteArray, dif_pos s.isValidUTF8]
  rfl

/-- Writing over a file changes nothing but what is read there. -/
theorem overwritten_of_writeFile {bytes : ByteArray} (h : F.readText p = .ok text)
    (hwrite : F.writeFile p bytes = .ok G) : Edited (p.normalize F.cwd) F G ∧
      Overwritten (p.normalize F.cwd) F G ∧
        G.entryAt (p.normalize F.cwd) = some (.file bytes) := by
  obtain ⟨old, -, hentry, -⟩ := exists_file_of_readText h
  obtain ⟨-, hfile, -, rfl⟩ := writeFile_eq_ok_iff.1 hwrite
  have hroot := ne_root_of_entryAt_ne hfile
  have hnew : (F.put (p.normalize F.cwd) (.file bytes)).entryAt (p.normalize F.cwd) =
      some (.file bytes) := by rw [entryAt_put _ _ _ _ hroot, if_pos rfl]
  exact ⟨.put F hroot _, ⟨old, bytes, hentry, hnew⟩, hnew⟩

/-- A file is read at its location as on another path, and after it was written over as what
was written. -/
theorem readText_toPath_of_writeFile {said s : String} (h : F.readText p = .ok text)
    (hsaid : F.readText (p.normalize F.cwd).toPath = .ok said)
    (hwrite : F.writeFile p s.toUTF8 = .ok G) :
    said = text ∧ G.readText (p.normalize F.cwd).toPath = .ok s := by
  obtain ⟨hedit, hover, hnew⟩ := overwritten_of_writeFile h hwrite
  obtain ⟨bytes, -, hentry, hutf8⟩ := exists_file_of_readText h
  obtain ⟨bytes', hlocate, hentry', hutf8'⟩ := exists_file_of_readText hsaid
  rw [Path.normalize_toPath] at hlocate hentry'
  obtain rfl : bytes = bytes' := by simpa [hentry] using hentry'
  obtain rfl : text = said := by simpa [hutf8] using hutf8'
  -- the way to the file is the same
  have hspares : Spares (p.normalize F.cwd) F G (p.normalize F.cwd).toPath := .inl hover
  have hlocate' : G.locate (p.normalize F.cwd).toPath = .ok (p.normalize F.cwd) := by
    rw [← locate_congr hedit.cwd_eq (hedit.alike_of_spares hspares), hlocate]
  refine ⟨rfl, readText_of_entryAt ?_ ?_ (fromUTF8?_toUTF8 s)⟩
  · rw [Path.normalize_toPath, hlocate']
  · rw [Path.normalize_toPath, hnew]

end Disk

/-! ### Setting an action -/

namespace Ruleset

variable {F G : Disk} {code : String} {sev : Severity} {file : Path} {doc doc' : Toml.Document}
  {fault : RulesetFault} {change : Toml.Document → Option Toml.Document}

/-- What is read for an edit has the strict layout and fields that are accepted. -/
theorem readForEdit_eq_ok_iff : readForEdit F file = .ok doc ↔
    ∃ text, F.readText file = .ok text ∧
      Toml.Document.ofText? .oneLine text.toList = some doc ∧ doc.fields?.isSome = true := by
  unfold readForEdit
  constructor
  · intro h
    split at h
    · cases h
    · rename_i text htext
      split at h
      · rename_i doc hdoc
        obtain rfl := Except.ok.inj h
        exact ⟨text, htext, Option.filter_eq_some_iff.1 hdoc⟩
      · cases h
  · rintro ⟨text, htext, hdoc, hfields⟩
    have hkept : (some doc).filter (fun doc => doc.fields?.isSome) = some doc :=
      Option.filter_eq_some_iff.2 ⟨rfl, hfields⟩
    simp only [htext, hdoc, hkept]

theorem edit_of_none (hdoc : readForEdit F file = .ok doc) (h : change doc = none) :
    edit F file fault change = .error fault := by
  simp only [edit, hdoc, h, bind, Except.bind]

theorem edit_of_some (hdoc : readForEdit F file = .ok doc) (h : change doc = some doc')
    (hwrite : F.writeFile file (String.ofList doc'.unixText).toUTF8 = .ok G) :
    edit F file fault change = .ok G := by
  simp only [edit, hdoc, h, hwrite, bind, Except.bind]

/-- What an edit has read and what it writes. -/
theorem exists_of_edit (h : edit F file fault change = .ok G) :
    ∃ doc doc', readForEdit F file = .ok doc ∧ change doc = some doc' ∧
      F.writeFile file (String.ofList doc'.unixText).toUTF8 = .ok G := by
  obtain ⟨doc, hdoc, h⟩ := bind_eq_ok_iff.1 h
  split at h
  · cases h
  · rename_i doc' hdoc'
    split at h
    · rename_i hwrite
      obtain rfl := Except.ok.inj h
      exact ⟨doc, doc', hdoc, hdoc', hwrite⟩
    · cases h

/-- What setting the action of a code has read and what it writes. -/
theorem exists_of_setSeverity (h : setSeverity F file code sev = .ok G) :
    ∃ text doc doc', F.readText file = .ok text ∧
      Toml.Document.ofText? .oneLine text.toList = some doc ∧
      withAction? code sev doc = some doc' ∧
      F.writeFile file (String.ofList doc'.unixText).toUTF8 = .ok G := by
  obtain ⟨doc, doc', hdoc, hdoc', hwrite⟩ := exists_of_edit h
  obtain ⟨text, htext, hread, -⟩ := readForEdit_eq_ok_iff.1 hdoc
  exact ⟨text, doc, doc', htext, hread, hdoc', hwrite⟩

theorem exists_text_of_read {x : Location} {decoded : Document}
    (h : Document.read F x = .ok decoded) :
    ∃ text, F.readText x.toPath = .ok text ∧ Document.ofText text = .ok decoded := by
  unfold Document.read at h
  cases htext : F.readText x.toPath with
  | error fault => simp [htext] at h
  | ok text =>
    cases hdecoded : Document.ofText text with
    | error fault => simp [htext, hdecoded] at h
    | ok d => exact ⟨text, rfl, by simpa [htext, hdecoded] using h⟩

/-- An edit overwrites one file. -/
theorem overwritten_of_setSeverity (h : setSeverity F file code sev = .ok G) :
    Disk.Edited (file.normalize F.cwd) F G ∧ Disk.Overwritten (file.normalize F.cwd) F G := by
  obtain ⟨text, doc, doc', htext, -, -, hwrite⟩ := exists_of_setSeverity h
  obtain ⟨hedit, hover, -⟩ := Disk.overwritten_of_writeFile htext hwrite
  exact ⟨hedit, hover⟩

/-- **Setting the action of a code rewrites documents.** -/
theorem rewritten_setSeverity (h : setSeverity F file code sev = .ok G) (x : Location) :
    Rewritten code sev.text F G x := by
  intro decoded hread
  obtain ⟨text, doc, doc', htext, hdoc, hdoc', hwrite⟩ := exists_of_setSeverity h
  by_cases hx : x = file.normalize F.cwd
  · subst hx
    obtain ⟨said, hsaid, hofText⟩ := exists_text_of_read hread
    obtain ⟨rfl, hnew⟩ := Disk.readText_toPath_of_writeFile htext hsaid hwrite
    obtain ⟨rules, hrules, hgraded⟩ := ofText_withAction? hdoc hofText hdoc'
    refine ⟨rules, ?_, hgraded⟩
    unfold Document.read
    rw [hnew]
    dsimp only
    rw [hrules]
  · obtain ⟨hedit, hover⟩ := overwritten_of_setSeverity h
    have hsame := hedit.readText_eq hx (.inl hover)
    refine ⟨decoded.rules, ?_, List.forall₂_same.2 fun r _ => .inl rfl⟩
    unfold Document.read at hread ⊢
    rwa [← hsame]

end Ruleset
end LintWorkspace
