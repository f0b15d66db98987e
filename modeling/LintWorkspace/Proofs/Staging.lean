/-
# What loading analyzers looks at

Loading an analyzer reads its file, makes the directories above its copy, and writes
and reads the copy.  So an edit of a place matters to it only if the place is the
file or the copy, or if it makes or breaks a way to one of them.

While two disks are loaded from that differ by an edit, both change, but at the same
places and in the same way: they still differ by the same edit (`Disk.Onward`).

| operation | answers alike on both disks |
| --- | --- |
| `createDirectory`, `createDirectories` | if the edit spares the way of the path |
| `writeFile`, `makeCopy`, `readCopy` | if besides the path does not lead to the place |
| `loadAnalyzer`, `loadInto` | if both hold for the file and for every copy of it |
-/

import LintWorkspace.Analyzer.Staging
import LintWorkspace.Proofs.Disk

namespace LintWorkspace

/-! ### The way to a parent -/

namespace Path

theorem initial_dropIdleEnd (segments : List String) : dropIdleEnd segments <+: segments := by
  unfold dropIdleEnd
  rw [← List.reverse_suffix, List.reverse_reverse]
  exact List.dropWhile_suffix _

theorem initial_dropIdleEnd_dropLast (segments : List String) :
    dropIdleEnd (dropIdleEnd segments).dropLast <+: segments :=
  ((initial_dropIdleEnd _).trans (List.dropLast_prefix _)).trans (initial_dropIdleEnd _)

theorem dropIdleEnd_append_singleton {segments : List String} {s : String} (hs : isIdle s = false) :
    dropIdleEnd (segments ++ [s]) = segments ++ [s] := by
  simp [dropIdleEnd, hs]

/-- A path that ends with a name has a parent. -/
theorem exists_parent {segments : List String} {s : String} (hs : isIdle s = false) :
    ∃ q, parent? ⟨segments ++ [s]⟩ = some q := by
  unfold parent?
  split
  · rename_i x rest hp
    obtain ⟨front, hfront⟩ : ∃ front, x :: rest = front ++ [s] := by
      cases segments with
      | nil => simp at hp
      | cons y ys => exact ⟨ys, (List.cons.inj hp).2.symm⟩
    rw [hfront, dropIdleEnd_append_singleton hs]
    split
    · rename_i hnil
      simp at hnil
    · split <;> exact ⟨_, rfl⟩
  · split <;> exact ⟨_, rfl⟩
  · simp only [dropIdleEnd_append_singleton hs]
    split
    · rename_i hnil
      simp at hnil
    · split <;> exact ⟨_, rfl⟩

end Path

namespace Disk

variable {F G F' G' : Disk} {l m cwd : Location} {p q : Path}

theorem passed_subset {l : Location} {segments rest : List String} (h : segments <+: rest) :
    passed l segments ⊆ passed l rest := by
  induction segments generalizing l rest with
  | nil => simpa [passed] using mem_passed_self l rest
  | cons s segments ih =>
    obtain ⟨t, rfl⟩ := h
    rw [List.cons_append, passed, passed]
    exact List.cons_subset_cons _ (ih (List.prefix_append _ _))

/-- The parent of a path lies on its way. -/
theorem places_parent (h : p.parent? = some q) : places cwd q ⊆ places cwd p := by
  obtain ⟨segments⟩ := p
  unfold Path.parent? at h
  split at h
  · rename_i s rest hp
    simp only at hp
    subst hp
    have hprefix := Path.initial_dropIdleEnd_dropLast (s :: rest)
    split at h
    · simp at h
    · split at h
      · obtain rfl := Option.some.inj h
        intro m hm
        have hm : m = .root := by
          simpa [places, passed, enterSegment, Component.ofSegment?, IsName] using hm
        exact hm ▸ mem_passed_self _ _
      · rename_i above habove
        obtain rfl := Option.some.inj h
        obtain ⟨x, xs, hx⟩ := List.exists_cons_of_ne_nil habove
        rw [hx] at hprefix ⊢
        exact passed_subset hprefix
  · rename_i rest hp
    simp only at hp
    subst hp
    split at h
    · obtain rfl := Option.some.inj h
      exact List.nil_subset _
    · obtain rfl := Option.some.inj h
      rw [places_relative (by decide), places_relative (by decide)]
      exact passed_subset ((List.cons_prefix_cons.2 ⟨rfl, Path.initial_dropIdleEnd_dropLast rest⟩))
  · rename_i hroot hdot
    have hprefix := Path.initial_dropIdleEnd_dropLast segments
    split at h
    · simp at h
    · rename_i body hbody
      split at h
      · obtain rfl := Option.some.inj h
        exact List.nil_subset _
      · rename_i above habove
        obtain rfl := Option.some.inj h
        obtain ⟨x, xs, hx⟩ := List.exists_cons_of_ne_nil habove
        rw [hx] at hprefix ⊢
        obtain ⟨t, rfl⟩ := hprefix
        have hne : x ≠ "" := by
          rintro rfl
          cases hxs : xs ++ t with
          | nil => exact hbody (by rw [List.cons_append, hxs]; rfl)
          | cons y ys => exact hroot y ys (by rw [List.cons_append, hxs])
        rw [List.cons_append, places_relative hne, places_relative hne]
        exact passed_subset (List.prefix_append _ _)

/-! ### Two disks that change alike -/

/-- Two disks that differ by an edit have changed, and still differ by it alone. -/
structure Onward (l : Location) (F G F' G' : Disk) : Prop where
  edited : Edited l F' G'
  cwd_eq : F'.cwd = F.cwd
  overwritten : Overwritten l F G → Overwritten l F' G'

theorem Onward.refl (h : Edited l F G) : Onward l F G F G := ⟨h, rfl, fun h => h⟩

theorem Onward.trans {F'' G'' : Disk} (h : Onward l F G F' G') (h' : Onward l F' G' F'' G'') :
    Onward l F G F'' G'' :=
  ⟨h'.edited, h'.cwd_eq.trans h.cwd_eq, fun hw => h'.overwritten (h.overwritten hw)⟩

/-- The same entry is put on both disks, elsewhere. -/
theorem Onward.put (h : Edited l F G) (hm : m ≠ l) (hroot : m ≠ .root) (e : DiskEntry) :
    Onward l F G (F.put m e) (G.put m e) where
  edited := {
    cwd_eq := h.cwd_eq
    entryAt_eq := fun k hk => by
      rw [entryAt_put _ _ _ _ hroot, entryAt_put _ _ _ _ hroot, h.entryAt_eq k hk] }
  cwd_eq := rfl
  overwritten := fun ⟨a, b, hF, hG⟩ => by
    refine ⟨a, b, ?_, ?_⟩
    · rw [entryAt_put _ _ _ _ hroot, if_neg hm, hF]
    · rw [entryAt_put _ _ _ _ hroot, if_neg hm, hG]

/-- What the edit spared, it spares from then on. -/
theorem Onward.spares (h : Onward l F G F' G') (hp : Spares l F G p) : Spares l F' G' p :=
  hp.imp h.overwritten (h.cwd_eq ▸ ·)

/-- An operation answers alike on two disks, and changes them alike. -/
structure Answers {α : Type} (l : Location) (F G : Disk) (f g : Disk × α) : Prop where
  answer_eq : f.2 = g.2
  onward : Onward l F G f.1 g.1

theorem Answers.exists_answer {α : Type} {f g : Disk × α} (h : Answers l F G f g) :
    ∃ F' G' a, f = (F', a) ∧ g = (G', a) ∧ Onward l F G F' G' :=
  ⟨f.1, g.1, f.2, rfl, Prod.ext rfl h.answer_eq.symm, h.onward⟩

theorem isDirectory_eq (h : Edited l F G) (hp : Spares l F G p) :
    F.isDirectory p = G.isDirectory p := by
  unfold isDirectory find
  rw [← locate_congr h.cwd_eq (h.alike_of_spares hp)]
  cases hlocate : F.locate p with
  | error fault => rfl
  | ok m =>
    simp only [bind, Except.bind]
    rcases h.alike_of_spares hp m (mem_places_of_locate hlocate) with heq | ⟨a, b, hF, hG⟩
    · rw [heq]
    · rw [hF, hG]

/-- A directory is made on both disks at the same place, or on neither for the same
reason. -/
theorem createDirectory_cases (h : Edited l F G) (hp : Spares l F G p) :
    (∃ fault, F.createDirectory p = .error fault ∧ G.createDirectory p = .error fault) ∨
      ∃ F' G', F.createDirectory p = .ok F' ∧ G.createDirectory p = .ok G' ∧
        Onward l F G F' G' := by
  unfold createDirectory
  rw [← locate_congr h.cwd_eq (h.alike_of_spares hp)]
  cases hlocate : F.locate p with
  | error fault => exact Or.inl ⟨fault, rfl, rfl⟩
  | ok m =>
    have hm := mem_places_of_locate hlocate
    simp only [bind, Except.bind]
    rcases h.alike_of_spares hp m hm with heq | ⟨a, b, hF, hG⟩
    · cases hentry : F.entryAt m with
      | some e => exact Or.inl ⟨.exists, rfl, by rw [← heq, hentry]⟩
      | none =>
        have hroot : m ≠ .root := ne_root_of_entryAt_ne (d := F) (by simp [hentry])
        have hml : m ≠ l := by
          rintro rfl
          rcases hp with ⟨a, b, hF, -⟩ | hway
          · simp [hentry] at hF
          · exact absurd rfl (Location.ne_of_not_isWithin (hway m hm))
        rw [← heq, hentry]
        rcases h.alike_parent_of_spares hp m hm with hparent | ⟨a, b, hF, hG⟩
        · rw [← hparent]
          simp only
          cases F.entryAt m.parent with
          | none => exact Or.inl ⟨.notFound, rfl, rfl⟩
          | some e =>
            cases e with
            | file bytes => exact Or.inl ⟨.notDirectory, rfl, rfl⟩
            | directory => exact Or.inr ⟨_, _, rfl, rfl, Onward.put h hml hroot .directory⟩
        · rw [hF, hG]
          exact Or.inl ⟨.notDirectory, rfl, rfl⟩
    · rw [hF, hG]
      exact Or.inl ⟨.exists, rfl, rfl⟩

/-- Directories are made alike on both disks. -/
theorem answers_createDirectoriesWithin (h : Edited l F G) (hp : Spares l F G p) (n : Nat) :
    Answers l F G (createDirectoriesWithin n F p) (createDirectoriesWithin n G p) := by
  induction n generalizing F G p with
  | zero => exact ⟨rfl, .refl h⟩
  | succ n ih =>
    rw [createDirectoriesWithin, createDirectoriesWithin]
    split
    · exact ⟨rfl, .refl h⟩
    · rcases createDirectory_cases h hp with ⟨fault, hF, hG⟩ | ⟨F', G', hF, hG, hon⟩
      · rw [hF, hG]
        cases fault with
        | notFound =>
          cases hparent : p.parent? with
          | none => exact ⟨rfl, .refl h⟩
          | some above =>
            have habove : Spares l F G above :=
              hp.imp_right fun hway m hm => hway m (places_parent hparent hm)
            obtain ⟨F', G', a, hF', hG', hon⟩ := (ih h habove).exists_answer
            simp only [hF', hG']
            cases a with
            | some fault => exact ⟨rfl, hon⟩
            | none =>
              have hp' := hon.spares hp
              rcases createDirectory_cases hon.edited hp' with
                ⟨fault, hF, hG⟩ | ⟨F'', G'', hF, hG, hon'⟩
              · simp only [hF, hG]
                exact ⟨by simp only [isDirectory_eq hon.edited hp'], hon⟩
              · simp only [hF, hG]
                exact ⟨rfl, hon.trans hon'⟩
        | _ => exact ⟨by simp only [isDirectory_eq h hp], .refl h⟩
      · rw [hF, hG]
        exact ⟨rfl, hon⟩

/-- Only a directory in the way and the directory above decide whether a file is written. -/
theorem writeFile_eq {d : Disk} {bytes : ByteArray} (h : d.locate p = .ok m) :
    d.writeFile p bytes =
      if d.entryAt m = some .directory then .error .isDirectory
      else match d.entryAt m.parent with
        | some .directory => .ok (d.put m (.file bytes))
        | some (.file _) => .error .notDirectory
        | none => .error .notFound := by
  unfold writeFile
  simp only [h, bind, Except.bind]
  cases d.entryAt m with
  | none => rfl
  | some e => cases e <;> rfl

/-- A directory is made where nothing stands, in a directory. -/
theorem createDirectory_eq_ok_iff {d e : Disk} : d.createDirectory p = .ok e ↔
    d.locate p = .ok (p.normalize d.cwd) ∧ d.entryAt (p.normalize d.cwd) = none ∧
      d.entryAt (p.normalize d.cwd).parent = some .directory ∧
        e = d.put (p.normalize d.cwd) .directory := by
  unfold createDirectory
  cases hlocate : d.locate p with
  | error fault => simp [bind, Except.bind]
  | ok m =>
    obtain rfl := eq_normalize_of_locate hlocate
    simp only [bind, Except.bind]
    cases hentry : d.entryAt (p.normalize d.cwd) with
    | some entry => simp
    | none =>
      cases hparent : d.entryAt (p.normalize d.cwd).parent with
      | none => simp
      | some above => cases above <;> simp [eq_comm]

/-- A file is written over a file or where nothing stands, in a directory. -/
theorem writeFile_eq_ok_iff {d e : Disk} {bytes : ByteArray} : d.writeFile p bytes = .ok e ↔
    d.locate p = .ok (p.normalize d.cwd) ∧ d.entryAt (p.normalize d.cwd) ≠ some .directory ∧
      d.entryAt (p.normalize d.cwd).parent = some .directory ∧
        e = d.put (p.normalize d.cwd) (.file bytes) := by
  cases hlocate : d.locate p with
  | error fault => simp [writeFile, hlocate, bind, Except.bind]
  | ok m =>
    obtain rfl := eq_normalize_of_locate hlocate
    rw [writeFile_eq hlocate]
    by_cases hentry : d.entryAt (p.normalize d.cwd) = some .directory
    · simp [hentry]
    · rw [if_neg hentry]
      cases hparent : d.entryAt (p.normalize d.cwd).parent with
      | none => simp
      | some above => cases above <;> simp [hentry, eq_comm]

/-- A file is written on both disks at the same place, or on neither for the same reason. -/
theorem writeFile_cases (h : Edited l F G) (hp : Spares l F G p) (hend : p.normalize F.cwd ≠ l)
    (bytes : ByteArray) :
    (∃ fault, F.writeFile p bytes = .error fault ∧ G.writeFile p bytes = .error fault) ∨
      ∃ F' G', F.writeFile p bytes = .ok F' ∧ G.writeFile p bytes = .ok G' ∧
        Onward l F G F' G' := by
  have hsame := locate_congr h.cwd_eq (h.alike_of_spares hp)
  cases hlocate : F.locate p with
  | error fault =>
    refine Or.inl ⟨fault, ?_, ?_⟩
    · rw [writeFile, hlocate]
      rfl
    · rw [writeFile, ← hsame, hlocate]
      rfl
  | ok m =>
    have hml : m ≠ l := by rwa [eq_normalize_of_locate hlocate]
    rw [writeFile_eq hlocate, writeFile_eq (hsame ▸ hlocate), ← h.entryAt_eq m hml]
    by_cases hdir : F.entryAt m = some .directory
    · simp only [if_pos hdir]
      exact Or.inl ⟨.isDirectory, rfl, rfl⟩
    · simp only [if_neg hdir]
      have hroot : m ≠ .root := ne_root_of_entryAt_ne hdir
      rcases h.alike_parent_of_spares hp m (mem_places_of_locate hlocate) with
        hparent | ⟨a, b, hF, hG⟩
      · rw [← hparent]
        cases F.entryAt m.parent with
        | none => exact Or.inl ⟨.notFound, rfl, rfl⟩
        | some e =>
          cases e with
          | file _ => exact Or.inl ⟨.notDirectory, rfl, rfl⟩
          | directory => exact Or.inr ⟨_, _, rfl, rfl, Onward.put h hml hroot _⟩
      · rw [hF, hG]
        exact Or.inl ⟨.notDirectory, rfl, rfl⟩

end Disk

namespace Analyzer

variable {F G : Disk} {l : Location} {dir source copy : Path}

open Disk

/-- What is taken for a copy is a file of its length. -/
theorem exists_find_of_hasCopy {d : Disk} {length : Nat} (h : hasCopy d copy length = true) :
    ∃ bytes, d.find copy = .ok (.file bytes) ∧ bytes.size = length := by
  unfold hasCopy at h
  split at h
  · rename_i bytes hfind
    exact ⟨bytes, hfind, by simpa using h⟩
  · simp at h

theorem hasCopy_eq (h : Edited l F G) (hp : Spares l F G copy) (hend : copy.normalize F.cwd ≠ l)
    (length : Nat) : hasCopy F copy length = hasCopy G copy length := by
  unfold hasCopy
  rw [h.find_eq hp hend]

theorem readCopy_eq (h : Edited l F G) (hp : Spares l F G copy)
    (hend : copy.normalize F.cwd ≠ l) (fingerprint : String) :
    readCopy F source copy fingerprint = readCopy G source copy fingerprint := by
  unfold readCopy
  rw [readText_congr (h.find_eq hp hend)]

/-- A copy is made alike on both disks. -/
theorem answers_makeCopy {above : Path} (habove : copy.parent? = some above)
    (h : Edited l F G) (hp : Spares l F G copy) (hend : copy.normalize F.cwd ≠ l)
    (bytes : ByteArray) : Answers l F G (makeCopy F copy bytes) (makeCopy G copy bytes) := by
  have hway : Spares l F G above := hp.imp_right fun hway m hm => hway m (places_parent habove hm)
  obtain ⟨F', G', a, hF, hG, hon⟩ :=
    (answers_createDirectoriesWithin h hway (above.segments.length + 1)).exists_answer
  unfold makeCopy createDirectories
  rw [habove, Option.getD_some, hF, hG]
  cases a with
  | some fault => exact ⟨rfl, hon⟩
  | none =>
    have hend' : copy.normalize F'.cwd ≠ l := by rw [hon.cwd_eq]; exact hend
    rcases writeFile_cases hon.edited (hon.spares hp) hend' bytes with
      ⟨fault, hF, hG⟩ | ⟨F'', G'', hF, hG, hon'⟩
    · simp only [hF, hG]
      exact ⟨rfl, hon⟩
    · simp only [hF, hG]
      exact ⟨rfl, hon.trans hon'⟩

/-! ### Loading -/

/-- Where the copy of an analyzer with some bytes lies. -/
def copyOf (dir source : Path) (bytes : ByteArray) : Option Path :=
  source.fileName?.map fun name =>
    (dir.join (.ofText (Blake3.fingerprint bytes))).join ⟨[name.text]⟩

theorem copyOf_eq {name : Name} (h : source.fileName? = some name) (dir : Path)
    (bytes : ByteArray) : copyOf dir source bytes =
      some ((dir.join (.ofText (Blake3.fingerprint bytes))).join ⟨[name.text]⟩) := by
  rw [copyOf, h]
  rfl

/-- A copy lies in a directory. -/
theorem exists_parent_of_copyOf {bytes : ByteArray} (h : copyOf dir source bytes = some copy) :
    ∃ above, copy.parent? = some above := by
  obtain ⟨name, -, rfl⟩ := Option.map_eq_some_iff.1 h
  have hidle : Path.isIdle name.text = false := by
    obtain ⟨hempty, hdot, -⟩ := name.legal
    simp [Path.isIdle, hempty, hdot]
  generalize dir.join (.ofText (Blake3.fingerprint bytes)) = p
  obtain ⟨front, hfront⟩ : ∃ front, p.join ⟨[name.text]⟩ = ⟨front ++ [name.text]⟩ := by
    unfold Path.join
    split
    · exact ⟨[], rfl⟩
    · split
      · exact ⟨p.segments.dropLast, rfl⟩
      · exact ⟨p.segments, rfl⟩
  rw [hfront]
  exact Path.exists_parent hidle

/-- An edit of a place does not touch an analyzer: neither its file nor any copy of it
lies there, and the ways to them are spared. -/
structure Untouched (l : Location) (F G : Disk) (dir source : Path) : Prop where
  source_spares : Spares l F G source
  source_ne : source.normalize F.cwd ≠ l
  copy_spares : ∀ bytes copy, copyOf dir source bytes = some copy → Spares l F G copy
  copy_ne : ∀ bytes copy, copyOf dir source bytes = some copy → copy.normalize F.cwd ≠ l

theorem Untouched.onward {F' G' : Disk} (h : Onward l F G F' G')
    (hs : Untouched l F G dir source) : Untouched l F' G' dir source where
  source_spares := h.spares hs.source_spares
  source_ne := h.cwd_eq ▸ hs.source_ne
  copy_spares bytes copy hcopy := h.spares (hs.copy_spares bytes copy hcopy)
  copy_ne := h.cwd_eq ▸ hs.copy_ne

/-- An analyzer that an edit does not touch is loaded alike. -/
theorem answers_loadAnalyzer (h : Edited l F G) (hs : Untouched l F G dir source) :
    Answers l F G (loadAnalyzer dir F source) (loadAnalyzer dir G source) := by
  unfold loadAnalyzer
  rw [← readBytes_congr (h.find_eq hs.source_spares hs.source_ne)]
  cases hread : F.readBytes source with
  | error fault => cases fault <;> exact ⟨rfl, .refl h⟩
  | ok bytes =>
    cases hname : source.fileName? with
    | none => exact ⟨rfl, .refl h⟩
    | some name =>
      have hcopy := copyOf_eq hname dir bytes
      have hspares := hs.copy_spares bytes _ hcopy
      have hne := hs.copy_ne bytes _ hcopy
      obtain ⟨above, habove⟩ := exists_parent_of_copyOf hcopy
      simp only
      rw [← hasCopy_eq h hspares hne]
      split
      · exact ⟨readCopy_eq h hspares hne _, .refl h⟩
      · obtain ⟨F', G', a, hF, hG, hon⟩ :=
          (answers_makeCopy habove h hspares hne bytes).exists_answer
        rw [hF, hG]
        cases a with
        | some fault => exact ⟨rfl, hon⟩
        | none =>
          exact ⟨readCopy_eq hon.edited (hon.spares hspares) (hon.cwd_eq ▸ hne) _, hon⟩

/-- **Analyzers that an edit does not touch are loaded alike.** -/
theorem answers_loadInto {sources : List Path} (h : Edited l F G)
    (hs : ∀ source ∈ sources, Untouched l F G dir source) :
    Answers l F G (loadInto dir F sources) (loadInto dir G sources) := by
  induction sources generalizing F G with
  | nil => exact ⟨rfl, .refl h⟩
  | cons source sources ih =>
    obtain ⟨houtcome, hon⟩ := answers_loadAnalyzer h (hs source List.mem_cons_self)
    obtain ⟨hreport, hon'⟩ := ih hon.edited fun s hmem =>
      (hs s (List.mem_cons_of_mem _ hmem)).onward hon
    simp only [loadInto]
    rw [← houtcome, ← hreport]
    cases (loadAnalyzer dir F source).2 with
    | ok a => exact ⟨rfl, hon.trans hon'⟩
    | error fault => exact ⟨rfl, hon.trans hon'⟩

end Analyzer
end LintWorkspace
