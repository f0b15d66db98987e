/-
# What copies leave to the next one

On a tree everything about a copy is decided by where it lies and what stands there (`shelve`):

| at the place of the copy | the copy |
| --- | --- |
| a directory | `isDirectory` |
| a file of the right length | is that file |
| another file, or nothing in a directory or below nothing | is written |
| nothing, and the shelf is a file | `exists` |
| nothing, and a file stands in the way | `notDirectory` |

A disk on which copies were made is the disk before with their files and the directories on
their way (`Filled`), whatever their order.  Copies all lie on one level, so none is in the way
of another one, and two at one place have the same contents if no fingerprint is shared.  So
whoever loads analyzers that lie aside (`Aside`) after others did gets the same answers
(`loadedAllAlike`).
-/

import LintWorkspace.Proofs.Store
import LintWorkspace.Proofs.Tree

namespace LintWorkspace

namespace Disk

variable {d e f : Disk} {files more : List (Location × ByteArray)} {l m : Location}

/-! ### Disks with more files -/

/-- A disk has become another one by files at some places and the directories on the way. -/
structure Filled (files : List (Location × ByteArray)) (d e : Disk) : Prop where
  cwd_eq : e.cwd = d.cwd
  file : ∀ x ∈ files, e.entryAt x.1 = some (.file x.2)
  way : ∀ x ∈ files, ∀ l, x.1.parent.isWithin l = true → e.entryAt l = some .directory
  rest : ∀ l, (∀ x ∈ files, x.1 ≠ l ∧ x.1.parent.isWithin l = false) → e.entryAt l = d.entryAt l

theorem Filled.refl (d : Disk) : Filled [] d d :=
  ⟨rfl, by simp, by simp, fun _ _ => rfl⟩

/-- A place is one of the files, lies on the way of one, or is left as it was. -/
theorem Filled.entryAt_cases (h : Filled files d e) (l : Location) :
    (∃ x ∈ files, x.1 = l ∧ e.entryAt l = some (.file x.2)) ∨
      (∃ x ∈ files, x.1.parent.isWithin l = true ∧ e.entryAt l = some .directory) ∨
      ((∀ x ∈ files, x.1 ≠ l ∧ x.1.parent.isWithin l = false) ∧ e.entryAt l = d.entryAt l) := by
  by_cases hfile : ∃ x ∈ files, x.1 = l
  · obtain ⟨x, hx, rfl⟩ := hfile
    exact .inl ⟨x, hx, rfl, h.file x hx⟩
  · by_cases hway : ∃ x ∈ files, x.1.parent.isWithin l = true
    · obtain ⟨x, hx, hw⟩ := hway
      exact .inr (.inl ⟨x, hx, hw, h.way x hx l hw⟩)
    · have hnone : ∀ x ∈ files, x.1 ≠ l ∧ x.1.parent.isWithin l = false := fun x hx =>
        ⟨fun heq => hfile ⟨x, hx, heq⟩, by simpa using fun hw => hway ⟨x, hx, hw⟩⟩
      exact .inr (.inr ⟨hnone, h.rest l hnone⟩)

/-- **Which files there are decides what the disk is,** not their order. -/
theorem Filled.entryAt_congr (h : Filled files d e) (h' : Filled more d f)
    (hsame : ∀ x, x ∈ files ↔ x ∈ more) (l : Location) : e.entryAt l = f.entryAt l := by
  rcases h.entryAt_cases l with ⟨x, hx, rfl, he⟩ | ⟨x, hx, hw, he⟩ | ⟨hrest, he⟩
  · rw [he, h'.file x ((hsame x).1 hx)]
  · rw [he, h'.way x ((hsame x).1 hx) l hw]
  · rw [he, h'.rest l fun x hx => hrest x ((hsame x).2 hx)]

/-- A place on the way of a file lies above it. -/
theorem length_lt_of_way {x : Location} (hx : x ≠ .root) (hw : x.parent.isWithin l = true) :
    l.names.length < x.names.length := by
  have hle := (Location.isWithin_iff.1 hw).length_le
  have hpos : 0 < x.names.length := List.length_pos_iff.2 fun hnil =>
    hx (by obtain ⟨names⟩ := x; exact congrArg Location.mk hnil)
  rw [Location.parent, List.length_dropLast] at hle
  omega

theorem parent_not_isWithin (hl : l ≠ .root) : l.parent.isWithin l = false :=
  Bool.eq_false_iff.2 fun hw => absurd (length_lt_of_way hl hw) (Nat.lt_irrefl _)

theorem Filled.ne_root (h : Filled files d e) {x : Location × ByteArray} (hx : x ∈ files) :
    x.1 ≠ .root := by
  intro hroot
  have hfile := h.file x hx
  rw [hroot] at hfile
  simp [entryAt] at hfile

/-- More files on the same level. -/
theorem Filled.trans (h : Filled files d e) (h' : Filled more e f)
    (hlevel : ∀ x ∈ files, ∀ y ∈ more, x.1.names.length = y.1.names.length)
    (hsame : ∀ x ∈ files, ∀ y ∈ more, x.1 = y.1 → x.2 = y.2) : Filled (files ++ more) d f where
  cwd_eq := h'.cwd_eq.trans h.cwd_eq
  file x hx := by
    rcases List.mem_append.1 hx with hx | hx
    · rcases h'.entryAt_cases x.1 with ⟨y, hy, heq, hf⟩ | ⟨y, hy, hw, -⟩ | ⟨-, hf⟩
      · rw [hf, hsame x hx y hy heq.symm]
      · have hlt := length_lt_of_way (h'.ne_root hy) hw
        rw [hlevel x hx y hy] at hlt
        exact absurd hlt (Nat.lt_irrefl _)
      · rw [hf, h.file x hx]
    · exact h'.file x hx
  way x hx l hw := by
    rcases List.mem_append.1 hx with hx | hx
    · rcases h'.entryAt_cases l with ⟨y, hy, rfl, -⟩ | ⟨-, -, -, hf⟩ | ⟨-, hf⟩
      · have hlt := length_lt_of_way (h.ne_root hx) hw
        rw [hlevel x hx y hy] at hlt
        exact absurd hlt (Nat.lt_irrefl _)
      · exact hf
      · rw [hf, h.way x hx l hw]
    · exact h'.way x hx l hw
  rest l hl := by
    rw [h'.rest l fun x hx => hl x (List.mem_append_right _ hx),
      h.rest l fun x hx => hl x (List.mem_append_left _ hx)]

/-- A file that is there. -/
theorem Tree.filled_self {bytes : ByteArray} (hd : d.Tree)
    (hl : d.entryAt l = some (.file bytes)) : Filled [(l, bytes)] d d where
  cwd_eq := rfl
  file x hx := by
    rw [List.mem_singleton.1 hx, hl]
  way x hx m hw := by
    obtain rfl := List.mem_singleton.1 hx
    have hparent := hd.parent l (by simp [hl])
    by_cases hm : l.parent = m
    · rw [← hm, hparent]
    · exact hd.directory_of_isWithin (by simp [hparent]) hw hm
  rest _ _ := rfl

/-- A file that is put where there are directories all the way. -/
theorem filled_put (hl : l ≠ .root) (hcwd : e.cwd = d.cwd)
    (hentries : ∀ m, e.entryAt m =
      if l.parent.isWithin m then some .directory else d.entryAt m) (bytes : ByteArray) :
    Filled [(l, bytes)] d (e.put l (.file bytes)) where
  cwd_eq := hcwd
  file x hx := by
    rw [List.mem_singleton.1 hx, entryAt_put e l _ _ hl, if_pos rfl]
  way x hx m hw := by
    obtain rfl := List.mem_singleton.1 hx
    have hne : l ≠ m := by
      rintro rfl
      simp [parent_not_isWithin hl] at hw
    rw [entryAt_put e l _ _ hl, if_neg hne, hentries, if_pos hw]
  rest m hm := by
    obtain ⟨hne, hw⟩ := hm (l, bytes) (List.mem_singleton.2 rfl)
    rw [entryAt_put e l _ _ hl, if_neg hne, hentries, if_neg (by simp [hw])]

end Disk

/-! ### Places of copies -/

namespace Path

/-- A name behind a straight path. -/
theorem Straight.named_join {p : Path} (h : p.Straight) (n : Name) :
    (p.join ⟨[n.text]⟩).Named := by
  have hlast : ∀ front : List String, (∀ s ∈ front, isIdle s = true ∨ IsName s) →
      Named ⟨front ++ [n.text]⟩ := fun front hfront =>
    ⟨fun s hs => (List.mem_append.1 hs).elim (hfront s) fun hs =>
      .inr (List.mem_singleton.1 hs ▸ n.legal), front, n, rfl⟩
  unfold join
  split
  · exact hlast [] (by simp)
  · split
    · exact hlast _ fun s hs => h s (List.dropLast_subset _ hs)
    · exact hlast _ h

end Path

namespace Analyzer

open Disk

variable {d e f : Disk} {staging source copy : Path} {project : String} {bytes found : ByteArray}
  {top l : Location} {known : List ByteArray} {files : List (Location × ByteArray)}
  {fault : DiskFault}

/-- What a copy of some bytes at a place comes to: the contents that are there afterwards, or
the fault. -/
def shelve (d : Disk) (l : Location) (bytes : ByteArray) : Except DiskFault ByteArray :=
  match d.entryAt l with
  | some .directory => .error .isDirectory
  | some (.file found) => .ok (if found.size = bytes.size then found else bytes)
  | none =>
    if d.HasFile l.parent then .error .exists
    else if d.Barred l.parent then .error .notDirectory
    else .ok bytes

/-- Where a copy can lie, no file is in the way. -/
theorem not_barred_of_shelve (hd : d.Tree) (h : shelve d l bytes = .ok found) :
    ¬ d.Barred l.parent := by
  unfold shelve at h
  split at h
  · simp at h
  · rename_i b hentry
    exact hd.not_barred (hd.parent l (by simp [hentry]))
  · split at h
    · simp at h
    · split at h
      · simp at h
      · assumption

theorem ne_directory_of_shelve (h : shelve d l bytes = .ok found) :
    d.entryAt l ≠ some .directory := by
  intro hdir
  simp [shelve, hdir] at h

/-- A copy that was made is taken for the right one. -/
theorem reused_of_shelve (h : shelve d l bytes = .ok found) :
    (if found.size = bytes.size then found else bytes) = found := by
  unfold shelve at h
  split at h
  · simp at h
  · rename_i b _
    obtain rfl := Except.ok.inj h
    by_cases hsize : b.size = bytes.size
    · simp [hsize]
    · simp [hsize]
  · split at h
    · simp at h
    · split at h
      · simp at h
      · obtain rfl := Except.ok.inj h
        exact if_pos rfl

/-- The copy of an analyzer in the staging tree of an ordinary project. -/
structure Shelf (staging : Path) (project : String) (source copy : Path) (bytes : ByteArray) :
    Prop where
  straight : staging.Straight
  ordinary : Ordinary project
  copyOf_eq : copyOf (stagingDirectory staging project) source bytes = some copy

theorem Shelf.named (h : Shelf staging project source copy bytes) : copy.Named := by
  obtain ⟨name, -, rfl⟩ := Option.map_eq_some_iff.1 h.copyOf_eq
  have hhome : (staging.join ⟨[safeText project]⟩).Named :=
    h.straight.named_join ⟨_, isName_safeText h.ordinary⟩
  rw [stagingDirectory_eq, Blake3.ofText_fingerprint]
  have hshelf := hhome.straight.named_join ⟨_, Blake3.isName_fingerprint bytes⟩
  exact hshelf.straight.named_join name

/-- Loading reads the copy that is there, or makes it. -/
theorem loadAnalyzer_eq {dir : Path} (hread : d.readBytes source = .ok bytes)
    (hcopy : copyOf dir source bytes = some copy) : loadAnalyzer dir d source =
      if hasCopy d copy bytes.size then (d, readCopy d source copy (Blake3.fingerprint bytes))
      else match makeCopy d copy bytes with
        | (e, some fault) => (e, .error (.copy source fault))
        | (e, none) => (e, readCopy e source copy (Blake3.fingerprint bytes)) := by
  obtain ⟨name, hname, hplace⟩ := Option.map_eq_some_iff.1 hcopy
  by_cases hhas : hasCopy d copy bytes.size = true
  · simp [loadAnalyzer, hread, hname, hplace, hhas]
  · rcases hmade : makeCopy d copy bytes with ⟨e, _ | fault⟩ <;>
      simp [loadAnalyzer, hread, hname, hplace, hhas, hmade]

/-- A copy with a file in the way is not made. -/
theorem makeCopy_of_barred (hd : d.Tree) (hp : copy.Named)
    (hbarred : d.Barred (copy.normalize d.cwd).parent) (bytes : ByteArray) :
    makeCopy d copy bytes =
      (d, some (if d.HasFile (copy.normalize d.cwd).parent then .exists else .notDirectory)) := by
  obtain ⟨above, habove, hends, hplace, -⟩ := hp.exists_parent d.cwd
  rw [← hplace] at hbarred ⊢
  have hnamed : above.Named := hends.resolve_right fun hstart =>
    hd.not_barred (hd.createDirectoriesWithin_of_isStart hstart 0).2 hbarred
  simp [makeCopy, habove, hd.createDirectories_of_barred hnamed hbarred]

/-- With directories all the way a copy is made, unless there is a directory in its place. -/
theorem exists_makeCopy_of_createDirectories {above : Path} (habove : copy.parent? = some above)
    (hmade : d.createDirectories above = (e, none)) (hcwd : e.cwd = d.cwd)
    (hentries : ∀ l, e.entryAt l = if (copy.normalize d.cwd).parent.isWithin l then
      some .directory else d.entryAt l)
    (hroot : copy.normalize d.cwd ≠ .root)
    (hlocate : e.locate copy = .ok (copy.normalize d.cwd)) (bytes : ByteArray) :
    ∃ e : Disk, e.cwd = d.cwd ∧
      (∀ l, e.entryAt l = if (copy.normalize d.cwd).parent.isWithin l then some .directory
        else d.entryAt l) ∧
      makeCopy d copy bytes =
        if d.entryAt (copy.normalize d.cwd) = some .directory then (e, some .isDirectory)
        else (e.put (copy.normalize d.cwd) (.file bytes), none) := by
  have hparent : e.entryAt (copy.normalize d.cwd).parent = some .directory := by
    rw [hentries, if_pos (Location.isWithin_self _)]
  have hplaceless : e.entryAt (copy.normalize d.cwd) = d.entryAt (copy.normalize d.cwd) := by
    rw [hentries, if_neg (by simp [parent_not_isWithin hroot])]
  refine ⟨e, hcwd, hentries, ?_⟩
  rw [makeCopy, habove, Option.getD_some, hmade]
  simp only [writeFile_eq hlocate, hplaceless, hparent]
  by_cases hdir : d.entryAt (copy.normalize d.cwd) = some .directory
  · rw [if_pos hdir, if_pos hdir]
  · rw [if_neg hdir, if_neg hdir]

/-- With no file in the way there are directories all the way, and the copy is made unless
there is a directory in its place. -/
theorem exists_makeCopy (hd : d.Tree) (hp : copy.Named)
    (hfree : ¬ d.Barred (copy.normalize d.cwd).parent) (bytes : ByteArray) :
    ∃ e : Disk, e.cwd = d.cwd ∧
      (∀ l, e.entryAt l = if (copy.normalize d.cwd).parent.isWithin l then some .directory
        else d.entryAt l) ∧
      makeCopy d copy bytes =
        if d.entryAt (copy.normalize d.cwd) = some .directory then (e, some .isDirectory)
        else (e.put (copy.normalize d.cwd) (.file bytes), none) := by
  obtain ⟨above, habove, hends, hplace, -⟩ := hp.exists_parent d.cwd
  rw [← hplace] at hfree
  obtain ⟨e, hmade, htree, hcwd, hentries⟩ := hd.exists_createDirectories hends hfree
  rw [hplace] at hentries
  refine exists_makeCopy_of_createDirectories habove hmade hcwd hentries (hp.ne_root d.cwd) ?_ bytes
  rw [htree.locate_eq hp, hcwd, hentries, if_pos (Location.isWithin_self _)]

/-- A path of a copy on which nothing but its place decides what is found and what is made. -/
structure Regular (d : Disk) (copy : Path) : Prop where
  ne_root : copy.normalize d.cwd ≠ .root
  find_file : ∀ b, d.entryAt (copy.normalize d.cwd) = some (.file b) → d.find copy = .ok (.file b)
  barred : d.Barred (copy.normalize d.cwd).parent → ∀ bytes, makeCopy d copy bytes =
    (d, some (if d.HasFile (copy.normalize d.cwd).parent then .exists else .notDirectory))
  free : ¬ d.Barred (copy.normalize d.cwd).parent → ∀ bytes, ∃ e : Disk, e.cwd = d.cwd ∧
    (∀ l, e.entryAt l = if (copy.normalize d.cwd).parent.isWithin l then some .directory
      else d.entryAt l) ∧
    makeCopy d copy bytes =
      if d.entryAt (copy.normalize d.cwd) = some .directory then (e, some .isDirectory)
      else (e.put (copy.normalize d.cwd) (.file bytes), none)

theorem regular_of_named (hd : d.Tree) (hp : copy.Named) : Regular d copy where
  ne_root := hp.ne_root d.cwd
  find_file b hentry := by rw [hd.find_eq hp, hentry]
  barred hbarred := makeCopy_of_barred hd hp hbarred
  free hfree := exists_makeCopy hd hp hfree

/-- There is a copy where a file of the right length is. -/
theorem hasCopy_iff (h : Regular d copy) (length : Nat) : hasCopy d copy length = true ↔
    ∃ b : ByteArray, d.entryAt (copy.normalize d.cwd) = some (.file b) ∧ b.size = length := by
  constructor
  · intro hhas
    obtain ⟨b, hfind, hsize⟩ := exists_find_of_hasCopy hhas
    exact ⟨b, (find_eq_ok_iff.1 hfind).2, hsize⟩
  · rintro ⟨b, hentry, rfl⟩
    simp [hasCopy, h.find_file b hentry]

/-- A copy that is there reads as what is there. -/
theorem readBytes_of_regular (h : Regular d copy)
    (hentry : d.entryAt (copy.normalize d.cwd) = some (.file found)) :
    d.readBytes copy = .ok found := by
  exact readBytes_eq_ok_iff_find.2 (h.find_file found hentry)

/-- **A copy that comes to a fault** changes nothing. -/
theorem loadAnalyzer_of_shelve_error {dir : Path} (hd : d.Tree) (h : Regular d copy)
    (hcopy : copyOf dir source bytes = some copy) (hread : d.readBytes source = .ok bytes)
    (hfault : shelve d (copy.normalize d.cwd) bytes = .error fault) :
    ∃ e, loadAnalyzer dir d source = (e, .error (.copy source fault)) ∧ Filled [] d e := by
  have hnone : (∀ b, d.entryAt (copy.normalize d.cwd) ≠ some (.file b)) →
      hasCopy d copy bytes.size = false := fun hno => Bool.eq_false_iff.2 fun hhas => by
    obtain ⟨b, hentry, -⟩ := (hasCopy_iff h _).1 hhas
    exact hno b hentry
  rw [loadAnalyzer_eq hread hcopy]
  unfold shelve at hfault
  split at hfault
  · -- a directory is in the place of the copy, so there are directories all the way
    rename_i hdir
    have hparent := hd.parent (copy.normalize d.cwd) (by simp [hdir])
    obtain ⟨e, hcwd, hentries, hmade⟩ := h.free (hd.not_barred hparent) bytes
    obtain rfl := Except.error.inj hfault
    refine ⟨e, ?_, hcwd, by simp, by simp, fun l _ => ?_⟩
    · simp [hnone (by simp [hdir]), hdir, hmade]
    · rw [hentries]
      split
      · rename_i hw
        by_cases hl : (copy.normalize d.cwd).parent = l
        · rw [← hl, hparent]
        · rw [hd.directory_of_isWithin (by simp [hparent]) hw hl]
      · rfl
  · simp at hfault
  · rename_i hempty
    have hbarred : d.Barred (copy.normalize d.cwd).parent := by
      split at hfault
      · exact ⟨_, Location.isWithin_self _, ‹_›⟩
      · split at hfault
        · assumption
        · simp at hfault
    have hmade := h.barred hbarred bytes
    refine ⟨d, ?_, .refl d⟩
    simp only [if_pos hbarred] at hfault
    by_cases hfile : d.HasFile (copy.normalize d.cwd).parent
    · rw [if_pos hfile] at hfault hmade
      obtain rfl := Except.error.inj hfault
      simp [hnone (by simp [hempty]), hmade]
    · rw [if_neg hfile] at hfault hmade
      obtain rfl := Except.error.inj hfault
      simp [hnone (by simp [hempty]), hmade]

/-- **A copy that comes to contents** leaves them at its place, and is read. -/
theorem loadAnalyzer_of_shelve_ok {dir : Path} (hd : d.Tree) (h : Regular d copy)
    (hcopy : copyOf dir source bytes = some copy) (hread : d.readBytes source = .ok bytes)
    (hfound : shelve d (copy.normalize d.cwd) bytes = .ok found) :
    ∃ e, loadAnalyzer dir d source = (e, readCopy e source copy (Blake3.fingerprint bytes)) ∧
      Filled [(copy.normalize d.cwd, found)] d e := by
  have hfree := not_barred_of_shelve hd hfound
  have hnot := ne_directory_of_shelve hfound
  rw [loadAnalyzer_eq hread hcopy]
  by_cases hhas : hasCopy d copy bytes.size = true
  · obtain ⟨b, hentry, hsize⟩ := (hasCopy_iff h _).1 hhas
    obtain rfl : b = found := by simpa [shelve, hentry, hsize] using hfound
    exact ⟨d, by rw [if_pos hhas], hd.filled_self hentry⟩
  · obtain rfl : bytes = found := by
      rw [hasCopy_iff h] at hhas
      unfold shelve at hfound
      split at hfound
      · simp at hfound
      · rename_i b hentry
        rw [if_neg fun hsize => hhas ⟨b, hentry, hsize⟩] at hfound
        exact Except.ok.inj hfound
      · split at hfound
        · simp at hfound
        · exact Except.ok.inj hfound
    obtain ⟨e, hcwd, hentries, hmade⟩ := h.free hfree bytes
    rw [if_neg hnot] at hmade
    exact ⟨_, by rw [if_neg hhas, hmade], filled_put h.ne_root hcwd hentries bytes⟩

/-! ### Copies that were made -/

/-- Every file is what a copy of some bytes comes to on a disk. -/
def Shelvable (d : Disk) (files : List (Location × ByteArray)) : Prop :=
  ∀ x ∈ files, ∃ bytes, shelve d x.1 bytes = .ok x.2

theorem Shelvable.append {more : List (Location × ByteArray)} (h : Shelvable d files)
    (h' : Shelvable d more) : Shelvable d (files ++ more) := fun x hx =>
  (List.mem_append.1 hx).elim (h x) (h' x)

theorem Shelvable.ne_directory (h : Shelvable d files) {x : Location × ByteArray}
    (hx : x ∈ files) : d.entryAt x.1 ≠ some .directory := by
  obtain ⟨bytes, hshelve⟩ := h x hx
  exact ne_directory_of_shelve hshelve

/-- No file is in the way of a copy. -/
theorem Shelvable.not_hasFile (hd : d.Tree) (h : Shelvable d files) {x : Location × ByteArray}
    (hx : x ∈ files) (hw : x.1.parent.isWithin l = true) : ¬ d.HasFile l := fun hfile => by
  obtain ⟨bytes, hshelve⟩ := h x hx
  exact not_barred_of_shelve hd hshelve ⟨l, hw, hfile⟩

section Made

variable (hd : d.Tree) (h : Filled files d e) (hmade : Shelvable d files)
include hd h hmade

/-- Making copies turns no file into a directory and none away. -/
theorem hasFile_iff_of_filled (hl : ∀ x ∈ files, x.1 ≠ l) : e.HasFile l ↔ d.HasFile l := by
  rcases h.entryAt_cases l with ⟨x, hx, rfl, -⟩ | ⟨x, hx, hw, he⟩ | ⟨-, he⟩
  · exact absurd rfl (hl x hx)
  · refine iff_of_false ?_ (hmade.not_hasFile hd hx hw)
    rintro ⟨bytes, hfile⟩
    simp [he] at hfile
  · rw [HasFile, HasFile, he]

/-- No copy is in the way of what has no copy above it. -/
theorem barred_iff_of_filled (hl : ∀ x ∈ files, l.isWithin x.1 = false) :
    e.Barred l ↔ d.Barred l := by
  refine exists_congr fun m => and_congr_right fun hw => hasFile_iff_of_filled hd h hmade ?_
  rintro x hx rfl
  simp [hl x hx] at hw

theorem tree_of_filled : e.Tree where
  cwd := by
    rw [h.cwd_eq]
    rcases h.entryAt_cases d.cwd with ⟨x, hx, hcwd, -⟩ | ⟨-, -, -, he⟩ | ⟨-, he⟩
    · exact absurd (hcwd ▸ hd.cwd) (hmade.ne_directory hx)
    · exact he
    · rw [he, hd.cwd]
  parent l hl := by
    rcases h.entryAt_cases l with ⟨x, hx, rfl, -⟩ | ⟨x, hx, hw, -⟩ | ⟨-, he⟩
    · exact h.way x hx _ (Location.isWithin_self _)
    · exact h.way x hx _ (Location.isWithin_trans hw (Location.isWithin_parent l))
    · have hparent := hd.parent l (he ▸ hl)
      rcases h.entryAt_cases l.parent with ⟨x, hx, heq, -⟩ | ⟨-, -, -, he'⟩ | ⟨-, he'⟩
      · exact absurd (heq ▸ hparent) (hmade.ne_directory hx)
      · exact he'
      · rw [he', hparent]

/-- Making copies below a place is growth. -/
theorem grown_of_filled (hbelow : ∀ x ∈ files, x.1.LiesBelow top) : Grown top d e where
  cwd_eq := h.cwd_eq
  directory l hl := by
    rcases h.entryAt_cases l with ⟨x, hx, rfl, -⟩ | ⟨-, -, -, he⟩ | ⟨-, he⟩
    · exact absurd hl (hmade.ne_directory hx)
    · exact he
    · rw [he, hl]
  file l hl := by
    rcases h.entryAt_cases l with ⟨x, hx, rfl, he⟩ | ⟨x, hx, hw, -⟩ | ⟨-, he⟩
    · exact ⟨_, he⟩
    · exact absurd hl (hmade.not_hasFile hd hx hw)
    · rwa [HasFile, he]
  fresh l hl := by
    rcases h.entryAt_cases l with ⟨x, hx, rfl, he⟩ | ⟨x, hx, -, he⟩ | ⟨-, he⟩
    · exact .inr (hbelow x hx)
    · obtain ⟨bytes, hfile⟩ := hl
      simp [he] at hfile
    · left
      rwa [HasFile, ← he]
  kept l bytes hl hfile := by
    rcases h.entryAt_cases l with ⟨x, hx, rfl, -⟩ | ⟨x, hx, hw, -⟩ | ⟨-, he⟩
    · exact absurd (hbelow x hx) hl
    · exact absurd ⟨bytes, hfile⟩ (hmade.not_hasFile hd hx hw)
    · rw [he, hfile]

/-- **A copy comes to the same after others were made,** if they lie on its level and those at
its place are what it comes to. -/
theorem shelve_eq_of_level (hlevel : ∀ x ∈ files, x.1.names.length = l.names.length)
    (hsame : ∀ x ∈ files, x.1 = l → shelve d l bytes = .ok x.2) :
    shelve e l bytes = shelve d l bytes := by
  rcases h.entryAt_cases l with ⟨x, hx, rfl, he⟩ | ⟨x, hx, hw, -⟩ | ⟨-, he⟩
  · have hshelve := hsame x hx rfl
    rw [hshelve, shelve, he]
    simp only [reused_of_shelve hshelve]
  · have hlt := length_lt_of_way (h.ne_root hx) hw
    rw [hlevel x hx] at hlt
    exact absurd hlt (Nat.lt_irrefl _)
  · have hbelow : ∀ x ∈ files, l.parent.isWithin x.1 = false := fun x hx => by
      by_contra hw
      have hle := (Location.isWithin_iff.1 (Bool.not_eq_false _ ▸ hw)).length_le
      have hpos : 0 < x.1.names.length := List.length_pos_iff.2 fun hnil =>
        h.ne_root hx (congrArg Location.mk hnil)
      rw [Location.parent, List.length_dropLast, ← hlevel x hx] at hle
      omega
    have hfile : e.HasFile l.parent ↔ d.HasFile l.parent :=
      hasFile_iff_of_filled hd h hmade fun x hx heq => by
        simpa [heq] using hbelow x hx
    have hbarred := barred_iff_of_filled hd h hmade hbelow
    unfold shelve
    simp only [he, hfile, hbarred]

end Made

/-! ### Copies of known contents -/

/-- Every file is what a copy of some known contents comes to on a disk, on their shelf. -/
def Filed (top : Location) (known : List ByteArray) (d : Disk)
    (files : List (Location × ByteArray)) : Prop :=
  ∀ x ∈ files, ∃ bytes ∈ known, ∃ project name, Ordinary project ∧
    x.1 = (shelf top project bytes).child name ∧ shelve d x.1 bytes = .ok x.2

theorem Filed.append {more : List (Location × ByteArray)} (h : Filed top known d files)
    (h' : Filed top known d more) : Filed top known d (files ++ more) := fun x hx =>
  (List.mem_append.1 hx).elim (h x) (h' x)

/-- A shelf lies two levels below the staging tree. -/
theorem shelf_eq (top : Location) (hproject : Ordinary project) (bytes : ByteArray) :
    ∃ n, shelf top project bytes =
      (top.child n).child ⟨Blake3.fingerprint bytes, Blake3.isName_fingerprint bytes⟩ :=
  ⟨_, by rw [shelf, home_of_ordinary hproject]⟩

theorem Filed.liesBelow (h : Filed top known d files) {x : Location × ByteArray} (hx : x ∈ files) :
    x.1.LiesBelow top := by
  obtain ⟨bytes, -, project, name, hproject, hplace, -⟩ := h x hx
  obtain ⟨n, hshelf⟩ := shelf_eq top hproject bytes
  rw [hplace, hshelf]
  exact ((Location.liesBelow_child _ _).child _).child _

/-- All copies lie on one level. -/
theorem Filed.length_eq (h : Filed top known d files) {x : Location × ByteArray} (hx : x ∈ files) :
    x.1.names.length = top.names.length + 3 := by
  obtain ⟨bytes, -, project, name, hproject, hplace, -⟩ := h x hx
  obtain ⟨n, hshelf⟩ := shelf_eq top hproject bytes
  rw [hplace, hshelf]
  simp [Location.child]

theorem Filed.shelvable (h : Filed top known d files) : Shelvable d files := fun x hx => by
  obtain ⟨bytes, -, -, -, -, -, hshelve⟩ := h x hx
  exact ⟨bytes, hshelve⟩

/-- **Copies at one place have the same contents,** if no fingerprint is shared. -/
theorem Filed.shelve_eq (h : Filed top known d files) (hdistinct : Distinct known)
    {x : Location × ByteArray} (hx : x ∈ files) (hknown : bytes ∈ known) {name : Name}
    (hplace : x.1 = (shelf top project bytes).child name) : shelve d x.1 bytes = .ok x.2 := by
  obtain ⟨bytes', hknown', project', name', -, hplace', hshelve⟩ := h x hx
  have hshelf : shelf top project bytes = shelf top project' bytes' :=
    (Location.child_injective (hplace.symm.trans hplace')).1
  have hprint := (Location.child_injective hshelf).2
  obtain rfl := hdistinct _ hknown _ hknown' (congrArg Name.text hprint)
  exact hshelve

section Filled

variable (hd : d.Tree) (h : Filled files d e) (hfiled : Filed top known d files)
include hd h hfiled

/-- **A copy comes to the same after others were made,** if no fingerprint is shared. -/
theorem shelve_eq_of_filled (hdistinct : Distinct known) (hproject : Ordinary project)
    (hknown : bytes ∈ known) {name : Name} (hl : l = (shelf top project bytes).child name) :
    shelve e l bytes = shelve d l bytes := by
  have hlength : l.names.length = top.names.length + 3 := by
    obtain ⟨n, hshelf⟩ := shelf_eq top hproject bytes
    rw [hl, hshelf]
    simp [Location.child]
  refine shelve_eq_of_level hd h hfiled.shelvable (fun x hx => ?_) fun x hx heq => ?_
  · rw [hfiled.length_eq hx, hlength]
  · rw [← heq]
    exact hfiled.shelve_eq hdistinct hx hknown (heq.trans hl)

end Filled

/-! ### Reading beside the staging tree -/

/-- A place that does not lie below the staging tree, and stands already if it lies on the way
there. -/
def Aside (top : Location) (d : Disk) (l : Location) : Prop :=
  ¬ l.LiesBelow top ∧ (top.isWithin l = true → d.entryAt l ≠ none)

/-- **What lies aside is found as before.** -/
theorem find_eq_of_filled (hd : d.Tree) (h : Filled files d e) (hfiled : Filed top known d files)
    (hl : Aside top d l) : e.find l.toPath = d.find l.toPath := by
  by_cases hroot : l = .root
  · subst hroot
    rfl
  · have hentry : e.entryAt l = d.entryAt l := by
      rcases h.entryAt_cases l with ⟨x, hx, rfl, -⟩ | ⟨x, hx, hw, he⟩ | ⟨-, he⟩
      · exact absurd (hfiled.liesBelow hx) hl.1
      · -- a directory on the way to the staging tree stood already
        have habove : top.isWithin l = true :=
          (Location.isWithin_or (Location.isWithin_trans (Location.isWithin_parent x.1) hw)
            (hfiled.liesBelow hx).1).elim (fun hlt => by
              by_cases heq : l = top
              · rw [heq, Location.isWithin_self]
              · exact absurd ⟨hlt, heq⟩ hl.1) id
        obtain ⟨entry, hentry⟩ := Option.ne_none_iff_exists'.1 (hl.2 habove)
        cases entry with
        | directory => rw [he, hentry]
        | file bytes => exact absurd ⟨bytes, hentry⟩ (hfiled.shelvable.not_hasFile hd hx hw)
      · exact he
    have hbarred : e.Barred l ↔ d.Barred l :=
      barred_iff_of_filled hd h hfiled.shelvable fun x hx => by
        by_contra hw
        rw [Bool.not_eq_false] at hw
        refine hl.1 ⟨Location.isWithin_trans hw (hfiled.liesBelow hx).1, ?_⟩
        rintro rfl
        exact (hfiled.liesBelow hx).2
          (Location.isWithin_antisymm (hfiled.liesBelow hx).1 hw)
    have hnamed := Path.named_toPath hroot
    rw [(tree_of_filled hd h hfiled.shelvable).find_eq hnamed, hd.find_eq hnamed,
      Path.normalize_toPath, Path.normalize_toPath, hentry]
    simp only [hbarred]

/-! ### Loading after others did -/

/-- The file that loading an analyzer on a disk leaves. -/
def added (dir : Path) (d : Disk) (source : Path) : List (Location × ByteArray) :=
  match d.readBytes source with
  | .error _ => []
  | .ok bytes =>
    match copyOf dir source bytes with
    | none => []
    | some copy =>
      match shelve d (copy.normalize d.cwd) bytes with
      | .error _ => []
      | .ok found => [(copy.normalize d.cwd, found)]

theorem readCopy_congr (h : d.readBytes copy = e.readBytes copy) (fingerprint : String) :
    readCopy d source copy fingerprint = readCopy e source copy fingerprint := by
  unfold readCopy readText
  rw [h]

/-- Without bytes, or without a name for a copy of them, nothing happens. -/
theorem loadAnalyzer_of_unread {dir : Path}
    (h : ∀ bytes, d.readBytes source = .ok bytes → copyOf dir source bytes = none)
    (hread : e.readBytes source = d.readBytes source) :
    (loadAnalyzer dir e source).1 = e ∧
      (loadAnalyzer dir e source).2 = (loadAnalyzer dir d source).2 := by
  unfold loadAnalyzer
  rw [hread]
  cases hbytes : d.readBytes source with
  | error fault => cases fault <;> exact ⟨rfl, rfl⟩
  | ok bytes =>
    have hname : source.fileName? = none := by
      simpa [copyOf] using h bytes hbytes
    rw [hname]
    exact ⟨rfl, rfl⟩

/-- An analyzer is loaded with the same answer as on another disk, and leaves its file behind
those of others. -/
structure LoadedAfter (dir : Path) (d e : Disk) (files : List (Location × ByteArray))
    (source : Path) : Prop where
  answer_eq : (loadAnalyzer dir e source).2 = (loadAnalyzer dir d source).2
  filled : Filled (files ++ added dir d source) d (loadAnalyzer dir e source).1

/-- An analyzer without bytes, or without a name for a copy of them. -/
theorem loadedAfter_of_unread {dir : Path} (h : Filled files d e)
    (hread : e.readBytes source = d.readBytes source)
    (hunread : ∀ bytes, d.readBytes source = .ok bytes → copyOf dir source bytes = none) :
    LoadedAfter dir d e files source ∧ added dir d source = [] := by
  obtain ⟨hdisk, hanswer⟩ := loadAnalyzer_of_unread hunread hread
  have hadded : added dir d source = [] := by
    unfold added
    split
    · rfl
    · rename_i bytes hbytes
      rw [hunread bytes hbytes]
  refine ⟨⟨hanswer, ?_⟩, hadded⟩
  rw [hadded, List.append_nil, hdisk]
  exact h

section After

variable {dir : Path} (hd : d.Tree) (h : Filled files d e) (hmade : Shelvable d files)
  (hcopy : copyOf dir source bytes = some copy) (hbytes : d.readBytes source = .ok bytes)
  (hread : e.readBytes source = d.readBytes source)
  (hregular : ∀ f more, Filled more d f → Shelvable d more → Regular f copy)
  (hlevel : ∀ x ∈ files, x.1.names.length = (copy.normalize d.cwd).names.length)
  (hsame : ∀ x ∈ files, x.1 = copy.normalize d.cwd →
    shelve d (copy.normalize d.cwd) bytes = .ok x.2)
include hd h hmade hcopy hbytes hread hregular hlevel hsame

/-- An analyzer whose copy comes to a fault. -/
theorem loadedAfter_of_error (hshelve : shelve d (copy.normalize d.cwd) bytes = .error fault) :
    LoadedAfter dir d e files source ∧ added dir d source = [] := by
  have hshelve' : shelve e (copy.normalize e.cwd) bytes = .error fault := by
    rw [h.cwd_eq, shelve_eq_of_level hd h hmade hlevel hsame, hshelve]
  obtain ⟨e', hloade, hfillede⟩ := loadAnalyzer_of_shelve_error (tree_of_filled hd h hmade)
    (hregular e files h hmade) hcopy (hread.trans hbytes) hshelve'
  obtain ⟨d', hloadd, -⟩ := loadAnalyzer_of_shelve_error hd
    (hregular d [] (.refl d) (by simp [Shelvable])) hcopy hbytes hshelve
  have hadded : added dir d source = [] := by simp [added, hbytes, hcopy, hshelve]
  refine ⟨⟨by rw [hloade, hloadd], ?_⟩, hadded⟩
  rw [hadded, hloade]
  exact h.trans hfillede (by simp) (by simp)

/-- An analyzer whose copy comes to contents. -/
theorem loadedAfter_of_ok (hshelve : shelve d (copy.normalize d.cwd) bytes = .ok found) :
    LoadedAfter dir d e files source ∧
      added dir d source = [(copy.normalize d.cwd, found)] := by
  have hshelve' : shelve e (copy.normalize e.cwd) bytes = .ok found := by
    rw [h.cwd_eq, shelve_eq_of_level hd h hmade hlevel hsame, hshelve]
  obtain ⟨e', hloade, hfillede⟩ := loadAnalyzer_of_shelve_ok (tree_of_filled hd h hmade)
    (hregular e files h hmade) hcopy (hread.trans hbytes) hshelve'
  obtain ⟨d', hloadd, hfilledd⟩ := loadAnalyzer_of_shelve_ok hd
    (hregular d [] (.refl d) (by simp [Shelvable])) hcopy hbytes hshelve
  rw [h.cwd_eq] at hfillede
  have hadded : added dir d source = [(copy.normalize d.cwd, found)] := by
    simp [added, hbytes, hcopy, hshelve]
  have hone : Shelvable d [(copy.normalize d.cwd, found)] := fun x hx => by
    obtain rfl := List.mem_singleton.1 hx
    exact ⟨bytes, hshelve⟩
  have hfilled : Filled (files ++ [(copy.normalize d.cwd, found)]) d e' := by
    refine h.trans hfillede (fun x hx y hy => ?_) fun x hx y hy heq => ?_
    · obtain rfl := List.mem_singleton.1 hy
      exact hlevel x hx
    · obtain rfl := List.mem_singleton.1 hy
      exact (Except.ok.inj (hshelve.symm.trans (hsame x hx heq))).symm
  have hreads : ∀ (f : Disk) (more : List (Location × ByteArray)), Filled more d f →
      Shelvable d more → (copy.normalize d.cwd, found) ∈ more → f.readBytes copy = .ok found :=
    fun f more hf hmore hmem => readBytes_of_regular (hregular f more hf hmore) (by
      rw [hf.cwd_eq]
      exact hf.file _ hmem)
  refine ⟨⟨?_, ?_⟩, hadded⟩
  · rw [hloade, hloadd]
    refine readCopy_congr ?_ _
    rw [hreads e' _ hfilled (hmade.append hone) (by simp), hreads d' _ hfilledd hone (by simp)]
  · rw [hadded, hloade]
    exact hfilled

end After

/-- What one more load after others from the staging tree comes to. -/
structure LoadedAlike (top : Location) (known : List ByteArray) (dir : Path) (d e : Disk)
    (files : List (Location × ByteArray)) (source : Path) : Prop
    extends LoadedAfter dir d e files source where
  filed : Filed top known d (added dir d source)

/-- **An analyzer is loaded after others as it would be before them.** -/
theorem loadedAlike (hstraight : staging.Straight) (hproject : Ordinary project) (hd : d.Tree)
    (hdistinct : Distinct known) (h : Filled files d e)
    (hfiled : Filed (staging.normalize d.cwd) known d files)
    (hread : e.readBytes source = d.readBytes source)
    (hknown : ∀ bytes, d.readBytes source = .ok bytes → bytes ∈ known) :
    LoadedAlike (staging.normalize d.cwd) known (stagingDirectory staging project) d e files
      source := by
  by_cases hunread : ∀ bytes, d.readBytes source = .ok bytes →
      copyOf (stagingDirectory staging project) source bytes = none
  · obtain ⟨hafter, hadded⟩ := loadedAfter_of_unread h hread hunread
    exact ⟨hafter, by simp [hadded, Filed]⟩
  · push Not at hunread
    obtain ⟨bytes, hbytes, hsome⟩ := hunread
    obtain ⟨copy, hcopy⟩ := Option.ne_none_iff_exists'.1 hsome
    have hshelf : Shelf staging project source copy bytes := ⟨hstraight, hproject, hcopy⟩
    have hmem := hknown bytes hbytes
    obtain ⟨name, -, hplace⟩ := normalize_copyOf hcopy d.cwd
    have hregular : ∀ f more, Filled more d f → Shelvable d more → Regular f copy :=
      fun f more hf hmore => regular_of_named (tree_of_filled hd hf hmore) hshelf.named
    have hlength : (copy.normalize d.cwd).names.length =
        (staging.normalize d.cwd).names.length + 3 := by
      obtain ⟨n, hon⟩ := shelf_eq (staging.normalize d.cwd) hproject bytes
      rw [hplace, hon]
      simp [Location.child]
    have hlevel : ∀ x ∈ files, x.1.names.length = (copy.normalize d.cwd).names.length :=
      fun x hx => by rw [hfiled.length_eq hx, hlength]
    have hsame : ∀ x ∈ files, x.1 = copy.normalize d.cwd →
        shelve d (copy.normalize d.cwd) bytes = .ok x.2 := fun x hx heq => by
      rw [← heq]
      exact hfiled.shelve_eq hdistinct hx hmem (heq.trans hplace)
    cases hshelve : shelve d (copy.normalize d.cwd) bytes with
    | error fault =>
      obtain ⟨hafter, hadded⟩ := loadedAfter_of_error hd h hfiled.shelvable hcopy hbytes hread
        hregular hlevel hsame hshelve
      exact ⟨hafter, by simp [hadded, Filed]⟩
    | ok found =>
      obtain ⟨hafter, hadded⟩ := loadedAfter_of_ok hd h hfiled.shelvable hcopy hbytes hread
        hregular hlevel hsame hshelve
      refine ⟨hafter, fun x hx => ?_⟩
      rw [hadded] at hx
      obtain rfl := List.mem_singleton.1 hx
      exact ⟨bytes, hmem, project, name, hproject, hplace, hshelve⟩

/-- The report on outcomes, in order. -/
def LoadReport.ofOutcomes : List (Except LoadFault Loaded) → LoadReport
  | [] => .empty
  | .ok a :: outcomes =>
    { LoadReport.ofOutcomes outcomes with loaded := a :: (LoadReport.ofOutcomes outcomes).loaded }
  | .error fault :: outcomes =>
    { LoadReport.ofOutcomes outcomes with
      failures := fault :: (LoadReport.ofOutcomes outcomes).failures }

theorem report_loadInto_cons {dir : Path} {sources : List Path}
    {outcomes : List (Except LoadFault Loaded)}
    (h : (loadInto dir (loadAnalyzer dir d source).1 sources).2 = .ofOutcomes outcomes) :
    (loadInto dir d (source :: sources)).2 =
      .ofOutcomes ((loadAnalyzer dir d source).2 :: outcomes) := by
  rw [loadInto]
  simp only [h]
  split
  · rename_i hok
    rw [hok]
    rfl
  · rename_i herror
    rw [herror]
    rfl

/-- What several analyzers come to that are loaded after others. -/
structure LoadedAllAfter (dir : Path) (d e : Disk) (files : List (Location × ByteArray))
    (sources : List Path) : Prop where
  answer_eq : (loadInto dir e sources).2 =
    .ofOutcomes (sources.map fun source => (loadAnalyzer dir d source).2)
  filled : Filled (files ++ sources.flatMap (added dir d)) d (loadInto dir e sources).1

/-- **Analyzers are loaded after others as each of them is,** if the files that each of them
leaves behind those of others keep what this rests on. -/
theorem loadedAllAfter {dir : Path} {sources : List Path}
    {R : List (Location × ByteArray) → Prop}
    (hstep : ∀ e files, ∀ source ∈ sources, Filled files d e → R files →
      LoadedAfter dir d e files source ∧ R (files ++ added dir d source))
    (h : Filled files d e) (hrest : R files) :
    LoadedAllAfter dir d e files sources ∧ R (files ++ sources.flatMap (added dir d)) := by
  induction sources generalizing e files with
  | nil => exact ⟨⟨rfl, by simpa [loadInto] using h⟩, by simpa using hrest⟩
  | cons source sources ih =>
    obtain ⟨hfirst, hrest⟩ := hstep e files source List.mem_cons_self h hrest
    obtain ⟨hlater, hrest⟩ := ih (fun e files s hs => hstep e files s (List.mem_cons_of_mem _ hs))
      hfirst.filled hrest
    rw [List.flatMap_cons, ← List.append_assoc]
    refine ⟨⟨?_, ?_⟩, hrest⟩
    · rw [report_loadInto_cons hlater.answer_eq, hfirst.answer_eq, List.map_cons]
    · rw [disk_loadInto_cons, List.flatMap_cons, ← List.append_assoc]
      exact hlater.filled

/-- The analyzers at places can be loaded before or after others. -/
structure Loadable (top : Location) (known : List ByteArray) (d : Disk) (paths : List Location) :
    Prop where
  aside : ∀ a ∈ paths, Aside top d a
  known : ∀ a ∈ paths, ∀ bytes, d.readBytes a.toPath = .ok bytes → bytes ∈ known

/-- What several analyzers come to that are loaded after others from the staging tree. -/
structure LoadedAllAlike (top : Location) (known : List ByteArray) (dir : Path) (d e : Disk)
    (files : List (Location × ByteArray)) (sources : List Path) : Prop
    extends LoadedAllAfter dir d e files sources where
  filed : Filed top known d (sources.flatMap (added dir d))

/-- **Analyzers are loaded after others as they would be before them.** -/
theorem loadedAllAlike (hstraight : staging.Straight) (hproject : Ordinary project) (hd : d.Tree)
    (hdistinct : Distinct known) (h : Filled files d e)
    (hfiled : Filed (staging.normalize d.cwd) known d files) {paths : List Location}
    (hpaths : Loadable (staging.normalize d.cwd) known d paths) :
    LoadedAllAlike (staging.normalize d.cwd) known (stagingDirectory staging project) d e files
      (paths.map Location.toPath) := by
  obtain ⟨hafter, hrest⟩ := loadedAllAfter (R := Filed (staging.normalize d.cwd) known d)
    (fun e files source hsource h hfiled => by
      obtain ⟨a, ha, rfl⟩ := List.mem_map.1 hsource
      have halike := loadedAlike hstraight hproject hd hdistinct h hfiled
        (readBytes_congr (find_eq_of_filled hd h hfiled (hpaths.aside a ha))) (hpaths.known a ha)
      exact ⟨halike.toLoadedAfter, hfiled.append halike.filed⟩) h hfiled
  exact ⟨hafter, fun x hx => hrest x (List.mem_append_right _ hx)⟩

end Analyzer
end LintWorkspace
