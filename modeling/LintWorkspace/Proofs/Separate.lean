/-
# Loading many analyzers is loading each of them

The loads of a list share one directory, and each finds there what those before it have left.
All the same each ends as it would alone, and the disk is the same in any order (`loads_each`),
if they are `Separate`, that is, if three things do not happen (`not_loadsEach`):

| one load | so that another one |
| --- | --- |
| makes a place that was missing | finds more on its own path |
| makes a part of a way, and fails | fails on the rest of the way |
| makes a way | finds a file behind it in the place of its copy |

The first cannot happen to paths that stay away from what is missing on the way to the copies.
The others cannot happen where the path of the directory is open from the start, or where it goes
down only (`Separate.of_opens`, `Separate.of_straight`).

Behind an open path each load leaves its file, and all files lie on one level
(`LoadedEach.of_opens`).  Otherwise the first load that has anything to copy makes the way, which
does not depend on the copy, and the loads end as they would on the disk with the way
(`LoadedEach.of_entrance`), or it cannot, and then none of them changes anything
(`LoadedEach.of_still`).
-/

import LintWorkspace.Proofs.Coherence
import LintWorkspace.Proofs.Entrance

namespace LintWorkspace

namespace Disk

variable {d e : Disk} {top l : Location} {p : Path} {ls : List Location}

theorem Furnished.grown (h : Furnished ls d e) (top : Location) : Grown top d e where
  cwd_eq := h.cwd_eq
  directory l hl := by
    rcases h.entryAt_cases l with heq | ⟨-, -, hdir⟩
    · rw [heq, hl]
    · exact hdir
  file l := fun ⟨bytes, hfile⟩ => ⟨bytes, (h.file_iff bytes).2 hfile⟩
  fresh l := fun ⟨bytes, hfile⟩ => .inl ⟨bytes, (h.file_iff bytes).1 hfile⟩
  kept _ bytes _ hfile := (h.file_iff bytes).2 hfile

/-- **What lies aside reads the same** on a disk that has grown, unless a place on its way is
new. -/
theorem readBytes_eq_of_grown (hgrown : Grown top d e)
    (haside : ¬ (p.normalize d.cwd).LiesBelow top)
    (hways : ∀ l ∈ places d.cwd p, d.entryAt l = none → e.entryAt l = none) :
    e.readBytes p = d.readBytes p := by
  rcases locate_cases d.cwd p with ⟨-, hnone⟩ | ⟨start, segments, hplaces, hend, -⟩
  · simp [readBytes, find, hnone, bind, Except.bind]
  · have hlast : p.normalize d.cwd ∈ places d.cwd p := by
      rw [hplaces, hend]
      exact foldl_enterSegment_mem_passed start segments
    refine (readBytes_congr (find_congr hgrown.cwd_eq.symm (fun l hl => ?_) ?_)).symm
    · cases hentry : d.entryAt l with
      | none => exact .inl (by rw [hentry, hways l hl hentry])
      | some entry =>
        cases entry with
        | directory => exact .inl (by rw [hentry, hgrown.directory l hentry])
        | file bytes =>
          obtain ⟨bytes', hfile⟩ := hgrown.file l ⟨bytes, hentry⟩
          exact .inr ⟨bytes, bytes', hentry, hfile⟩
    · cases hentry : d.entryAt (p.normalize d.cwd) with
      | none => exact (hways _ hlast hentry).symm
      | some entry =>
        cases entry with
        | directory => exact (hgrown.directory _ hentry).symm
        | file bytes => exact (hgrown.kept _ bytes haside hentry).symm

end Disk

namespace Analyzer

open Disk

variable {d e : Disk} {dir p source copy : Path} {bytes : ByteArray} {paths sources : List Path}
  {files : List (Location × ByteArray)} {x : Location × ByteArray}

/-! ### What the loads of a list rest on -/

/-- The contents of the files at paths. -/
def contentsAt (d : Disk) (paths : List Path) : List ByteArray :=
  paths.flatMap fun p => (d.readBytes p).toOption.toList

theorem mem_contentsAt : bytes ∈ contentsAt d paths ↔ ∃ p ∈ paths, d.readBytes p = .ok bytes := by
  simp only [contentsAt, List.mem_flatMap, Option.mem_toList]
  refine exists_congr fun p => and_congr_right fun _ => ?_
  cases d.readBytes p <;> simp [Except.toOption]

/-- The loads of analyzers into a directory do not get in each other's way. -/
structure Separate (dir : Path) (d : Disk) (paths : List Path) : Prop where
  /-- no path leads through a place that is missing and made by a load -/
  ways : ∀ p ∈ paths, ∀ l ∈ places d.cwd p, d.entryAt l = none →
    ∀ q ∈ paths, (loadAnalyzer dir d q).1.entryAt l = none
  /-- where the directory of a copy cannot be made, nothing is made -/
  shelves : ∀ p ∈ paths, ∀ bytes, d.readBytes p = .ok bytes → ∀ e fault,
    d.createDirectories (dir.join (.ofText (Blake3.fingerprint bytes))) = (e, some fault) → e = d
  /-- a file in the place of a copy is found on the path of the copy -/
  copies : ∀ p ∈ paths, ∀ bytes copy, d.readBytes p = .ok bytes → copyOf dir p bytes = some copy →
    ∀ b, d.entryAt (copy.normalize d.cwd) = some (.file b) → d.find copy = .ok (.file b)

/-- There are bytes at a path, and a name for a copy of them. -/
def Readable (dir : Path) (d : Disk) (p : Path) : Prop :=
  ∃ bytes copy, d.readBytes p = .ok bytes ∧ copyOf dir p bytes = some copy

theorem unread_of_not_readable (h : ¬ Readable dir d p) :
    ∀ bytes, d.readBytes p = .ok bytes → copyOf dir p bytes = none := fun bytes hbytes => by
  by_contra hsome
  obtain ⟨copy, hcopy⟩ := Option.ne_none_iff_exists'.1 hsome
  exact h ⟨bytes, copy, hbytes, hcopy⟩

/-- The name of the directory for copies of some bytes. -/
def shelfName (bytes : ByteArray) : Name :=
  ⟨Blake3.fingerprint bytes, Blake3.isName_fingerprint bytes⟩

theorem ofText_fingerprint (bytes : ByteArray) :
    Path.ofText (Blake3.fingerprint bytes) = ⟨[(shelfName bytes).text]⟩ :=
  Blake3.ofText_fingerprint bytes

/-- A copy lies two names behind the path of the directory. -/
theorem exists_of_copyOf (h : copyOf dir source bytes = some copy) :
    ∃ m : Name, copy = (dir.join ⟨[(shelfName bytes).text]⟩).join ⟨[m.text]⟩ := by
  obtain ⟨m, -, rfl⟩ := Option.map_eq_some_iff.1 h
  exact ⟨m, by rw [ofText_fingerprint]⟩

/-- Every load ends as it would alone, and the disk is the same in any order. -/
structure LoadedEach (dir : Path) (d : Disk) (paths : List Path) : Prop where
  report_eq : ∀ sources ⊆ paths, (loadInto dir d sources).2 =
    .ofOutcomes (sources.map fun p => (loadAnalyzer dir d p).2)
  disk_congr : ∀ sources, (∀ p, p ∈ sources ↔ p ∈ paths) → ∀ l,
    (loadInto dir d sources).1.entryAt l = (loadInto dir d paths).1.entryAt l

/-! ### Behind an open path -/

theorem exists_of_mem_added (h : x ∈ added dir d p) : ∃ bytes copy, d.readBytes p = .ok bytes ∧
    copyOf dir p bytes = some copy ∧ x.1 = copy.normalize d.cwd ∧ shelve d x.1 bytes = .ok x.2 := by
  unfold added at h
  split at h
  · simp at h
  · rename_i bytes hbytes
    split at h
    · simp at h
    · rename_i copy hcopy
      split at h
      · simp at h
      · rename_i found hshelve
        obtain rfl := List.mem_singleton.1 h
        exact ⟨bytes, copy, hbytes, hcopy, rfl, hshelve⟩

/-- Every file is what the load of one of the analyzers leaves. -/
def Placed (dir : Path) (d : Disk) (paths : List Path) (files : List (Location × ByteArray)) :
    Prop :=
  ∀ x ∈ files, ∃ p ∈ paths, x ∈ added dir d p

theorem Placed.shelvable (h : Placed dir d paths files) : Shelvable d files := fun x hx => by
  obtain ⟨p, -, hadded⟩ := h x hx
  obtain ⟨bytes, copy, -, -, -, hshelve⟩ := exists_of_mem_added hadded
  exact ⟨bytes, hshelve⟩

theorem Placed.liesBelow (h : Placed dir d paths files) (hx : x ∈ files) :
    x.1.LiesBelow (dir.normalize d.cwd) := by
  obtain ⟨p, -, hadded⟩ := h x hx
  obtain ⟨bytes, copy, -, hcopy, hplace, -⟩ := exists_of_mem_added hadded
  rw [hplace]
  exact liesBelow_of_copyOf hcopy d.cwd

/-- All copies lie two levels below the directory. -/
theorem length_of_copyOf (hcopy : copyOf dir source bytes = some copy) (cwd : Location) :
    (copy.normalize cwd).names.length = (dir.normalize cwd).names.length + 2 := by
  obtain ⟨m, rfl⟩ := exists_of_copyOf hcopy
  rw [normalize_join_join]
  simp [Location.child]

theorem Placed.length_eq (h : Placed dir d paths files) (hx : x ∈ files)
    (hcopy : copyOf dir source bytes = some copy) :
    x.1.names.length = (copy.normalize d.cwd).names.length := by
  obtain ⟨p, -, hadded⟩ := h x hx
  obtain ⟨bytes', copy', -, hcopy', hplace, -⟩ := exists_of_mem_added hadded
  rw [hplace, length_of_copyOf hcopy', length_of_copyOf hcopy]

/-- Copies at one place are copies of the same bytes, if no fingerprint is shared. -/
theorem Placed.shelve_eq (h : Placed dir d paths files) (hdistinct : Distinct (contentsAt d paths))
    (hx : x ∈ files) (hp : p ∈ paths) (hbytes : d.readBytes p = .ok bytes)
    (hcopy : copyOf dir p bytes = some copy) (hplace : x.1 = copy.normalize d.cwd) :
    shelve d (copy.normalize d.cwd) bytes = .ok x.2 := by
  obtain ⟨q, hq, hadded⟩ := h x hx
  obtain ⟨bytes', copy', hbytes', hcopy', hplace', hshelve⟩ := exists_of_mem_added hadded
  obtain ⟨m, rfl⟩ := exists_of_copyOf hcopy
  obtain ⟨m', rfl⟩ := exists_of_copyOf hcopy'
  have hsame := hplace.symm.trans hplace'
  rw [normalize_join_join, normalize_join_join] at hsame
  have hprint := (Location.child_injective (Location.child_injective hsame).1).2
  obtain rfl : bytes = bytes' := hdistinct _ (mem_contentsAt.2 ⟨p, hp, hbytes⟩) _
    (mem_contentsAt.2 ⟨q, hq, hbytes'⟩) (congrArg Name.text hprint)
  rw [← hplace, hshelve]

section Open

variable (hd : d.Tree) (hopens : Opens d dir) (hdistinct : Distinct (contentsAt d paths))
include hd hopens hdistinct

/-- Behind an open path an analyzer that reads as before is loaded as before. -/
theorem Placed.loadedAfter (hfiles : Placed dir d paths files) (h : Filled files d e)
    (hp : p ∈ paths) (hread : e.readBytes p = d.readBytes p) : LoadedAfter dir d e files p := by
  by_cases hreadable : Readable dir d p
  · obtain ⟨bytes, copy, hbytes, hcopy⟩ := hreadable
    have hregular : ∀ f more, Filled more d f → Shelvable d more → Regular f copy :=
      fun f more hf hmore => by
        obtain ⟨m, rfl⟩ := exists_of_copyOf hcopy
        have hgrown : Grown .root d f := grown_of_filled hd hf hmore fun x hx =>
          ⟨Location.isWithin_iff.2 List.nil_prefix, hf.ne_root hx⟩
        exact regular_of_opens (tree_of_filled hd hf hmore) (hopens.grown hgrown) _ m
    have hlevel : ∀ x ∈ files, x.1.names.length = (copy.normalize d.cwd).names.length :=
      fun x hx => hfiles.length_eq hx hcopy
    have hsame : ∀ x ∈ files, x.1 = copy.normalize d.cwd →
        shelve d (copy.normalize d.cwd) bytes = .ok x.2 := fun x hx =>
      hfiles.shelve_eq hdistinct hx hp hbytes hcopy
    cases hshelve : shelve d (copy.normalize d.cwd) bytes with
    | error fault =>
      exact (loadedAfter_of_error hd h hfiles.shelvable hcopy hbytes hread hregular hlevel hsame
        hshelve).1
    | ok found =>
      exact (loadedAfter_of_ok hd h hfiles.shelvable hcopy hbytes hread hregular hlevel hsame
        hshelve).1
  · exact (loadedAfter_of_unread h hread (unread_of_not_readable hreadable)).1

/-- What the loads leave is nowhere on the ways of the others. -/
theorem Placed.readBytes_eq (hfiles : Placed dir d paths files) (h : Filled files d e)
    (haside : ∀ p ∈ paths, ¬ (p.normalize d.cwd).LiesBelow (dir.normalize d.cwd))
    (hways : ∀ p ∈ paths, ∀ l ∈ places d.cwd p, d.entryAt l = none →
      ∀ q ∈ paths, (loadAnalyzer dir d q).1.entryAt l = none)
    (hp : p ∈ paths) : e.readBytes p = d.readBytes p := by
  have hgrown := grown_of_filled hd h hfiles.shelvable fun x hx => hfiles.liesBelow hx
  refine readBytes_eq_of_grown hgrown (haside p hp) fun l hl hnone => ?_
  have halone : ∀ q ∈ paths, Filled (added dir d q) d (loadAnalyzer dir d q).1 := fun q hq =>
    (Placed.loadedAfter hd hopens hdistinct (by simp [Placed]) (.refl d) hq rfl).filled
  rcases h.entryAt_cases l with ⟨x, hx, rfl, -⟩ | ⟨x, hx, hw, -⟩ | ⟨-, he⟩
  · obtain ⟨q, hq, hadded⟩ := hfiles x hx
    have hthere := (halone q hq).file x hadded
    rw [hways p hp _ hl hnone q hq] at hthere
    simp at hthere
  · obtain ⟨q, hq, hadded⟩ := hfiles x hx
    have hthere := (halone q hq).way x hadded l hw
    rw [hways p hp _ hl hnone q hq] at hthere
    simp at hthere
  · rw [he, hnone]

/-- **Behind an open path every load ends as it would alone.** -/
theorem LoadedEach.of_opens
    (haside : ∀ p ∈ paths, ¬ (p.normalize d.cwd).LiesBelow (dir.normalize d.cwd))
    (hways : ∀ p ∈ paths, ∀ l ∈ places d.cwd p, d.entryAt l = none →
      ∀ q ∈ paths, (loadAnalyzer dir d q).1.entryAt l = none) : LoadedEach dir d paths := by
  have hall : ∀ sources ⊆ paths, LoadedAllAfter dir d d [] sources := fun sources hsub =>
    (loadedAllAfter (R := Placed dir d paths) (fun e files p hp h hfiles => by
      refine ⟨hfiles.loadedAfter hd hopens hdistinct h (hsub hp)
        (hfiles.readBytes_eq hd hopens hdistinct h haside hways (hsub hp)), fun x hx => ?_⟩
      exact (List.mem_append.1 hx).elim (hfiles x) fun hx => ⟨p, hsub hp, hx⟩)
      (.refl d) (by simp [Placed])).1
  refine ⟨fun sources hsub => (hall sources hsub).answer_eq, fun sources hsame l => ?_⟩
  refine (hall sources fun p => (hsame p).1).filled.entryAt_congr
    (hall paths (List.Subset.refl _)).filled (fun x => ?_) l
  simp only [List.nil_append, List.mem_flatMap, hsame]

end Open

/-! ### Behind a path that is not open -/

/-- Loads that leave the disk as it is. -/
theorem LoadedEach.of_still (h : ∀ p ∈ paths, (loadAnalyzer dir d p).1 = d) :
    LoadedEach dir d paths := by
  have hall : ∀ sources ⊆ paths, (loadInto dir d sources).1 = d ∧
      (loadInto dir d sources).2 = .ofOutcomes (sources.map fun p => (loadAnalyzer dir d p).2) := by
    intro sources hsub
    induction sources with
    | nil => exact ⟨rfl, rfl⟩
    | cons p sources ih =>
      obtain ⟨hp, hsub⟩ := List.cons_subset.1 hsub
      obtain ⟨hdisk, hreport⟩ := ih hsub
      refine ⟨?_, ?_⟩
      · rw [disk_loadInto_cons, h p hp, hdisk]
      · rw [List.map_cons]
        refine report_loadInto_cons ?_
        rw [h p hp, hreport]
  refine ⟨fun sources hsub => (hall sources hsub).2, fun sources hsame l => ?_⟩
  rw [(hall sources fun p => (hsame p).1).1, (hall paths (List.Subset.refl _)).1]

theorem loadAnalyzer_of_not_readable (h : ¬ Readable dir d p)
    (hread : e.readBytes p = d.readBytes p) : (loadAnalyzer dir e p).1 = e ∧
      (loadAnalyzer dir e p).2 = (loadAnalyzer dir d p).2 :=
  loadAnalyzer_of_unread (unread_of_not_readable h) hread

/-- No copy is found behind a path that is not open. -/
theorem not_hasCopy (hopens : ¬ Opens d dir) (hcopy : copyOf dir source bytes = some copy)
    (length : Nat) : hasCopy d copy length = false := by
  obtain ⟨m, rfl⟩ := exists_of_copyOf hcopy
  obtain ⟨fault, -, hfault⟩ := (opens_or d dir).resolve_left hopens
  have hlocate := locate_join_name d dir (shelfName bytes) m
  rw [hfault] at hlocate
  simp [hasCopy, find, hlocate, bind, Except.bind]

theorem makeCopy_congr (hcopy : copyOf dir source bytes = some copy)
    (hmake : ∀ n : Name, d.createDirectories (dir.join ⟨[n.text]⟩) =
      e.createDirectories (dir.join ⟨[n.text]⟩)) :
    makeCopy d copy bytes = makeCopy e copy bytes := by
  obtain ⟨m, rfl⟩ := exists_of_copyOf hcopy
  rw [makeCopy, makeCopy, Path.parent?_join_name, Option.getD_some, hmake]

section Entrance

variable {ls : List Location} (hopens : ¬ Opens d dir) (hmade : Furnished ls d e)
  (hmake : ∀ n : Name, d.createDirectories (dir.join ⟨[n.text]⟩) =
    e.createDirectories (dir.join ⟨[n.text]⟩))
  (hseparate : Separate dir d paths)
include hopens hmade hmake hseparate

/-- With something to copy it is all the same whether the way has been made. -/
theorem loadAnalyzer_entrance (hp : p ∈ paths) (h : Readable dir d p) :
    loadAnalyzer dir e p = loadAnalyzer dir d p ∧ e.readBytes p = d.readBytes p := by
  obtain ⟨bytes, copy, hbytes, hcopy⟩ := h
  have hpreserved : Preserved .root d e :=
    ⟨hmade.grown .root, fun _ b hfile => (hmade.file_iff b).2 hfile⟩
  have hread : e.readBytes p = .ok bytes := hpreserved.readBytes_eq hbytes
  have hnone : hasCopy e copy bytes.size = false := by
    -- a file in the place of the copy would be found without the way
    by_contra hhas
    obtain ⟨b, hfind, -⟩ := exists_find_of_hasCopy (Bool.not_eq_false _ ▸ hhas)
    have hentry := (find_eq_ok_iff.1 hfind).2
    rw [hmade.cwd_eq, hmade.file_iff] at hentry
    have hfound := hseparate.copies p hp bytes copy hbytes hcopy b hentry
    have hthere := not_hasCopy hopens hcopy b.size
    simp [hasCopy, hfound] at hthere
  refine ⟨?_, hread.trans hbytes.symm⟩
  rw [loadAnalyzer_eq hread hcopy, loadAnalyzer_eq hbytes hcopy, hnone,
    not_hasCopy hopens hcopy, makeCopy_congr hcopy hmake, if_neg Bool.false_ne_true,
    if_neg Bool.false_ne_true]

section Made

variable (haside : ∀ p ∈ paths, ¬ (p.normalize d.cwd).LiesBelow (dir.normalize d.cwd))
  {q : Path} (hq : q ∈ paths) (hreadable : Readable dir d q)
include haside hq hreadable

/-- A way that one of the loads makes is on no way of the others. -/
theorem readBytes_entrance (hp : p ∈ paths) : e.readBytes p = d.readBytes p := by
  refine readBytes_eq_of_grown (hmade.grown _) (haside p hp) fun l hl hmissing => ?_
  have hlater := hseparate.ways p hp l hl hmissing q hq
  rw [← (loadAnalyzer_entrance hopens hmade hmake hseparate hq hreadable).1] at hlater
  have hload : Grown (dir.normalize e.cwd) e (loadAnalyzer dir e q).1 := grown_loadAnalyzer e q
  by_contra hsome
  have hthere := hload.isSome (Option.isSome_iff_ne_none.2 hsome)
  simp [hlater] at hthere

/-- Analyzers are loaded as with the way, and the first that has anything to copy makes it. -/
theorem loadInto_entrance (hsub : sources ⊆ paths) :
    (loadInto dir d sources).2 = (loadInto dir e sources).2 ∧
      ∀ p ∈ sources, Readable dir d p →
        (loadInto dir d sources).1 = (loadInto dir e sources).1 := by
  induction sources with
  | nil => exact ⟨rfl, by simp⟩
  | cons p sources ih =>
    obtain ⟨hp, hsub⟩ := List.cons_subset.1 hsub
    obtain ⟨hreport, hdisk⟩ := ih hsub
    by_cases h : Readable dir d p
    · rw [loadInto, loadInto, (loadAnalyzer_entrance hopens hmade hmake hseparate hp h).1]
      exact ⟨rfl, fun _ _ _ => rfl⟩
    · obtain ⟨hstill, hsame⟩ := loadAnalyzer_of_not_readable h
        (readBytes_entrance hopens hmade hmake hseparate haside hq hreadable hp)
      have hstay := (loadAnalyzer_of_not_readable h rfl).1
      refine ⟨?_, fun r hr hthere => ?_⟩
      · rw [loadInto, loadInto]
        simp only [hstill, hstay, hsame, hreport]
        split <;> rfl
      · rw [disk_loadInto_cons, disk_loadInto_cons, hstill, hstay]
        refine hdisk r ((List.mem_cons.1 hr).resolve_left ?_) hthere
        rintro rfl
        exact h hthere

/-- **Without the way the loads end as with it,** if one of them makes it. -/
theorem LoadedEach.of_entrance (hd : e.Tree) (hopen : Opens e dir)
    (hdistinct : Distinct (contentsAt d paths)) : LoadedEach dir d paths := by
  have hentrance := fun {p} (hp : p ∈ paths) (h : Readable dir d p) =>
    (loadAnalyzer_entrance hopens hmade hmake hseparate hp h).1
  have hread := fun p (hp : p ∈ paths) =>
    readBytes_entrance hopens hmade hmake hseparate haside hq hreadable hp
  have hunread := fun {p} (hp : p ∈ paths) (h : ¬ Readable dir d p) =>
    loadAnalyzer_of_not_readable h (hread p hp)
  have hall := fun {sources} (hsub : sources ⊆ paths) =>
    loadInto_entrance hopens hmade hmake hseparate haside hq hreadable hsub
  have hcontents : contentsAt e paths = contentsAt d paths :=
    List.flatMap_congr fun p hp => by rw [hread p hp]
  have hways : ∀ p ∈ paths, ∀ l ∈ places e.cwd p, e.entryAt l = none →
      ∀ r ∈ paths, (loadAnalyzer dir e r).1.entryAt l = none := by
    intro p hp l hl hmissing r hr
    by_cases h : Readable dir d r
    · rw [hmade.cwd_eq] at hl
      rw [hentrance hr h]
      refine hseparate.ways p hp l hl ?_ r hr
      by_contra hsome
      have hthere := (hmade.grown .root).isSome (Option.isSome_iff_ne_none.2 hsome)
      simp [hmissing] at hthere
    · rw [(hunread hr h).1, hmissing]
  have heach : LoadedEach dir e paths :=
    .of_opens hd hopen (hcontents ▸ hdistinct) (hmade.cwd_eq ▸ haside) hways
  refine ⟨fun sources hsub => ?_, fun sources hsame l => ?_⟩
  · rw [(hall hsub).1, heach.report_eq sources hsub]
    refine congrArg _ (List.map_congr_left fun p hp => ?_)
    by_cases h : Readable dir d p
    · rw [hentrance (hsub hp) h]
    · exact (hunread (hsub hp) h).2
  · rw [(hall fun p => (hsame p).1).2 q ((hsame q).2 hq) hreadable,
      (hall (List.Subset.refl paths)).2 q hq hreadable, heach.disk_congr sources hsame l]

end Made

end Entrance

/-- **Loads that do not get in each other's way end as each would alone.** -/
theorem loadedEach (hd : d.Tree)
    (haside : ∀ p ∈ paths, ¬ (p.normalize d.cwd).LiesBelow (dir.normalize d.cwd))
    (hdistinct : Distinct (contentsAt d paths)) (hseparate : Separate dir d paths) :
    LoadedEach dir d paths := by
  by_cases hopens : Opens d dir
  · exact .of_opens hd hopens hdistinct haside hseparate.ways
  · by_cases hany : ∃ q ∈ paths, Readable dir d q
    · obtain ⟨q, hq, hreadable⟩ := hany
      rcases hd.exists_entrance dir with ⟨e, fault, hmake⟩ | ⟨e, ls, hopen, htree, hmade, hmake⟩
      · -- nothing can be made
        have hsame : e = d := by
          obtain ⟨bytes, -, hbytes, -⟩ := hreadable
          refine hseparate.shelves q hq bytes hbytes e fault ?_
          rw [ofText_fingerprint]
          exact hmake (shelfName bytes)
        refine .of_still fun p hp => ?_
        by_cases h : Readable dir d p
        · obtain ⟨bytes, copy, hbytes, hcopy⟩ := h
          have hfails : makeCopy d copy bytes = (d, some fault) := by
            obtain ⟨m, rfl⟩ := exists_of_copyOf hcopy
            rw [makeCopy, Path.parent?_join_name, Option.getD_some, hmake, hsame]
          rw [loadAnalyzer_eq hbytes hcopy, not_hasCopy hopens hcopy, hfails]
          rfl
        · exact (loadAnalyzer_of_not_readable h rfl).1
      · exact .of_entrance hopens hmade hmake hseparate haside hq hreadable htree hopen hdistinct
    · refine .of_still fun p hp => ?_
      exact (loadAnalyzer_of_not_readable (fun h => hany ⟨p, hp, h⟩) rfl).1

/-! ### Paths behind which loads are separate -/

/-- Behind an open path loads meet on the ways of the analyzers or not at all. -/
theorem Separate.of_opens (hd : d.Tree) (hopens : Opens d dir)
    (hways : ∀ p ∈ paths, ∀ l ∈ places d.cwd p, d.entryAt l = none →
      ∀ q ∈ paths, (loadAnalyzer dir d q).1.entryAt l = none) : Separate dir d paths where
  ways := hways
  shelves p _ bytes _ e fault hmake := by
    have hcases := hopens.createDirectories_eq (shelfName bytes)
    rw [← ofText_fingerprint, hmake] at hcases
    split at hcases
    · simp at hcases
    · exact (Prod.mk.inj hcases).1
    · simp at hcases
  copies p _ bytes copy _ hcopy := by
    obtain ⟨m, rfl⟩ := exists_of_copyOf hcopy
    exact (regular_of_opens hd hopens _ m).find_file

/-- So they do where the path of the directory goes down only, though it may have to be made. -/
theorem Separate.of_straight (hd : d.Tree) (hdir : dir.Straight)
    (hways : ∀ p ∈ paths, ∀ l ∈ places d.cwd p, d.entryAt l = none →
      ∀ q ∈ paths, (loadAnalyzer dir d q).1.entryAt l = none) : Separate dir d paths where
  ways := hways
  shelves p _ bytes _ e fault hmake := by
    have hnamed := hdir.named_join (shelfName bytes)
    rw [ofText_fingerprint] at hmake
    by_cases hbarred : d.Barred ((dir.join ⟨[(shelfName bytes).text]⟩).normalize d.cwd)
    · rw [hd.createDirectories_of_barred hnamed hbarred] at hmake
      exact (Prod.mk.inj hmake).1.symm
    · obtain ⟨f, hmade, -⟩ := hd.exists_createDirectories (.inl hnamed) hbarred
      simp [hmade] at hmake
  copies p _ bytes copy _ hcopy := by
    obtain ⟨m, rfl⟩ := exists_of_copyOf hcopy
    exact (regular_of_named hd ((hdir.named_join _).straight.named_join m)).find_file

/-! ### The analyzers of a project -/

variable {staging : Path} {project : String}

/-- What is taken for granted of analyzers: they lie on a tree, none of them lies among the
copies, and no two of their contents share a fingerprint. -/
structure Given (dir : Path) (d : Disk) (paths : List Path) : Prop where
  tree : d.Tree
  aside : ∀ p ∈ paths, ¬ (p.normalize d.cwd).LiesBelow (dir.normalize d.cwd)
  distinct : Distinct (contentsAt d paths)

theorem given_iff : Given dir d paths ↔ d.Tree ∧
    (∀ p ∈ paths, ¬ (p.normalize d.cwd).LiesBelow (dir.normalize d.cwd)) ∧
      Distinct (contentsAt d paths) :=
  ⟨fun ⟨htree, haside, hdistinct⟩ => ⟨htree, haside, hdistinct⟩,
    fun ⟨htree, haside, hdistinct⟩ => ⟨htree, haside, hdistinct⟩⟩

instance : Decidable (Given dir d paths) := decidable_of_iff _ given_iff.symm

/-- Loading a list of analyzers is loading each of them: the report goes through the paths one by
one and has at each what loading it alone has, and neither their order nor how often they are
listed matters to the disk. -/
structure LoadsEach (staging : Path) (d : Disk) (project : String) (paths : List Path) : Prop where
  splits : Splits paths (load staging d project paths).2.loaded
    (load staging d project paths).2.failures
  loaded_eq : (load staging d project paths).2.loaded =
    paths.flatMap fun p => (load staging d project [p]).2.loaded
  failures_eq : (load staging d project paths).2.failures =
    paths.flatMap fun p => (load staging d project [p]).2.failures
  disk_congr : ∀ sources, (∀ p, p ∈ sources ↔ p ∈ paths) → ∀ l,
    (load staging d project sources).1.entryAt l = (load staging d project paths).1.entryAt l

theorem loaded_ofOutcomes (outcomes : List (Except LoadFault Loaded)) :
    (LoadReport.ofOutcomes outcomes).loaded =
      outcomes.flatMap fun o => (LoadReport.ofOutcomes [o]).loaded := by
  induction outcomes with
  | nil => rfl
  | cons o outcomes ih =>
    rw [List.flatMap_cons, ← ih]
    cases o <;> rfl

theorem failures_ofOutcomes (outcomes : List (Except LoadFault Loaded)) :
    (LoadReport.ofOutcomes outcomes).failures =
      outcomes.flatMap fun o => (LoadReport.ofOutcomes [o]).failures := by
  induction outcomes with
  | nil => rfl
  | cons o outcomes ih =>
    rw [List.flatMap_cons, ← ih]
    cases o <;> rfl

/-- **Loading a list of analyzers is loading each of them,** if their loads do not get in each
other's way. -/
theorem loads_each (h : Given (stagingDirectory staging project) d paths)
    (hseparate : Separate (stagingDirectory staging project) d paths) :
    LoadsEach staging d project paths := by
  have heach := loadedEach h.tree h.aside h.distinct hseparate
  have hreport := heach.report_eq paths (List.Subset.refl _)
  have halone : ∀ p, (load staging d project [p]).2 =
      .ofOutcomes [(loadAnalyzer (stagingDirectory staging project) d p).2] := fun p =>
    report_loadInto_cons rfl
  refine ⟨splits_loadInto _ d paths, ?_, ?_, heach.disk_congr⟩
  · rw [load, hreport, loaded_ofOutcomes, List.flatMap_map]
    exact List.flatMap_congr fun p _ => by rw [halone]
  · rw [load, hreport, failures_ofOutcomes, List.flatMap_map]
    exact List.flatMap_congr fun p _ => by rw [halone]

/-- A disk with two analyzers and some more entries. -/
def packs (entries : List (String × DiskEntry)) : Disk :=
  diskOf (("/a.pack", .file "name = \"a\"\n".toUTF8) ::
    ("/b.pack", .file "name = \"b\"\n".toUTF8) :: entries)

/-- Two analyzers, one of them twice, and a path with nothing at its end. -/
theorem loads_each_packs :
    let paths := ["a.pack", "b.pack", "a.pack", "c.pack"].map Path.ofText
    let dir := stagingDirectory (.ofText "staging") "app"
    (Given dir (packs []) paths ∧ Separate dir (packs []) paths) ∧
      LoadsEach (.ofText "staging") (packs []) "app" paths := by
  intro paths dir
  have hgiven : Given dir (packs []) paths := by decide +kernel
  have hseparate : Separate dir (packs []) paths :=
    .of_straight hgiven.tree (by decide +kernel) (by decide +kernel)
  exact ⟨⟨hgiven, hseparate⟩, loads_each hgiven hseparate⟩

/-- Analyzers with all that is taken for granted, of which one ends otherwise than it would
alone. -/
def Meets (staging : String) (entries : List (String × DiskEntry)) (paths : List String) : Prop :=
  Given (stagingDirectory (.ofText staging) "app") (packs entries) (paths.map .ofText) ∧
    ¬ LoadsEach (.ofText staging) (packs entries) "app" (paths.map .ofText)

/-- **Loading many analyzers need not be loading each of them:** a load can make the place at
which another one finds nothing alone, the part of a way on which another one fails, or the way
to a file that another one takes for its copy. -/
theorem not_loadsEach :
    Meets "staging" [] ["a.pack", "staging"] ∧
      Meets "x/../f" [("/f", .file "".toUTF8)] ["a.pack", "b.pack"] ∧
      Meets "x/../s" [("/s", .directory), ("/s/app", .directory),
        ("/s/app/670f25f96fa42a81", .directory),
        ("/s/app/670f25f96fa42a81/b.pack", .file "name = \"t\"\n".toUTF8)]
        ["a.pack", "b.pack"] := by
  refine ⟨⟨by decide +kernel, fun h => ?_⟩, ⟨by decide +kernel, fun h => ?_⟩,
    ⟨by decide +kernel, fun h => ?_⟩⟩
  · exact absurd h.failures_eq (by decide +kernel)
  · exact absurd h.failures_eq (by decide +kernel)
  · exact absurd (congrArg (List.map Loaded.name) h.loaded_eq) (by decide +kernel)

end Analyzer
end LintWorkspace
