/-
# The homes of projects

The home of a project has the id of the project for a name, with `_` in the place of every
character that is not safe.  So the homes of two projects need not lie apart:

| ids | homes |
| --- | --- |
| ordinary, and different in a character that is kept | two entries of the staging tree |
| ordinary, and different in replaced characters only (`Confusable`) | the same entry |
| one of them empty, `.` or `..` | one lies within the other |

In the first case, and in no other, the loads of each project keep out of the home of the other
(`keepsOut_iff`).  Where the homes are the same, a project runs what it finds there in the place
of a copy of its own (`not_keepsOut`).
-/

import LintWorkspace.Proofs.Store
import LintWorkspace.Proofs.Tree

namespace LintWorkspace

namespace Location

variable {l m : Location} {n k : Name}

/-- Neither of two locations lies within the other. -/
def Apart (l m : Location) : Prop := l.isWithin m = false ∧ m.isWithin l = false

instance (l m : Location) : Decidable (l.Apart m) := inferInstanceAs (Decidable (_ ∧ _))

theorem Apart.symm (h : l.Apart m) : m.Apart l := ⟨h.2, h.1⟩

theorem not_apart_of_isWithin (h : l.isWithin m = true ∨ m.isWithin l = true) : ¬ l.Apart m := by
  rintro ⟨hl, hm⟩
  rcases h with h | h
  · simp [hl] at h
  · simp [hm] at h

theorem isWithin_child_iff : (l.child n).isWithin (l.child k) = true ↔ n = k := by
  rw [isWithin_iff]
  constructor
  · intro h
    have heq : l.child k = l.child n :=
      congrArg Location.mk (h.eq_of_length (by simp [child]))
    exact (child_injective heq).2.symm
  · rintro rfl
    exact List.prefix_refl _

/-- Two entries of a directory lie apart. -/
theorem apart_child_iff : (l.child n).Apart (l.child k) ↔ n ≠ k := by
  rw [Apart, ← Bool.not_eq_true, ← Bool.not_eq_true, isWithin_child_iff, isWithin_child_iff,
    eq_comm (a := k), and_self]

end Location

namespace Analyzer

open Disk

variable {d e : Disk} {staging source copy : Path} {project other : String} {bytes : ByteArray}
  {top cwd l : Location} {sources : List Path}

/-! ### Ids with one home -/

/-- A character that is replaced, or that others are replaced by. -/
def isBlurred (c : Char) : Bool := c = '_' || !isSafe c

/-- Two ids that differ in blurred characters only. -/
def Confusable (project other : String) : Prop :=
  List.Forall₂ (fun c c' => c = c' ∨ isBlurred c = true ∧ isBlurred c' = true)
    project.toList other.toList

instance : DecidableRel Confusable := fun _ _ => inferInstanceAs (Decidable (List.Forall₂ _ _ _))

theorem replaced_eq_iff (c c' : Char) :
    ((if isSafe c then c else '_') = if isSafe c' then c' else '_') ↔
      c = c' ∨ isBlurred c = true ∧ isBlurred c' = true := by
  have hsafe : isSafe '_' = true := by decide
  by_cases hc : isSafe c = true <;> by_cases hc' : isSafe c' = true
  · have hequal : c = '_' ∧ c' = '_' → c = c' := fun h => h.1.trans h.2.symm
    simpa [isBlurred, hc, hc'] using hequal
  · have hne : c = c' → c = '_' := fun h => absurd (h ▸ hc) hc'
    simpa [isBlurred, hc, hc'] using hne
  · have hne : c = c' → c' = '_' := fun h => absurd (h ▸ hc') hc
    simpa [isBlurred, hc, hc', eq_comm] using hne
  · simp [isBlurred, hc, hc']

/-- Ids are the same name of a home if they are confusable. -/
theorem safeText_eq_iff : safeText project = safeText other ↔ Confusable project other := by
  rw [safeText, safeText, String.ofList_inj, ← List.forall₂_eq_eq_eq, List.forall₂_map_left_iff,
    List.forall₂_map_right_iff, Confusable]
  simp only [replaced_eq_iff]

/-- An id that is no name of an entry leads to a home that shares what lies in it. -/
theorem not_apart_of_not_ordinary (h : ¬ Ordinary project) (top : Location) (other : String) :
    ¬ (home top project).Apart (home top other) := by
  have hup : (home top ".." : Location) = top.parent := rfl
  have habove := Location.isWithin_parent top
  have hwithin : (home top other).isWithin top = true ∨ home top other = top.parent := by
    by_cases hother : other = ".."
    · exact .inr (hother ▸ hup)
    · exact .inl (isWithin_home hother)
  refine Location.not_apart_of_isWithin ?_
  by_cases hproject : project = ".."
  · rw [hproject, hup]
    rcases hwithin with hwithin | heq
    · exact .inr (Location.isWithin_trans hwithin habove)
    · exact .inr (heq ▸ Location.isWithin_self _)
  · have hhere : home top project = top := by
      have hcases : project = "" ∨ project = "." := by
        by_contra hne
        rw [not_or] at hne
        exact h ⟨hne.1, hne.2, hproject⟩
      rcases hcases with rfl | rfl <;> rfl
    rw [hhere]
    rcases hwithin with hwithin | heq
    · exact .inr hwithin
    · exact .inl (heq ▸ habove)

/-- **Two homes lie apart** if both ids are ordinary and they are not confusable. -/
theorem apart_home_iff : (home top project).Apart (home top other) ↔
    Ordinary project ∧ Ordinary other ∧ ¬ Confusable project other := by
  by_cases hproject : Ordinary project
  · by_cases hother : Ordinary other
    · rw [home_of_ordinary hproject, home_of_ordinary hother, Location.apart_child_iff,
        ← safeText_eq_iff, Ne, Name.mk.injEq]
      simp [hproject, hother]
    · have hnot : ¬ (home top project).Apart (home top other) := fun h =>
        not_apart_of_not_ordinary hother top project h.symm
      simp [hnot, hother]
  · simp [not_apart_of_not_ordinary hproject top other, hproject]

/-! ### Loads that keep out of a home -/

/-- The loads of a project keep out of the home of another project. -/
structure KeepsOut (staging : Path) (d : Disk) (project other : String) : Prop where
  apart : ((stagingDirectory staging project).normalize d.cwd).Apart
    ((stagingDirectory staging other).normalize d.cwd)
  /-- no copy that is looked for, made or read lies there -/
  copies : ∀ source bytes copy,
    copyOf (stagingDirectory staging project) source bytes = some copy →
      (copy.normalize d.cwd).isWithin ((stagingDirectory staging other).normalize d.cwd) = false
  /-- no file comes, goes or changes there -/
  files : ∀ sources l,
    l.isWithin ((stagingDirectory staging other).normalize d.cwd) = true → ∀ bytes,
      (load staging d project sources).1.entryAt l = some (.file bytes) ↔
        d.entryAt l = some (.file bytes)
  /-- nothing at all does, unless the staging path itself may go there and up again -/
  entries : ".." ∉ staging.segments → ∀ sources l,
    l.isWithin ((stagingDirectory staging other).normalize d.cwd) = true →
      (load staging d project sources).1.entryAt l = d.entryAt l

section Apart

variable (h : (home (staging.normalize d.cwd) project).Apart (home (staging.normalize d.cwd) other))
include h

theorem not_isWithin_of_isWithin_home
    (hl : l.isWithin (home (staging.normalize d.cwd) project) = true) :
    l.isWithin (home (staging.normalize d.cwd) other) = false := by
  by_contra hother
  rw [Bool.not_eq_false] at hother
  exact Location.not_apart_of_isWithin (Location.isWithin_or hl hother) h

/-- Files are written in the home of their project only. -/
theorem file_iff_of_apart (hl : l.isWithin (home (staging.normalize d.cwd) other) = true)
    (sources : List Path) (bytes : ByteArray) :
    (load staging d project sources).1.entryAt l = some (.file bytes) ↔
      d.entryAt l = some (.file bytes) := by
  have hgrown : Grown (home (staging.normalize d.cwd) project) d
      (load staging d project sources).1 := by
    rw [← normalize_stagingDirectory]
    exact grown_loadInto d sources
  have hout : ¬ l.LiesBelow (home (staging.normalize d.cwd) project) := fun hbelow => by
    simp [not_isWithin_of_isWithin_home h hbelow.1] at hl
  refine ⟨fun hfile => ?_, hgrown.kept l bytes hout⟩
  obtain ⟨bytes', hfile'⟩ := (hgrown.fresh l ⟨bytes, hfile⟩).resolve_right hout
  rwa [hgrown.kept l bytes' hout hfile', ← hfile'] at hfile

/-- No place of the other home is passed on the way of a copy. -/
theorem not_isWithin_of_mem_places (hother : Ordinary other) (hup : ".." ∉ staging.segments)
    (hcopy : copyOf (stagingDirectory staging project) source bytes = some copy)
    (hl : l ∈ places d.cwd copy) : l.isWithin (home (staging.normalize d.cwd) other) = false := by
  have htop :
      (staging.normalize d.cwd).isWithin (home (staging.normalize d.cwd) other) = false := by
    by_contra hwithin
    rw [Bool.not_eq_false, home_of_ordinary hother] at hwithin
    have hbelow := Location.liesBelow_child (staging.normalize d.cwd)
      ⟨safeText other, isName_safeText hother⟩
    exact hbelow.2 (Location.isWithin_antisymm hbelow.1 hwithin)
  have habove : (staging.normalize d.cwd).isWithin l = true →
      l.isWithin (home (staging.normalize d.cwd) other) = false := fun hw => by
    by_contra hwithin
    rw [Bool.not_eq_false] at hwithin
    simp [Location.isWithin_trans hw hwithin] at htop
  rcases mem_places_copyOf hcopy hl with hl | rfl | hl
  · exact habove (isWithin_of_mem_places_of_not_up hup hl)
  · exact htop
  · exact not_isWithin_of_isWithin_home h hl

/-- Loading one analyzer leaves the other home as it is. -/
theorem entryAt_eq_of_loads {answer : Except LoadFault Loaded} (hother : Ordinary other)
    (hup : ".." ∉ staging.segments)
    (hloads : Loads (stagingDirectory staging project) d source e answer)
    (hl : l.isWithin (home (staging.normalize d.cwd) other) = true) :
    e.entryAt l = d.entryAt l := by
  have hway : ∀ {bytes copy}, copyOf (stagingDirectory staging project) source bytes = some copy →
      l ∉ places d.cwd copy := fun hcopy hmem => by
    simp [not_isWithin_of_mem_places h hother hup hcopy hmem] at hl
  cases hloads with
  | unread fault hread => rfl
  | reused bytes copy hread hcopy hhas => rfl
  | blocked bytes copy _ fault hread hcopy hmade =>
    exact (hmade.entryAt_cases l).resolve_right fun hmem => hway hcopy hmem.1
  | copied bytes copy e' _ hread hcopy hmade hwrite =>
    obtain ⟨hlocate, -, -, hentries⟩ := of_writeFile hwrite
    have hend : copy.normalize e'.cwd ∈ places d.cwd copy := by
      rw [← hmade.cwd_eq]
      exact mem_places_of_locate hlocate
    have hne : copy.normalize e'.cwd ≠ l := fun heq => hway hcopy (heq ▸ hend)
    rw [hentries, if_neg hne]
    exact (hmade.entryAt_cases l).resolve_right fun hmem => hway hcopy hmem.1

/-- Loading the analyzers of a project leaves the other home as it is. -/
theorem entryAt_eq_of_apart (hother : Ordinary other) (hup : ".." ∉ staging.segments)
    (hl : l.isWithin (home (staging.normalize d.cwd) other) = true) (sources : List Path) :
    (load staging d project sources).1.entryAt l = d.entryAt l := by
  rw [load]
  induction sources generalizing d with
  | nil => rfl
  | cons source sources ih =>
    have hloads := loads_loadAnalyzer (stagingDirectory staging project) d source
    have hcwd : (loadAnalyzer (stagingDirectory staging project) d source).1.cwd = d.cwd :=
      (grown_loadAnalyzer d source).cwd_eq
    rw [disk_loadInto_cons, ih (hcwd.symm ▸ h) (hcwd.symm ▸ hl)]
    exact entryAt_eq_of_loads h hother hup hloads hl

end Apart

/-- **The loads of a project keep out of the home of another one** exactly if both ids are
ordinary and they differ in a character that is kept in the names of their homes. -/
theorem keepsOut_iff (staging : Path) (d : Disk) (project other : String) :
    KeepsOut staging d project other ↔
      Ordinary project ∧ Ordinary other ∧ ¬ Confusable project other := by
  constructor
  · rintro ⟨hapart, -, -, -⟩
    rw [normalize_stagingDirectory, normalize_stagingDirectory] at hapart
    exact apart_home_iff.1 hapart
  · intro hids
    have hapart : (home (staging.normalize d.cwd) project).Apart
        (home (staging.normalize d.cwd) other) := apart_home_iff.2 hids
    have hdir := normalize_stagingDirectory d.cwd staging
    refine ⟨?_, fun source bytes copy hcopy => ?_, fun sources l hl bytes => ?_,
      fun hup sources l hl => ?_⟩
    · rwa [hdir, hdir]
    · have hbelow := (liesBelow_of_copyOf hcopy d.cwd).1
      rw [hdir] at hbelow ⊢
      exact not_isWithin_of_isWithin_home hapart hbelow
    · rw [hdir] at hl
      exact file_iff_of_apart hapart hl sources bytes
    · rw [hdir] at hl
      exact entryAt_eq_of_apart hapart hids.2.1 hup hl sources

/-- A disk with an analyzer, and with another one of its length in the place of its copy for the
project `a_b`. -/
def mistaken : Disk :=
  diskOf [("/x.pack", .file "name = \"x\"".toUTF8), ("/staging", .directory),
    ("/staging/a_b", .directory), ("/staging/a_b/0c04005cc8004dc9", .directory),
    ("/staging/a_b/0c04005cc8004dc9/x.pack", .file "name = \"y\"".toUTF8)]

/-- **Two projects need not have homes of their own:** the project `a b` runs what lies in the
home of `a_b`, and the homes of `.`, `..` and the empty id hold those of others. -/
theorem not_keepsOut : ¬ KeepsOut (.ofText "/staging") mistaken "a b" "a_b" ∧
    (load (.ofText "/staging") mistaken "a b" [.ofText "/x.pack"]).2.loaded.map Loaded.name =
      ["y"] ∧
    ∀ id ∈ ["", ".", ".."], ¬ KeepsOut (.ofText "/staging") mistaken "a" id := by
  have hmeet : ∀ id ∈ ["", ".", ".."], ¬ Location.Apart
      ((stagingDirectory (.ofText "/staging") "a").normalize mistaken.cwd)
      ((stagingDirectory (.ofText "/staging") id).normalize mistaken.cwd) := by decide +kernel
  exact ⟨fun h => absurd h.apart (by decide +kernel), by decide +kernel,
    fun id hid h => hmeet id hid h.apart⟩

end Analyzer
end LintWorkspace
