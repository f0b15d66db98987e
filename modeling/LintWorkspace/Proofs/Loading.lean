/-
# What loading an analyzer does to a disk

The copy of an analyzer lies at `<home>/<fingerprint>/<name>`, where the home of a project is
where its id leads from the staging tree (`home`):

| id | home |
| --- | --- |
| empty, or `.` | the staging tree itself |
| `..` | the directory above the staging tree |
| any other (`Ordinary`) | an entry of the staging tree |

Loading one analyzer changes a disk in two ways at most (`Loads`): it makes directories on the
way of the copy where nothing stood (`Furnished`), and then it writes the copy.
-/

import LintWorkspace.Proofs.Growth

namespace LintWorkspace

namespace Location

variable {l m top : Location} {n : Name}

theorem liesBelow_child (l : Location) (n : Name) : (l.child n).LiesBelow l := by
  refine ⟨isWithin_iff.2 (List.prefix_append _ _), fun h => ?_⟩
  simpa [child] using congrArg (fun l => l.names.length) h

theorem LiesBelow.child (h : l.LiesBelow top) (n : Name) : (l.child n).LiesBelow top := by
  have hchild := liesBelow_child l n
  refine ⟨isWithin_trans hchild.1 h.1, fun heq => ?_⟩
  have hlength := (isWithin_iff.1 h.1).length_le
  rw [← heq, Location.child, List.length_append, List.length_singleton] at hlength
  omega

theorem child_injective {n n' : Name} (h : l.child n = m.child n') : l = m ∧ n = n' := by
  obtain ⟨ls⟩ := l
  obtain ⟨ms⟩ := m
  obtain ⟨hl, hn⟩ := List.append_inj' (congrArg Location.names h) rfl
  exact ⟨congrArg Location.mk hl, List.head_eq_of_cons_eq hn⟩

end Location

/-! ### Where the copies of a project lie -/

namespace Analyzer

variable {staging source copy : Path} {project : String} {bytes : ByteArray} {top : Location}

/-- The id of a project as it stands in its path in the staging tree. -/
def safeText (project : String) : String :=
  String.ofList (project.toList.map fun c => if isSafe c then c else '_')

theorem not_mem_safeText (project : String) : '/' ∉ (safeText project).toList := by
  simp only [safeText, String.toList_ofList, List.mem_map, not_exists, not_and]
  intro c _ hc
  by_cases hsafe : isSafe c = true
  · rw [if_pos hsafe] at hc
    subst hc
    exact absurd hsafe (by decide)
  · rw [if_neg hsafe] at hc
    exact absurd hc (by decide)

/-- What is left of an id says what the id is, if no character was replaced. -/
theorem eq_of_safeText_eq {s : String} (h : safeText project = s) (hs : '_' ∉ s.toList) :
    project = s := by
  subst h
  have hkept : project.toList.map (fun c => if isSafe c then c else '_') = project.toList := by
    refine (List.map_congr_left fun c hc => ?_).trans (List.map_id _)
    by_contra hne
    refine hs ?_
    rw [safeText, String.toList_ofList, List.mem_map]
    exact ⟨c, hc, if_neg fun hsafe => hne (if_pos hsafe)⟩
  rw [safeText, hkept, String.ofList_toList]

theorem stagingDirectory_eq (staging : Path) (project : String) :
    stagingDirectory staging project = staging.join ⟨[safeText project]⟩ := by
  have htext : Path.ofText (safeText project) = ⟨[safeText project]⟩ := by
    rw [Path.ofText, Text.splitOn_of_not_mem (not_mem_safeText project)]
    simp
  rw [stagingDirectory, ← htext]
  rfl

/-- The directory to which the copies of a project belong. -/
def home (top : Location) (project : String) : Location := Disk.enterSegment top (safeText project)

theorem normalize_stagingDirectory (cwd : Location) (staging : Path) (project : String) :
    (stagingDirectory staging project).normalize cwd = home (staging.normalize cwd) project := by
  rw [stagingDirectory_eq, Path.normalize_join_segment, home]

/-- An id that is the name of a directory. -/
def Ordinary (project : String) : Prop := project ≠ "" ∧ project ≠ "." ∧ project ≠ ".."

instance : DecidablePred Ordinary := fun _ => inferInstanceAs (Decidable (_ ∧ _))

theorem isName_safeText (h : Ordinary project) : IsName (safeText project) :=
  ⟨fun he => h.1 (eq_of_safeText_eq he (by decide)),
    fun he => h.2.1 (eq_of_safeText_eq he (by decide)),
    fun he => h.2.2 (eq_of_safeText_eq he (by decide)), not_mem_safeText project⟩

/-- A project with an ordinary id has an entry of its own in the staging tree. -/
theorem home_of_ordinary (h : Ordinary project) :
    home top project = top.child ⟨safeText project, isName_safeText h⟩ :=
  Disk.enterSegment_name top ⟨safeText project, isName_safeText h⟩

/-- No home lies outside the staging tree but that of the id `..`. -/
theorem home_cases (hid : project ≠ "..") :
    home top project = top ∨ ∃ n, home top project = top.child n :=
  Glob.enterSegment_cases (fun he => hid (eq_of_safeText_eq he (by decide))) top

/-- The home of a project is the staging tree or lies in it. -/
theorem isWithin_home (hid : project ≠ "..") : (home top project).isWithin top = true := by
  rcases home_cases hid with heq | ⟨n, heq⟩
  · rw [heq, Location.isWithin_self]
  · rw [heq]
    exact (Location.liesBelow_child top n).1

/-- The directory of the copies of some bytes. -/
def shelf (top : Location) (project : String) (bytes : ByteArray) : Location :=
  (home top project).child ⟨Blake3.fingerprint bytes, Blake3.isName_fingerprint bytes⟩

/-- A copy lies on the shelf of its bytes, under the name of its source. -/
theorem normalize_copyOf (h : copyOf (stagingDirectory staging project) source bytes = some copy)
    (cwd : Location) : ∃ name, source.fileName? = some name ∧
      copy.normalize cwd = (shelf (staging.normalize cwd) project bytes).child name := by
  obtain ⟨name, hname, rfl⟩ := Option.map_eq_some_iff.1 h
  refine ⟨name, hname, ?_⟩
  rw [Path.normalize_join_name, Blake3.ofText_fingerprint, shelf, ← normalize_stagingDirectory]
  exact congrArg (Location.child · name)
    (Path.normalize_join_name cwd _ ⟨_, Blake3.isName_fingerprint bytes⟩)

end Analyzer

/-! ### Places on the way of a copy -/

namespace Disk

variable {d e f : Disk} {l m cwd : Location} {p : Path} {ls ms : List Location}

theorem mem_passed_append {segments : List String} {s : String}
    (h : m ∈ passed l (segments ++ [s])) :
    m ∈ passed l segments ∨ m = enterSegment (segments.foldl enterSegment l) s := by
  induction segments generalizing l with
  | nil => simpa [passed] using h
  | cons t segments ih =>
    rw [List.cons_append, passed] at h
    rcases List.mem_cons.1 h with rfl | h
    · exact .inl (mem_passed_self _ _)
    · exact (ih h).imp_left (List.mem_cons_of_mem _)

theorem mem_passed_join {segments : List String} {s : String}
    (h : m ∈ passed l (if segments.getLast? = some "" then segments.dropLast ++ [s]
      else segments ++ [s])) :
    m ∈ passed l segments ∨ m = enterSegment (segments.foldl enterSegment l) s := by
  split at h
  · rename_i hlast
    obtain ⟨front, rfl⟩ := List.getLast?_eq_some_iff.1 hlast
    rw [List.dropLast_concat] at h
    rw [List.foldl_append]
    exact (mem_passed_append h).imp_left fun hm => passed_subset (List.prefix_append _ _) hm
  · exact mem_passed_append h

theorem places_absolute {rest : List String} (h : rest ≠ []) :
    places cwd ⟨"" :: rest⟩ = passed .root rest := by
  obtain ⟨x, xs, rfl⟩ := List.exists_cons_of_ne_nil h
  rfl

/-- A segment behind a path adds to its way where it starts and where it leads. -/
theorem mem_places_join {s : String} (h : m ∈ places cwd (p.join ⟨[s]⟩)) :
    m ∈ places cwd p ∨ m = p.normalize cwd ∨ m = enterSegment (p.normalize cwd) s := by
  have hrelative : Path.isAbsolute ⟨[s]⟩ = false := by simp [Path.isAbsolute]
  have halone : ∀ {m}, m ∈ places cwd ⟨[s]⟩ → m = cwd ∨ m = enterSegment cwd s := fun {m} hm => by
    by_cases hs : s = ""
    · subst hs
      simp [places] at hm
    · rwa [places_relative hs, passed, passed, List.mem_cons, List.mem_singleton] at hm
  obtain ⟨segments⟩ := p
  simp only [Path.join, hrelative, Bool.false_or] at h
  cases segments with
  | nil => exact .inr (halone h)
  | cons x xs =>
    by_cases hx : x = ""
    · subst hx
      cases xs with
      | nil => exact .inr (halone h)
      | cons y ys =>
        rw [if_neg (by simp [Path.isEmpty]), List.getLast?_cons_cons] at h
        have hpassed : m ∈ passed .root (if (y :: ys).getLast? = some "" then
            (y :: ys).dropLast ++ [s] else y :: ys ++ [s]) := by
          split at h
          · rename_i hlast
            rw [List.dropLast_cons_cons, List.cons_append, places_absolute (by simp)] at h
            rwa [if_pos hlast]
          · rename_i hlast
            rwa [if_neg hlast]
        rw [Path.normalize_eq_foldl_enterSegment]
        exact (mem_passed_join hpassed).imp_right .inr
    · rw [if_neg (by simp [Path.isEmpty, hx])] at h
      have hpassed : m ∈ passed cwd (if (x :: xs).getLast? = some "" then
          (x :: xs).dropLast ++ [s] else x :: xs ++ [s]) := by
        split at h
        · rename_i hlast
          obtain ⟨y, ys, rfl⟩ : ∃ y ys, xs = y :: ys := List.exists_cons_of_ne_nil fun hnil => by
            simp [hnil, hx] at hlast
          rw [List.dropLast_cons_cons, List.cons_append, places_relative hx] at h
          rwa [if_pos hlast]
        · rename_i hlast
          rw [List.cons_append, places_relative hx] at h
          rwa [if_neg hlast]
      rw [places_relative hx, normalize_relative hx]
      exact (mem_passed_join hpassed).imp_right .inr

/-- Segments that do not go up pass only places between the first and the last. -/
theorem isWithin_of_mem_passed_of_not_up {segments : List String} (hup : ".." ∉ segments)
    (hm : m ∈ passed l segments) :
    (segments.foldl enterSegment l).isWithin m = true ∧ m.isWithin l = true := by
  induction segments generalizing l m with
  | nil =>
    obtain rfl : m = l := by simpa [passed] using hm
    exact ⟨m.isWithin_self, m.isWithin_self⟩
  | cons s segments ih =>
    rw [List.mem_cons, not_or] at hup
    have hdown : (enterSegment l s).isWithin l = true := by
      rcases Glob.enterSegment_cases (Ne.symm hup.1) l with heq | ⟨n, heq⟩
      · rw [heq]
        exact l.isWithin_self
      · rw [heq]
        exact (Location.liesBelow_child l n).1
    rw [passed] at hm
    rcases List.mem_cons.1 hm with rfl | hm
    · obtain ⟨hend, -⟩ := ih hup.2 (mem_passed_self (enterSegment m s) segments)
      exact ⟨Location.isWithin_trans hend hdown, m.isWithin_self⟩
    · obtain ⟨hend, hstart⟩ := ih hup.2 hm
      exact ⟨hend, Location.isWithin_trans hstart hdown⟩

/-- A path that does not go up passes only places above the one it leads to. -/
theorem isWithin_of_mem_places_of_not_up (hup : ".." ∉ p.segments) (hm : m ∈ places cwd p) :
    (p.normalize cwd).isWithin m = true := by
  obtain ⟨segments⟩ := p
  cases segments with
  | nil =>
    obtain rfl : m = cwd := by simpa [places, passed] using hm
    exact m.isWithin_self
  | cons s rest =>
    by_cases hs : s = ""
    · subst hs
      cases rest with
      | nil => simp [places] at hm
      | cons t rest =>
        rw [List.mem_cons, not_or] at hup
        rw [Path.normalize_eq_foldl_enterSegment]
        exact (isWithin_of_mem_passed_of_not_up hup.2 hm).1
    · rw [normalize_relative hs]
      exact (isWithin_of_mem_passed_of_not_up hup (places_relative hs ▸ hm)).1

/-! ### Directories on the way -/

/-- A disk has become another one by new directories at some of the places of a list. -/
structure Furnished (ls : List Location) (d e : Disk) : Prop where
  cwd_eq : e.cwd = d.cwd
  entryAt_cases : ∀ l, e.entryAt l = d.entryAt l ∨
    l ∈ ls ∧ d.entryAt l = none ∧ e.entryAt l = some .directory

theorem Furnished.refl (ls : List Location) (d : Disk) : Furnished ls d d :=
  ⟨rfl, fun _ => .inl rfl⟩

theorem Furnished.trans (h : Furnished ls d e) (h' : Furnished ls e f) : Furnished ls d f where
  cwd_eq := h'.cwd_eq.trans h.cwd_eq
  entryAt_cases l := by
    rcases h'.entryAt_cases l with heq | ⟨hl, hnone, hdir⟩
    · rw [heq]
      exact h.entryAt_cases l
    · rcases h.entryAt_cases l with heq | ⟨-, -, hdir'⟩
      · exact .inr ⟨hl, heq ▸ hnone, hdir⟩
      · simp [hnone] at hdir'

theorem Furnished.mono (h : Furnished ls d e) (hsub : ls ⊆ ms) : Furnished ms d e :=
  ⟨h.cwd_eq, fun l => (h.entryAt_cases l).imp_right (And.imp_left (hsub ·))⟩

/-- No file comes or goes, or has other contents. -/
theorem Furnished.file_iff (h : Furnished ls d e) (bytes : ByteArray) :
    e.entryAt l = some (.file bytes) ↔ d.entryAt l = some (.file bytes) := by
  rcases h.entryAt_cases l with heq | ⟨-, hnone, hdir⟩
  · rw [heq]
  · simp [hnone, hdir]

theorem furnished_createDirectory (h : d.createDirectory p = .ok e) :
    Furnished (places d.cwd p) d e := by
  obtain ⟨hlocate, hnone, -, rfl⟩ := createDirectory_eq_ok_iff.1 h
  refine ⟨rfl, fun l => ?_⟩
  rw [entryAt_put d _ l .directory (ne_root_of_entryAt_ne (d := d) (by simp [hnone]))]
  by_cases hl : p.normalize d.cwd = l
  · subst hl
    exact .inr ⟨mem_places_of_locate hlocate, hnone, if_pos rfl⟩
  · exact .inl (if_neg hl)

/-- **Making directories makes directories where nothing stood,** on the way of the path. -/
theorem Makes.furnished (h : Makes d p e) : Furnished (places d.cwd p) d e := by
  induction h with
  | none p => exact .refl _ d
  | above hparent _ ih => exact ih.mono (places_parent hparent)
  | one _ hmade ih =>
    refine ih.trans ?_
    rw [← ih.cwd_eq]
    exact furnished_createDirectory hmade

end Disk

/-! ### One analyzer -/

namespace Analyzer

open Disk

variable {d e f : Disk} {dir source : Path}

/-- What the path of a copy passes: the way to the staging tree, that tree, and what lies in the
home of the project. -/
theorem mem_places_copyOf {staging copy : Path} {project : String} {bytes : ByteArray}
    {l cwd : Location}
    (hcopy : copyOf (stagingDirectory staging project) source bytes = some copy)
    (hl : l ∈ places cwd copy) : l ∈ places cwd staging ∨ l = staging.normalize cwd ∨
      l.isWithin (home (staging.normalize cwd) project) = true := by
  obtain ⟨name, -, rfl⟩ := Option.map_eq_some_iff.1 hcopy
  have hshelf := (Location.liesBelow_child (home (staging.normalize cwd) project)
    ⟨Blake3.fingerprint bytes, Blake3.isName_fingerprint bytes⟩).1
  rw [Blake3.ofText_fingerprint] at hl
  rcases mem_places_join hl with hl | hl | hl
  · rcases mem_places_join hl with hl | hl | hl
    · rw [stagingDirectory_eq] at hl
      rcases mem_places_join hl with hl | hl | hl
      · exact .inl hl
      · exact .inr (.inl hl)
      · exact .inr (.inr (hl ▸ Location.isWithin_self _))
    · rw [normalize_stagingDirectory] at hl
      exact .inr (.inr (hl ▸ Location.isWithin_self _))
    · rw [normalize_stagingDirectory,
        enterSegment_name _ ⟨_, Blake3.isName_fingerprint bytes⟩] at hl
      exact .inr (.inr (hl ▸ hshelf))
  · rw [Path.normalize_join_segment, normalize_stagingDirectory,
      enterSegment_name _ ⟨_, Blake3.isName_fingerprint bytes⟩] at hl
    exact .inr (.inr (hl ▸ hshelf))
  · rw [Path.normalize_join_segment, normalize_stagingDirectory,
      enterSegment_name _ ⟨_, Blake3.isName_fingerprint bytes⟩, enterSegment_name] at hl
    exact .inr (.inr (hl ▸ Location.isWithin_trans (Location.liesBelow_child _ name).1 hshelf))

/-- What loading one analyzer does: on which disk it ends, and with which answer. -/
inductive Loads (dir : Path) (d : Disk) (source : Path) :
    Disk → Except LoadFault Loaded → Prop
  /-- there are no bytes, or there is no name for a copy of them -/
  | unread (fault : LoadFault)
    (hread : ∀ bytes, d.readBytes source = .ok bytes → copyOf dir source bytes = none) :
    Loads dir d source d (.error fault)
  /-- a copy of the right length is there -/
  | reused (bytes : ByteArray) (copy : Path) (hread : d.readBytes source = .ok bytes)
    (hcopy : copyOf dir source bytes = some copy) (hhas : hasCopy d copy bytes.size = true) :
    Loads dir d source d (readCopy d source copy (Blake3.fingerprint bytes))
  /-- there is no place for the copy -/
  | blocked (bytes : ByteArray) (copy : Path) (e : Disk) (fault : DiskFault)
    (hread : d.readBytes source = .ok bytes) (hcopy : copyOf dir source bytes = some copy)
    (hmade : Furnished (places d.cwd copy) d e) : Loads dir d source e (.error (.copy source fault))
  /-- the copy is written -/
  | copied (bytes : ByteArray) (copy : Path) (e f : Disk) (hread : d.readBytes source = .ok bytes)
    (hcopy : copyOf dir source bytes = some copy) (hmade : Furnished (places d.cwd copy) d e)
    (hwrite : e.writeFile copy bytes = .ok f) :
    Loads dir d source f (readCopy f source copy (Blake3.fingerprint bytes))

/-- **What loading one analyzer does.** -/
theorem loads_loadAnalyzer (dir : Path) (d : Disk) (source : Path) :
    Loads dir d source (loadAnalyzer dir d source).1 (loadAnalyzer dir d source).2 := by
  unfold loadAnalyzer
  cases hread : d.readBytes source with
  | error fault =>
    have hunread : ∀ bytes, d.readBytes source = .ok bytes → copyOf dir source bytes = none :=
      fun bytes hbytes => by simp [hread] at hbytes
    cases fault <;> exact .unread _ hunread
  | ok bytes =>
    cases hname : source.fileName? with
    | none => exact .unread _ fun bytes _ => by rw [copyOf, hname]; rfl
    | some name =>
      have hcopy := copyOf_eq hname dir bytes
      obtain ⟨above, habove⟩ := exists_parent_of_copyOf hcopy
      simp only
      split
      · rename_i hhas
        exact .reused bytes _ hread hcopy hhas
      · unfold makeCopy
        rw [habove, Option.getD_some]
        have hmade := (makes_createDirectories d above).furnished.mono (places_parent habove)
        rcases hres : d.createDirectories above with ⟨e, _ | fault⟩
        · rw [hres] at hmade
          simp only
          cases hwrite : e.writeFile _ bytes with
          | error fault => exact .blocked bytes _ e fault hread hcopy hmade
          | ok f => exact .copied bytes _ e f hread hcopy hmade hwrite
        · rw [hres] at hmade
          exact .blocked bytes _ e fault hread hcopy hmade

/-- A file that is written stands where its path leads, and nothing else has changed. -/
theorem of_writeFile {p : Path} {bytes : ByteArray} (h : d.writeFile p bytes = .ok f) :
    d.locate p = .ok (p.normalize d.cwd) ∧ d.entryAt (p.normalize d.cwd) ≠ some .directory ∧
      f.cwd = d.cwd ∧ ∀ l, f.entryAt l =
        if p.normalize d.cwd = l then some (.file bytes) else d.entryAt l := by
  obtain ⟨hlocate, hl, -, rfl⟩ := writeFile_eq_ok_iff.1 h
  exact ⟨hlocate, hl, rfl, fun m => entryAt_put d _ m _ (ne_root_of_entryAt_ne hl)⟩

end Analyzer
end LintWorkspace
