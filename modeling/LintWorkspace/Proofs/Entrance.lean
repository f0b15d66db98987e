/-
# Names behind the path of a directory

A copy lies two names behind the path of the directory of its project.  That path may be any: it
can go up, and it can lead through places where nothing stands yet.  Names behind it all fare
alike, and what becomes of them is told by whether the path is open (`Opens`, `opens_or`):

| the path leads | a name behind it | making a directory of that name |
| --- | --- | --- |
| to a directory | is looked up there | makes it, if nothing has the name |
| through a file | `notDirectory` | changes nothing |
| through a place where nothing stands | `notFound` | starts with what is missing on the way |

What is missing on the way does not depend on the name, so all names behind the path have one
disk on which the path is open, or the same fault (`exists_entrance`).
-/

import LintWorkspace.Proofs.Copying

namespace LintWorkspace

/-! ### How a name behind a path is written -/

namespace Path

variable {p : Path} {n m : Name}

/-- The segments that a name is written behind when it is joined to a path. -/
def lead (p : Path) : List String :=
  if p.isEmpty then []
  else if p.segments.getLast? = some "" then p.segments.dropLast
  else p.segments

theorem join_name (p : Path) (n : Name) : p.join ⟨[n.text]⟩ = ⟨p.lead ++ [n.text]⟩ := by
  have hrelative : isAbsolute ⟨[n.text]⟩ = false := by simp [isAbsolute]
  rw [join, lead, hrelative, Bool.false_or]
  split
  · rfl
  · split <;> rfl

theorem lead_name (front : List String) (n : Name) :
    lead ⟨front ++ [n.text]⟩ = front ++ [n.text] := by
  rw [lead, not_isEmpty_name, if_neg Bool.false_ne_true, if_neg (by simp [n.legal.1])]

theorem aboveName_name (front : List String) (n : Name) :
    aboveName (front ++ [n.text]) = ⟨front ++ [n.text]⟩ := by
  have hbody : ∀ rest, dropIdleEnd (rest ++ [n.text]) = rest ++ [n.text] := fun rest =>
    dropIdleEnd_append_singleton (not_isIdle n)
  by_cases hroot : (front ++ [n.text]).head? = some ""
  · cases front with
    | nil => exact absurd (Option.some.inj hroot) n.legal.1
    | cons x front =>
      obtain rfl : x = "" := Option.some.inj hroot
      simp [aboveName, hbody]
  · by_cases hdot : (front ++ [n.text]).head? = some "."
    · cases front with
      | nil => exact absurd (Option.some.inj hdot) n.legal.2.1
      | cons x front =>
        obtain rfl : x = "." := Option.some.inj hdot
        simp [aboveName, hbody]
    · rw [aboveName_relative hroot hdot, hbody, if_neg (by simp)]

/-- Of a path that starts with a name, not all segments are idle. -/
theorem eq_nil_of_dropIdleEnd {front : List String} (hroot : front.head? ≠ some "")
    (hdot : front.head? ≠ some ".") (hnil : dropIdleEnd front = []) : front = [] := by
  obtain ⟨idle, hfront, hidle⟩ := exists_idle_end front
  rw [hnil, List.nil_append] at hfront
  cases front with
  | nil => rfl
  | cons s front =>
    have hs : s = "" ∨ s = "." := by
      simpa [isIdle] using hidle s (hfront ▸ List.mem_cons_self)
    rcases hs with rfl | rfl
    · exact absurd rfl hroot
    · exact absurd rfl hdot

/-- Two names behind a path, the second one is in a directory of the first. -/
theorem parent?_join_name (p : Path) (n m : Name) :
    ((p.join ⟨[n.text]⟩).join ⟨[m.text]⟩).parent? = some (p.join ⟨[n.text]⟩) := by
  rw [join_name, join_name, lead_name, parent?_name, aboveName_name]

theorem not_isEmpty_join_name (p : Path) (n : Name) : (p.join ⟨[n.text]⟩).isEmpty = false := by
  rw [join_name, not_isEmpty_name]

end Path

/-! ### Where a name behind a path leads -/

namespace Disk

variable {d e : Disk} {l m top : Location} {p : Path} {n : Name} {fault : DiskFault}

theorem follow_append (d : Disk) (l : Location) (xs ys : List String) :
    d.follow l (xs ++ ys) = d.follow l xs >>= fun m => d.follow m ys := by
  induction xs generalizing l with
  | nil => rfl
  | cons x xs ih =>
    rw [List.cons_append, follow, follow]
    cases d.entryAt l with
    | none => rfl
    | some entry =>
      cases entry with
      | file bytes => rfl
      | directory => exact ih _

theorem fault_of_follow {segments : List String} (h : d.follow l segments = .error fault) :
    fault = .notFound ∨ fault = .notDirectory := by
  induction segments generalizing l with
  | nil => simp [follow] at h
  | cons s segments ih =>
    rw [follow] at h
    split at h
    · exact ih h
    · exact .inr (Except.error.inj h).symm
    · exact .inl (Except.error.inj h).symm

/-- Segments and a name are followed from the same place whatever comes behind them. -/
theorem exists_start (front : List String) (cwd : Location) : ∃ start segments,
    ∀ d : Disk, d.cwd = cwd → ∀ (n : Name) (more : List String),
      d.locate ⟨front ++ n.text :: more⟩ = d.follow start (segments ++ n.text :: more) := by
  cases front with
  | nil => exact ⟨cwd, [], fun d hd n more => hd ▸ locate_relative n.legal.1⟩
  | cons s front =>
    by_cases hs : s = ""
    · subst hs
      refine ⟨.root, front, fun d _ n more => ?_⟩
      cases front <;> rfl
    · exact ⟨cwd, s :: front, fun d hd n more => hd ▸ locate_relative hs⟩

/-- A path that leads to a directory, in which names behind the path are looked up. -/
structure Opens (d : Disk) (p : Path) : Prop where
  directory : d.entryAt (p.normalize d.cwd) = some .directory
  locate_eq : ∀ n : Name, d.locate (p.join ⟨[n.text]⟩) = .ok ((p.normalize d.cwd).child n)

/-- **A path is open, or all names behind it meet the same fault.** -/
theorem opens_or (d : Disk) (p : Path) : Opens d p ∨
    ∃ fault, (fault = .notFound ∨ fault = .notDirectory) ∧
      ∀ n : Name, d.locate (p.join ⟨[n.text]⟩) = .error fault := by
  obtain ⟨start, segments, hlocate⟩ := exists_start p.lead d.cwd
  have hname : ∀ n : Name, d.locate (p.join ⟨[n.text]⟩) =
      d.follow start segments >>= fun m => d.follow m [n.text] := fun n => by
    rw [Path.join_name, hlocate d rfl n [], follow_append]
  cases hfollow : d.follow start segments with
  | error fault =>
    exact .inr ⟨fault, fault_of_follow hfollow, fun n => by rw [hname, hfollow]; rfl⟩
  | ok m =>
    have hlast : ∀ n : Name, d.locate (p.join ⟨[n.text]⟩) = d.follow m [n.text] := fun n => by
      rw [hname, hfollow]
      rfl
    cases hentry : d.entryAt m with
    | none => exact .inr ⟨.notFound, .inl rfl, fun n => by rw [hlast, follow, hentry]⟩
    | some entry =>
      cases entry with
      | file bytes => exact .inr ⟨.notDirectory, .inr rfl, fun n => by rw [hlast, follow, hentry]⟩
      | directory =>
        have hok : ∀ n : Name, d.locate (p.join ⟨[n.text]⟩) = .ok (m.child n) := fun n => by
          rw [hlast, follow, hentry]
          exact congrArg Except.ok (enterSegment_name m n)
        obtain rfl : m = p.normalize d.cwd := by
          have hplace := eq_normalize_of_locate (hok ⟨"x", by decide⟩)
          rw [Path.normalize_join_name] at hplace
          exact (Location.child_injective hplace).1
        exact .inl ⟨hentry, hok⟩

theorem opens_of_locate (h : d.locate (p.join ⟨[n.text]⟩) = .ok l) : Opens d p :=
  (opens_or d p).resolve_right fun ⟨fault, _, hfault⟩ => by simp [hfault n] at h

/-- An open path stays open while the disk grows. -/
theorem Opens.grown (h : Opens d p) (hgrown : Grown top d e) : Opens e p where
  directory := by
    rw [hgrown.cwd_eq]
    exact hgrown.directory _ h.directory
  locate_eq n := by
    rw [hgrown.cwd_eq]
    exact hgrown.locate_eq (h.locate_eq n)

/-- Two names behind a path are followed as far as the first one. -/
theorem locate_join_name (d : Disk) (p : Path) (n m : Name) :
    d.locate ((p.join ⟨[n.text]⟩).join ⟨[m.text]⟩) =
      d.locate (p.join ⟨[n.text]⟩) >>= fun l => d.follow l [m.text] := by
  obtain ⟨start, segments, hlocate⟩ := exists_start p.lead d.cwd
  have hsplit : segments ++ [n.text, m.text] = segments ++ [n.text] ++ [m.text] := by simp
  rw [Path.join_name, Path.join_name, Path.lead_name, List.append_assoc, List.singleton_append,
    hlocate d rfl, hsplit, follow_append, hlocate d rfl]

/-- Two names behind an open path, of which the first is a directory. -/
theorem Opens.locate_join_name (h : Opens d p) {m : Name}
    (hdir : d.entryAt ((p.normalize d.cwd).child n) = some .directory) :
    d.locate ((p.join ⟨[n.text]⟩).join ⟨[m.text]⟩) =
      .ok (((p.normalize d.cwd).child n).child m) := by
  rw [Disk.locate_join_name, h.locate_eq]
  simp only [bind, Except.bind, follow, hdir]
  exact congrArg Except.ok (enterSegment_name _ m)

/-! ### Directories behind a path -/

/-- Making a directory whose parent stands takes one step. -/
theorem createDirectories_eq (hempty : p.isEmpty = false)
    (hfound : d.createDirectory p ≠ .error .notFound) : d.createDirectories p =
      match d.createDirectory p with
      | .ok e => (e, none)
      | .error fault => (d, if d.isDirectory p then none else some fault) := by
  rw [createDirectories, createDirectoriesWithin, hempty, if_neg Bool.false_ne_true]
  cases hmake : d.createDirectory p with
  | ok e => rfl
  | error fault =>
    cases fault with
    | notFound => exact absurd hmake hfound
    | _ => rfl

/-- Making a directory whose parent is missing starts with the parent. -/
theorem createDirectories_of_missing {above : Path} (hempty : p.isEmpty = false)
    (hmissing : d.createDirectory p = .error .notFound) (hparent : p.parent? = some above) :
    (∀ e fault, createDirectoriesWithin p.segments.length d above = (e, some fault) →
      d.createDirectories p = (e, some fault)) ∧
    ∀ e, createDirectoriesWithin p.segments.length d above = (e, none) →
      e.createDirectory p ≠ .error .notFound → d.createDirectories p = e.createDirectories p := by
  refine ⟨fun e fault hfirst => ?_, fun e hfirst hfound => ?_⟩
  · simp [createDirectories, createDirectoriesWithin, hempty, hmissing, hparent, hfirst]
  · rw [createDirectories_eq hempty hfound]
    cases hmake : e.createDirectory p <;>
      simp [createDirectories, createDirectoriesWithin, hempty, hmissing, hparent, hfirst, hmake]

theorem isDirectory_of_locate (h : d.locate p = .ok l) :
    d.isDirectory p = decide (d.entryAt l = some .directory) := by
  simp only [isDirectory, find, h, bind, Except.bind]
  cases d.entryAt l with
  | none => simp
  | some entry => cases entry <;> simp

theorem not_isDirectory_of_locate (h : d.locate p = .error fault) : d.isDirectory p = false := by
  simp [isDirectory, find, h, bind, Except.bind]

section Open

variable (h : Opens d p)
include h

theorem Opens.createDirectory_eq (n : Name) : d.createDirectory (p.join ⟨[n.text]⟩) =
    match d.entryAt ((p.normalize d.cwd).child n) with
    | some _ => .error .exists
    | none => .ok (d.put ((p.normalize d.cwd).child n) .directory) := by
  cases hentry : d.entryAt ((p.normalize d.cwd).child n) <;>
    simp [createDirectory, h.locate_eq n, hentry, h.directory, bind, Except.bind]

/-- Behind an open path a directory is made unless something has the name. -/
theorem Opens.createDirectories_eq (n : Name) : d.createDirectories (p.join ⟨[n.text]⟩) =
    match d.entryAt ((p.normalize d.cwd).child n) with
    | some .directory => (d, none)
    | some (.file _) => (d, some .exists)
    | none => (d.put ((p.normalize d.cwd).child n) .directory, none) := by
  have hmake := h.createDirectory_eq n
  have hempty := Path.not_isEmpty_join_name p n
  cases hentry : d.entryAt ((p.normalize d.cwd).child n) with
  | none =>
    rw [hentry] at hmake
    rw [Disk.createDirectories_eq hempty (by simp [hmake]), hmake]
  | some entry =>
    rw [hentry] at hmake
    rw [Disk.createDirectories_eq hempty (by simp [hmake]), hmake,
      isDirectory_of_locate (h.locate_eq n), hentry]
    cases entry <;> simp

/-- Behind an open path with no file in the way there are directories all the way. -/
theorem Opens.exists_createDirectories (hd : d.Tree)
    (hfree : ¬ d.Barred ((p.normalize d.cwd).child n)) :
    ∃ e : Disk, d.createDirectories (p.join ⟨[n.text]⟩) = (e, none) ∧ e.cwd = d.cwd ∧
      ∀ l, e.entryAt l =
        if ((p.normalize d.cwd).child n).isWithin l then some .directory else d.entryAt l := by
  have hmake := h.createDirectories_eq n
  have habove : ∀ l, ((p.normalize d.cwd).child n).isWithin l = true →
      (p.normalize d.cwd).child n ≠ l → d.entryAt l = some .directory := fun l hw hne => by
    have hw' := Location.parent_isWithin hw hne
    rw [Location.parent_child] at hw'
    by_cases hl : p.normalize d.cwd = l
    · rw [← hl, h.directory]
    · exact hd.directory_of_isWithin (by simp [h.directory]) hw' hl
  cases hentry : d.entryAt ((p.normalize d.cwd).child n) with
  | none =>
    rw [hentry] at hmake
    refine ⟨_, hmake, rfl, fun l => ?_⟩
    rw [entryAt_put d _ _ _ (child_ne_root _ n)]
    by_cases hl : (p.normalize d.cwd).child n = l
    · rw [if_pos hl, ← hl, if_pos (Location.isWithin_self _)]
    · rw [if_neg hl]
      split
      · exact habove l ‹_› hl
      · rfl
  | some entry =>
    cases entry with
    | file b => exact absurd ⟨_, Location.isWithin_self _, b, hentry⟩ hfree
    | directory =>
      rw [hentry] at hmake
      refine ⟨d, hmake, rfl, fun l => ?_⟩
      split
      · by_cases hl : (p.normalize d.cwd).child n = l
        · rw [← hl, hentry]
        · exact habove l ‹_› hl
      · rfl

end Open

/-- What was made is there. -/
theorem isDirectory_of_createDirectory (h : d.createDirectory p = .ok e) :
    e.isDirectory p = true := by
  have hgrown : Grown .root d e := grown_createDirectory h
  obtain ⟨hlocate, hnone, -, rfl⟩ := createDirectory_eq_ok_iff.1 h
  have hroot := ne_root_of_entryAt_ne (d := d) (l := p.normalize d.cwd) (by simp [hnone])
  rw [isDirectory_of_locate (hgrown.locate_eq hlocate), entryAt_put d _ _ _ hroot, if_pos rfl,
    decide_eq_true rfl]

/-- The making of directories that ends well ends with the directory. -/
theorem isDirectory_of_createDirectoriesWithin {k : Nat}
    (h : createDirectoriesWithin k d p = (e, none)) :
    p.isEmpty = true ∨ e.isDirectory p = true := by
  have hend : ∀ {f : Disk} {fault : DiskFault},
      (f, if f.isDirectory p then none else some fault) = (e, none) → e.isDirectory p = true := by
    intro f fault heq
    obtain ⟨rfl, hnone⟩ := Prod.mk.inj heq
    by_contra hnot
    rw [if_neg hnot] at hnone
    simp at hnone
  cases k with
  | zero => simp [createDirectoriesWithin] at h
  | succ k =>
    rw [createDirectoriesWithin] at h
    split at h
    · exact .inl ‹_›
    · right
      split at h
      · rename_i hmade
        obtain ⟨rfl, -⟩ := Prod.mk.inj h
        exact isDirectory_of_createDirectory hmade
      · split at h
        · simp at h
        · split at h
          · simp at h
          · split at h
            · rename_i hmade
              obtain ⟨rfl, -⟩ := Prod.mk.inj h
              exact isDirectory_of_createDirectory hmade
            · exact hend h
      · exact hend h

/-- Making directories leaves a tree a tree. -/
theorem Makes.tree (h : Makes d p e) (hd : d.Tree) : e.Tree := by
  induction h with
  | none p => exact hd
  | above _ _ ih => exact ih
  | one _ hmade ih =>
    obtain ⟨-, hnone, hparent, rfl⟩ := createDirectory_eq_ok_iff.1 hmade
    exact ih.put_directory hnone hparent

/-! ### The way to an open path -/

theorem follow_idle {idle : List String} (hidle : ∀ s ∈ idle, Path.isIdle s = true)
    (hl : d.entryAt l = some .directory) (n : Name) :
    d.follow l (idle ++ [n.text]) = .ok (l.child n) := by
  induction idle with
  | nil =>
    rw [List.nil_append, follow, hl]
    exact congrArg Except.ok (enterSegment_name l n)
  | cons s idle ih =>
    rw [List.cons_append, follow, hl]
    simp only [Path.enterSegment_idle (hidle s List.mem_cons_self)]
    exact ih fun t ht => hidle t (List.mem_cons_of_mem _ ht)

/-- Segments behind a path that leads somewhere are followed from there. -/
theorem locate_append {front more : List String} (hne : front ≠ [])
    (h : d.locate ⟨front⟩ = .ok l) : d.locate ⟨front ++ more⟩ = d.follow l more := by
  cases front with
  | nil => exact absurd rfl hne
  | cons s front =>
    by_cases hs : s = ""
    · subst hs
      cases front with
      | nil => simp [locate] at h
      | cons t front =>
        have h : d.follow .root (t :: front) = .ok l := h
        change d.follow .root (t :: front ++ more) = _
        rw [follow_append, h]
        rfl
    · rw [locate_relative hs] at h
      rw [List.cons_append, locate_relative hs, ← List.cons_append, follow_append, h]
      rfl

/-- Idle segments behind a path to a directory lead nowhere else. -/
theorem exists_locate_of_isDirectory {front idle : List String} (hne : front ≠ [])
    (hidle : ∀ s ∈ idle, Path.isIdle s = true) (h : d.isDirectory ⟨front⟩ = true) (n : Name) :
    ∃ l, d.locate ⟨front ++ idle ++ [n.text]⟩ = .ok l := by
  cases hlocate : d.locate ⟨front⟩ with
  | error fault => simp [not_isDirectory_of_locate hlocate] at h
  | ok m =>
    rw [isDirectory_of_locate hlocate, decide_eq_true_iff] at h
    refine ⟨m.child n, ?_⟩
    rw [List.append_assoc, locate_append hne hlocate, follow_idle hidle h]

theorem exists_locate_absolute {rest : List String}
    (h : (Path.aboveName ("" :: rest)).isEmpty = true ∨
      d.isDirectory (Path.aboveName ("" :: rest)) = true)
    (n : Name) : ∃ l, d.locate ⟨"" :: rest ++ [n.text]⟩ = .ok l := by
  have hroot : d.entryAt .root = some .directory := rfl
  obtain ⟨idle, hrest, hidle⟩ := Path.exists_idle_end rest
  by_cases hnil : Path.dropIdleEnd rest = []
  · -- nothing but the root is above the name
    rw [hnil, List.nil_append] at hrest
    have hlocate : d.locate ⟨"" :: rest ++ [n.text]⟩ = d.follow .root (rest ++ [n.text]) := by
      cases rest <;> rfl
    exact ⟨_, by rw [hlocate, hrest, follow_idle hidle hroot]⟩
  · have habove : Path.aboveName ("" :: rest) = ⟨"" :: Path.dropIdleEnd rest⟩ := if_neg hnil
    rw [habove] at h
    have hdir := h.resolve_left (by simp [Path.isEmpty, hnil])
    rw [hrest]
    exact exists_locate_of_isDirectory (by simp) hidle hdir n

theorem exists_locate_dot {rest : List String}
    (h : (Path.aboveName ("." :: rest)).isEmpty = true ∨
      d.isDirectory (Path.aboveName ("." :: rest)) = true)
    (n : Name) : ∃ l, d.locate ⟨"." :: rest ++ [n.text]⟩ = .ok l := by
  obtain ⟨idle, hrest, hidle⟩ := Path.exists_idle_end rest
  have hdir := h.resolve_left (by simp [Path.aboveName, Path.isEmpty])
  rw [hrest]
  exact exists_locate_of_isDirectory (by simp) hidle hdir n

theorem Tree.exists_locate_plain (hd : d.Tree) {front : List String}
    (hslash : front.head? ≠ some "") (hdot : front.head? ≠ some ".")
    (h : (Path.aboveName front).isEmpty = true ∨ d.isDirectory (Path.aboveName front) = true)
    (n : Name) : ∃ l, d.locate ⟨front ++ [n.text]⟩ = .ok l := by
  rw [Path.aboveName_relative hslash hdot] at h
  by_cases hnil : Path.dropIdleEnd front = []
  · -- the name is looked up where relative paths start
    rw [Path.eq_nil_of_dropIdleEnd hslash hdot hnil, List.nil_append]
    refine ⟨d.cwd.child n, ?_⟩
    rw [locate_relative n.legal.1, follow, hd.cwd]
    exact congrArg Except.ok (enterSegment_name _ n)
  · obtain ⟨idle, hfront, hidle⟩ := Path.exists_idle_end front
    rw [if_neg hnil] at h
    have hdir := h.resolve_left fun hempty => by
      have hone : Path.dropIdleEnd front = [""] := by simpa [Path.isEmpty] using hempty
      rw [hone] at hfront
      exact hslash (hfront ▸ rfl)
    rw [hfront]
    exact exists_locate_of_isDirectory hnil hidle hdir n

/-- A path is open if the directory above the names behind it stands. -/
theorem Tree.exists_locate_of_aboveName (hd : d.Tree) {front : List String}
    (h : (Path.aboveName front).isEmpty = true ∨ d.isDirectory (Path.aboveName front) = true)
    (n : Name) : ∃ l, d.locate ⟨front ++ [n.text]⟩ = .ok l := by
  by_cases hslash : front.head? = some ""
  · obtain ⟨rest, rfl⟩ := List.head?_eq_some_iff.1 hslash
    exact exists_locate_absolute h n
  · by_cases hdot : front.head? = some "."
    · obtain ⟨rest, rfl⟩ := List.head?_eq_some_iff.1 hdot
      exact exists_locate_dot h n
    · exact hd.exists_locate_plain hslash hdot h n

/-- **All names behind a path have one disk on which the path is open, or the same fault.** -/
theorem Tree.exists_entrance (hd : d.Tree) (p : Path) :
    (∃ e fault, ∀ n : Name, d.createDirectories (p.join ⟨[n.text]⟩) = (e, some fault)) ∨
      ∃ e ls, Opens e p ∧ e.Tree ∧ Furnished ls d e ∧
        ∀ n : Name, d.createDirectories (p.join ⟨[n.text]⟩) =
          e.createDirectories (p.join ⟨[n.text]⟩) := by
  rcases opens_or d p with hopens | ⟨fault, hcases, hfault⟩
  · exact .inr ⟨d, [], hopens, hd, .refl _ d, fun _ => rfl⟩
  · have hmake : ∀ n : Name, d.createDirectory (p.join ⟨[n.text]⟩) = .error fault := fun n => by
      rw [createDirectory, hfault n]
      rfl
    rcases hcases with rfl | rfl
    · -- what is missing on the way is made first
      have hlength : ∀ n : Name, (p.join ⟨[n.text]⟩).segments.length = p.lead.length + 1 :=
        fun n => by rw [Path.join_name, List.length_append, List.length_singleton]
      have hparent : ∀ n : Name, (p.join ⟨[n.text]⟩).parent? = some (Path.aboveName p.lead) :=
        fun n => by rw [Path.join_name, Path.parent?_name]
      have hmissing := fun n : Name => createDirectories_of_missing
        (Path.not_isEmpty_join_name p n) (hmake n) (hparent n)
      simp only [hlength] at hmissing
      have hmakes := makes_createDirectoriesWithin (p.lead.length + 1) d (Path.aboveName p.lead)
      rcases hpre : createDirectoriesWithin (p.lead.length + 1) d (Path.aboveName p.lead) with
        ⟨e, _ | fault⟩
      · rw [hpre] at hmakes
        have htree := hmakes.tree hd
        have hopens : Opens e p := by
          obtain ⟨l, hlocate⟩ := htree.exists_locate_of_aboveName
            (isDirectory_of_createDirectoriesWithin hpre) ⟨"x", by decide⟩
          rw [← Path.join_name] at hlocate
          exact opens_of_locate hlocate
        refine .inr ⟨e, _, hopens, htree, hmakes.furnished, fun n => (hmissing n).2 e hpre ?_⟩
        rw [hopens.createDirectory_eq n]
        split <;> simp
      · exact .inl ⟨e, fault, fun n => (hmissing n).1 e fault hpre⟩
    · refine .inl ⟨d, .notDirectory, fun n => ?_⟩
      simp [createDirectories_eq (Path.not_isEmpty_join_name p n), hmake n,
        not_isDirectory_of_locate (hfault n)]

end Disk

/-! ### Copies behind an open path -/

namespace Analyzer

open Disk

variable {d : Disk} {dir : Path}

theorem normalize_join_join (cwd : Location) (p : Path) (n m : Name) :
    ((p.join ⟨[n.text]⟩).join ⟨[m.text]⟩).normalize cwd =
      ((p.normalize cwd).child n).child m := by
  rw [Path.normalize_join_name, Path.normalize_join_name]

/-- **Behind an open path nothing but the place of a copy decides.** -/
theorem regular_of_opens (hd : d.Tree) (h : Opens d dir) (n m : Name) :
    Regular d ((dir.join ⟨[n.text]⟩).join ⟨[m.text]⟩) := by
  have hplace := normalize_join_join d.cwd dir n m
  have hparent := Path.parent?_join_name dir n m
  refine ⟨?_, fun b hentry => ?_, fun hbarred bytes => ?_, fun hfree bytes => ?_⟩
  · rw [hplace]
    exact child_ne_root _ m
  · rw [hplace] at hentry
    have hdir := hd.parent _ (show d.entryAt _ ≠ none by rw [hentry]; simp)
    rw [Location.parent_child] at hdir
    simp [find, h.locate_join_name hdir, hentry, bind, Except.bind]
  · -- only a file of the first name can be in the way
    rw [hplace, Location.parent_child] at hbarred ⊢
    have hfile : d.HasFile ((dir.normalize d.cwd).child n) := by
      by_contra hnot
      have hhome := hbarred.parent hnot
      rw [Location.parent_child] at hhome
      exact hd.not_barred h.directory hhome
    obtain ⟨b, hentry⟩ := hfile
    have hmake := h.createDirectories_eq n
    rw [hentry] at hmake
    rw [if_pos ⟨b, hentry⟩, makeCopy, hparent, Option.getD_some, hmake]
  · rw [hplace, Location.parent_child] at hfree
    obtain ⟨e, hmade, hcwd, hentries⟩ := h.exists_createDirectories hd hfree
    have hgrown : Grown .root d (d.createDirectories (dir.join ⟨[n.text]⟩)).1 :=
      (makes_createDirectories d _).grown
    rw [hmade] at hgrown
    refine exists_makeCopy_of_createDirectories hparent hmade hcwd ?_ ?_ ?_ bytes
    · rw [hplace, Location.parent_child]
      exact hentries
    · rw [hplace]
      exact child_ne_root _ m
    · have hdir : e.entryAt ((dir.normalize e.cwd).child n) = some .directory := by
        rw [hcwd, hentries, if_pos (Location.isWithin_self _)]
      rw [(h.grown hgrown).locate_join_name hdir, hcwd, hplace]

end Analyzer
end LintWorkspace
