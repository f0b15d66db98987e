/-
# What loading analyzers adds to a disk

Loading analyzers makes directories and writes copies, and nothing else.  So it only
makes a disk grow (`Grown`): directories and files stay what they are, and a new
file lies below the directory of the project in the staging tree
(`grown_withAnalyzers`).

What a pattern finds, it finds on a grown disk as well (`Finds.grown`).  It can find
more there: the copies, and also a file that was there before, if it leaves a new
directory by `..`.  A pattern that has no such way back (`NoWayBack`) and finds no
copies finds on the grown disk what it found before (`findSources_of_grown`).
-/

import LintWorkspace.Proofs.Staging
import LintWorkspace.Proofs.Walk

namespace LintWorkspace

/-- A location lies below another one. -/
def Location.LiesBelow (l top : Location) : Prop := l.isWithin top = true ∧ l ≠ top

instance (l top : Location) : Decidable (l.LiesBelow top) :=
  inferInstanceAs (Decidable (_ ∧ _))

theorem Text.splitOn_of_not_mem {sep : Char} {cs : List Char} (h : sep ∉ cs) :
    splitOn sep cs = [cs] := by
  induction cs with
  | nil => rfl
  | cons c cs ih =>
    rw [List.mem_cons, not_or] at h
    rw [splitOn, if_neg (Ne.symm h.1), ih h.2]

namespace Path

variable {cwd : Location} {p : Path}

/-- Normalizing follows the segments of a path. -/
theorem normalize_eq_foldl_enterSegment (cwd : Location) (p : Path) :
    p.normalize cwd = p.segments.foldl Disk.enterSegment (if p.isAbsolute then .root else cwd) := by
  obtain ⟨segments⟩ := p
  cases segments with
  | nil => rfl
  | cons s rest =>
    by_cases hs : s = ""
    · subst hs
      cases rest with
      | nil => rfl
      | cons t rest => rw [Disk.foldl_enterSegment]; rfl
    · have habsolute : isAbsolute ⟨s :: rest⟩ = false := by
        cases rest <;> simp [isAbsolute, hs]
      rw [Disk.normalize_relative hs, habsolute]
      rfl

/-- **A path behind another is read where that one leads.** -/
theorem normalize_join (cwd : Location) (p : Path) {q : Path} (hq : q.segments ≠ []) :
    (p.join q).normalize cwd = q.normalize (p.normalize cwd) := by
  by_cases habsolute : q.isAbsolute = true
  · rw [join, habsolute, Bool.true_or, if_pos rfl, normalize_eq_foldl_enterSegment,
      normalize_eq_foldl_enterSegment, if_pos habsolute, if_pos habsolute]
  · rw [join, Bool.eq_false_of_not_eq_true habsolute, Bool.false_or,
      normalize_eq_foldl_enterSegment (p.normalize cwd) q, if_neg habsolute]
    obtain ⟨segments⟩ := p
    obtain ⟨s, rest, hcons⟩ := List.exists_cons_of_ne_nil hq
    by_cases hidle : isEmpty ⟨segments⟩ = true
    · have hsegments : segments = [""] := by simpa [isEmpty] using hidle
      subst hsegments
      rw [if_pos hidle, normalize_eq_foldl_enterSegment, if_neg habsolute]
      rfl
    · rw [if_neg hidle]
      split
      · rename_i hlast
        obtain ⟨front, rfl⟩ := List.getLast?_eq_some_iff.1 hlast
        have hsame : isAbsolute ⟨front ++ q.segments⟩ = isAbsolute ⟨front ++ [""]⟩ := by
          match front with
          | [] => simp [isEmpty] at hidle
          | [t] => by_cases ht : t = "" <;> simp [isAbsolute, ht, hcons]
          | t :: u :: more => by_cases ht : t = "" <;> simp [isAbsolute, ht]
        simp only [normalize_eq_foldl_enterSegment, List.dropLast_concat, hsame,
          List.foldl_append, List.foldl_cons, List.foldl_nil]
        rfl
      · rename_i hlast
        have hsame : isAbsolute ⟨segments ++ q.segments⟩ = isAbsolute ⟨segments⟩ := by
          match segments with
          | [] => simpa [isAbsolute] using habsolute
          | [t] =>
            have ht : t ≠ "" := fun ht => hlast (by rw [ht]; rfl)
            simp [isAbsolute, ht]
          | t :: u :: more => by_cases ht : t = "" <;> simp [isAbsolute, ht]
        simp only [normalize_eq_foldl_enterSegment, hsame, List.foldl_append]

/-- A segment behind a path is entered from where the path leads. -/
theorem normalize_join_segment (cwd : Location) (p : Path) (s : String) :
    (p.join ⟨[s]⟩).normalize cwd = Disk.enterSegment (p.normalize cwd) s := by
  have hrelative : isAbsolute ⟨[s]⟩ = false := by simp [isAbsolute]
  rw [normalize_join cwd p (List.cons_ne_nil s []), normalize_eq_foldl_enterSegment, hrelative]
  rfl

/-- A name behind a path leads to the entry of that name. -/
theorem normalize_join_name (cwd : Location) (p : Path) (n : Name) :
    (p.join ⟨[n.text]⟩).normalize cwd = (p.normalize cwd).child n := by
  rw [normalize_join_segment, Disk.enterSegment_name]

end Path

/-! ### Where copies lie -/

namespace Blake3

theorem not_mem_hexWord (w : UInt32) : '/' ∉ hexWord w := by
  have hdigit : ∀ n, '/' ≠ Nat.digitChar n := fun n => (Nat.digitChar_ne '/' rfl).symm
  simp only [hexWord, hexByte, List.mem_append, List.mem_cons, List.not_mem_nil, hdigit, or_self,
    not_false_eq_true]

theorem not_mem_fingerprint (bytes : ByteArray) : '/' ∉ (fingerprint bytes).toList := by
  unfold fingerprint
  generalize hash bytes = h
  simp only [String.toList_ofList, List.mem_append, not_mem_hexWord, or_self, not_false_eq_true]

theorem length_fingerprint (bytes : ByteArray) : (fingerprint bytes).toList.length = 16 := by
  unfold fingerprint
  generalize hash bytes = h
  simp only [String.toList_ofList, List.length_append, hexWord, hexByte, List.length_cons,
    List.length_nil]

theorem isName_fingerprint (bytes : ByteArray) : IsName (fingerprint bytes) := by
  have hne : ∀ s : String, s.toList.length ≠ 16 → fingerprint bytes ≠ s :=
    fun s hs h => hs (h ▸ length_fingerprint bytes)
  exact ⟨hne _ (by decide), hne _ (by decide), hne _ (by decide), not_mem_fingerprint bytes⟩

/-- The path that a fingerprint spells has one segment. -/
theorem ofText_fingerprint (bytes : ByteArray) :
    Path.ofText (fingerprint bytes) = ⟨[fingerprint bytes]⟩ := by
  rw [Path.ofText, Text.splitOn_of_not_mem (not_mem_fingerprint bytes)]
  simp

end Blake3

namespace Analyzer

/-- A copy lies two levels below the directory of its project. -/
theorem liesBelow_of_copyOf {dir source copy : Path} {bytes : ByteArray}
    (h : copyOf dir source bytes = some copy) (cwd : Location) :
    (copy.normalize cwd).LiesBelow (dir.normalize cwd) := by
  obtain ⟨name, -, rfl⟩ := Option.map_eq_some_iff.1 h
  have hdir : ((dir.join (.ofText (Blake3.fingerprint bytes))).normalize cwd) =
      (dir.normalize cwd).child ⟨_, Blake3.isName_fingerprint bytes⟩ := by
    rw [Blake3.ofText_fingerprint]
    exact Path.normalize_join_name cwd dir ⟨_, Blake3.isName_fingerprint bytes⟩
  rw [Path.normalize_join_name, hdir]
  refine ⟨Location.isWithin_iff.2 ?_, fun h => ?_⟩
  · simp only [Location.child, List.append_assoc]
    exact List.prefix_append _ _
  · simpa [Location.child] using congrArg (fun l => l.names.length) h

end Analyzer

/-! ### Disks that grow -/

namespace Disk

variable {d e f : Disk} {top l m : Location} {p : Path}

/-- A file stands at a location. -/
def HasFile (d : Disk) (l : Location) : Prop := ∃ bytes, d.entryAt l = some (.file bytes)

/-- A disk has become another one by new directories and new files below a location; files
there may also have new contents. -/
structure Grown (top : Location) (d e : Disk) : Prop where
  cwd_eq : e.cwd = d.cwd
  directory : ∀ l, d.entryAt l = some .directory → e.entryAt l = some .directory
  file : ∀ l, d.HasFile l → e.HasFile l
  fresh : ∀ l, e.HasFile l → d.HasFile l ∨ l.LiesBelow top
  kept : ∀ l bytes, ¬ l.LiesBelow top → d.entryAt l = some (.file bytes) →
    e.entryAt l = some (.file bytes)

theorem Grown.refl (top : Location) (d : Disk) : Grown top d d :=
  ⟨rfl, fun _ h => h, fun _ h => h, fun _ h => .inl h, fun _ _ _ h => h⟩

theorem Grown.trans (h : Grown top d e) (h' : Grown top e f) : Grown top d f where
  cwd_eq := h'.cwd_eq.trans h.cwd_eq
  directory l hl := h'.directory l (h.directory l hl)
  file l hl := h'.file l (h.file l hl)
  fresh l hl := (h'.fresh l hl).elim (h.fresh l) .inr
  kept l bytes hl hd := h'.kept l bytes hl (h.kept l bytes hl hd)

/-- What is there stays there. -/
theorem Grown.isSome (h : Grown top d e) (hl : (d.entryAt l).isSome = true) :
    (e.entryAt l).isSome = true := by
  obtain ⟨entry, hentry⟩ := Option.isSome_iff_exists.1 hl
  cases entry with
  | directory => rw [h.directory l hentry]; rfl
  | file bytes =>
    obtain ⟨bytes', he⟩ := h.file l ⟨bytes, hentry⟩
    rw [he]
    rfl

/-- A directory that was anything before was a directory. -/
theorem Grown.directory_of_isSome (h : Grown top d e) (he : e.entryAt l = some .directory)
    (hl : (d.entryAt l).isSome = true) : d.entryAt l = some .directory := by
  obtain ⟨entry, hentry⟩ := Option.isSome_iff_exists.1 hl
  cases entry with
  | directory => exact hentry
  | file bytes =>
    obtain ⟨bytes', he'⟩ := h.file l ⟨bytes, hentry⟩
    simp [he'] at he

/-- Segments lead on a grown disk where they led before. -/
theorem Grown.follow_eq {segments : List String} (h : Grown top d e)
    (hd : d.follow l segments = .ok m) : e.follow l segments = .ok m := by
  induction segments generalizing l with
  | nil => exact hd
  | cons s rest ih =>
    rw [follow] at hd ⊢
    cases hl : d.entryAt l with
    | none => simp [hl] at hd
    | some entry =>
      cases entry with
      | file bytes => simp [hl] at hd
      | directory =>
        rw [hl] at hd
        rw [h.directory l hl]
        exact ih hd

theorem Grown.locate_eq (h : Grown top d e) (hd : d.locate p = .ok m) : e.locate p = .ok m := by
  rcases locate_cases d.cwd p with ⟨-, hnone⟩ | ⟨start, segments, -, -, hlocate⟩
  · simp [hnone d] at hd
  · rw [hlocate d rfl] at hd
    rw [hlocate e h.cwd_eq]
    exact h.follow_eq hd

/-- A new directory. -/
theorem Grown.put_directory (hnone : d.entryAt l = none) :
    Grown top d (d.put l .directory) := by
  have hroot : l ≠ .root := ne_root_of_entryAt_ne (d := d) (by simp [hnone])
  have hput := fun m => entryAt_put d l m .directory hroot
  have hkept : ∀ m bytes, d.entryAt m = some (.file bytes) →
      (d.put l .directory).entryAt m = some (.file bytes) := fun m bytes hm => by
    rw [hput, if_neg (fun h => by simp [← h, hnone] at hm), hm]
  refine ⟨rfl, fun m hm => ?_, fun m ⟨bytes, hm⟩ => ⟨bytes, hkept m bytes hm⟩,
    fun m ⟨bytes, hm⟩ => ?_, fun m bytes _ hm => hkept m bytes hm⟩
  · rw [hput, hm, ite_self]
  · rw [hput] at hm
    split at hm
    · simp at hm
    · exact .inl ⟨bytes, hm⟩

/-- A file below the top, new or with new contents. -/
theorem Grown.put_file (hl : d.entryAt l ≠ some .directory) (hbelow : l.LiesBelow top)
    (bytes : ByteArray) : Grown top d (d.put l (.file bytes)) := by
  have hput := fun m => entryAt_put d l m (.file bytes) (ne_root_of_entryAt_ne hl)
  refine ⟨rfl, fun m hm => ?_, fun m ⟨bytes', hm⟩ => ?_, fun m ⟨bytes', hm⟩ => ?_,
    fun m bytes' hm hfile => ?_⟩
  · rw [hput, if_neg (fun hlm => hl (by rw [hlm, hm])), hm]
  · by_cases hlm : l = m
    · exact ⟨bytes, by rw [hput, if_pos hlm]⟩
    · exact ⟨bytes', by rw [hput, if_neg hlm, hm]⟩
  · rw [hput] at hm
    split at hm
    · rename_i hlm
      exact .inr (hlm ▸ hbelow)
    · exact .inl ⟨bytes', hm⟩
  · have hlm : l ≠ m := fun hlm => hm (hlm ▸ hbelow)
    rw [hput, if_neg hlm, hfile]

/-! ### Operations -/

variable {bytes : ByteArray}

/-- The disks that the making of the directories of a path can come to: directories are made one
after another, of paths above it and of the path itself. -/
inductive Makes (d : Disk) : Path → Disk → Prop
  | none (p : Path) : Makes d p d
  | above {p q : Path} {e : Disk} (hparent : p.parent? = some q) (h : Makes d q e) : Makes d p e
  | one {p : Path} {e f : Disk} (h : Makes d p e) (hmade : e.createDirectory p = .ok f) :
    Makes d p f

theorem makes_createDirectoriesWithin (n : Nat) (d : Disk) (p : Path) :
    Makes d p (createDirectoriesWithin n d p).1 := by
  induction n generalizing p with
  | zero => exact .none p
  | succ n ih =>
    rw [createDirectoriesWithin]
    split
    · exact .none p
    · split
      · exact .one (.none p) ‹_›
      · split
        · exact .none p
        · rename_i above hparent
          have habove : Makes d p (createDirectoriesWithin n d above).1 := .above hparent (ih above)
          split
          · rename_i hres
            exact hres ▸ habove
          · rename_i hres
            rw [hres] at habove
            split
            · exact .one habove ‹_›
            · exact habove
      · exact .none p

theorem makes_createDirectories (d : Disk) (p : Path) : Makes d p (d.createDirectories p).1 :=
  makes_createDirectoriesWithin _ d p

theorem grown_createDirectory (h : d.createDirectory p = .ok e) : Grown top d e := by
  obtain ⟨-, hnone, -, rfl⟩ := createDirectory_eq_ok_iff.1 h
  exact .put_directory hnone

theorem Makes.grown (h : Makes d p e) : Grown top d e := by
  induction h with
  | none p => exact .refl top d
  | above _ _ ih => exact ih
  | one _ hmade ih => exact ih.trans (grown_createDirectory hmade)

theorem grown_writeFile (h : d.writeFile p bytes = .ok e)
    (hbelow : (p.normalize d.cwd).LiesBelow top) : Grown top d e := by
  obtain ⟨-, hl, -, rfl⟩ := writeFile_eq_ok_iff.1 h
  exact .put_file hl hbelow bytes

end Disk

namespace Analyzer

open Disk

variable {top : Location} {dir : Path}

theorem grown_makeCopy {copy : Path} (d : Disk) (bytes : ByteArray)
    (hbelow : (copy.normalize d.cwd).LiesBelow top) : Grown top d (makeCopy d copy bytes).1 := by
  have hmade : Grown top d (d.createDirectories (copy.parent?.getD (.ofText "."))).1 :=
    (makes_createDirectories d _).grown
  unfold makeCopy
  split
  · rename_i hres
    exact hres ▸ hmade
  · rename_i hres
    rw [hres] at hmade
    split
    · rename_i hwritten
      exact hmade.trans (grown_writeFile hwritten (hmade.cwd_eq ▸ hbelow))
    · exact hmade

theorem grown_loadAnalyzer (d : Disk) (source : Path) :
    Grown (dir.normalize d.cwd) d (loadAnalyzer dir d source).1 := by
  unfold loadAnalyzer
  split
  · exact .refl _ d
  · exact .refl _ d
  · rename_i bytes _
    split
    · exact .refl _ d
    · rename_i name hname
      have hcopy : copyOf dir source bytes =
          some ((dir.join (.ofText (Blake3.fingerprint bytes))).join ⟨[name.text]⟩) := by
        rw [copyOf, hname]
        rfl
      have hmade := grown_makeCopy d bytes (liesBelow_of_copyOf hcopy d.cwd)
      simp only
      split
      · exact .refl _ d
      · split
        · rename_i hres
          rw [hres] at hmade
          exact hmade
        · rename_i hres
          rw [hres] at hmade
          exact hmade

/-- **Loading analyzers makes a disk grow** by copies below the directory of the project. -/
theorem grown_loadInto (d : Disk) (sources : List Path) :
    Grown (dir.normalize d.cwd) d (loadInto dir d sources).1 := by
  induction sources generalizing d with
  | nil => exact .refl _ d
  | cons source sources ih =>
    have hfirst : Grown (dir.normalize d.cwd) d (loadAnalyzer dir d source).1 :=
      grown_loadAnalyzer d source
    have hrest := ih (loadAnalyzer dir d source).1
    rw [hfirst.cwd_eq] at hrest
    rw [loadInto]
    simp only
    split <;> exact hfirst.trans hrest

end Analyzer

/-! ### Patterns on a disk that has grown -/

namespace Glob

open Disk

variable {d e : Disk} {top l : Location} {ps qs : List Pattern} {s t : Stop}

/-- Every step that a walk takes, it takes on a grown disk as well. -/
theorem Leads.grown (h : Grown top d e) (hstep : Leads d ps s qs t) : Leads e ps s qs t := by
  have hchild : ∀ {l : Location} {n : Name}, n ∈ d.children l → n ∈ e.children l := fun hn =>
    mem_children_iff.2 (h.isSome (mem_children_iff.1 hn))
  cases hstep with
  | enter hname henter =>
    obtain ⟨hdir, henter⟩ := enter?_eq_some_iff.1 henter
    exact .enter hname (enter?_eq_some_iff.2 ⟨h.directory _ hdir,
      henter.imp_right fun ⟨hname, hsome, ht⟩ => ⟨hname, h.isSome hsome, ht⟩⟩)
  | matched hlit hflat hdir hname hmatch =>
    exact .matched hlit hflat (h.directory _ hdir) (hchild hname) hmatch
  | below hlit hrec hdir hname hsub =>
    exact .below hlit hrec (h.directory _ hdir) (hchild hname) (h.directory _ hsub)
  | after hlit hrec hdir hname hnext hmatch =>
    exact .after hlit hrec (h.directory _ hdir) (hchild hname) hnext hmatch

/-- **What a pattern finds, it finds on a grown disk as well.** -/
theorem Finds.grown (h : Grown top d e) (hfinds : Finds d ps s l) : Finds e ps s l := by
  induction hfinds with
  | last hstep hfile =>
    obtain ⟨bytes, hfile⟩ := h.file _ ⟨_, hfile⟩
    exact .last (hstep.grown h) hfile
  | step hstep _ ih => exact .step (hstep.grown h) ih

/-- A step on a grown disk between places that were there before is one on the disk before. -/
theorem Leads.of_grown (h : Grown top d e) (hstep : Leads e ps s qs t)
    (hs : (d.entryAt s.place).isSome = true) (ht : (d.entryAt t.place).isSome = true) :
    Leads d ps s qs t := by
  cases hstep with
  | enter hname henter =>
    obtain ⟨hdir, henter⟩ := enter?_eq_some_iff.1 henter
    exact .enter hname (enter?_eq_some_iff.2 ⟨h.directory_of_isSome hdir hs,
      henter.imp_right fun ⟨hname, _, heq⟩ => ⟨hname, ht, heq⟩⟩)
  | matched hlit hflat hdir _ hmatch =>
    exact .matched hlit hflat (h.directory_of_isSome hdir hs) (mem_children_iff.2 ht) hmatch
  | below hlit hrec hdir _ hsub =>
    exact .below hlit hrec (h.directory_of_isSome hdir hs) (mem_children_iff.2 ht)
      (h.directory_of_isSome hsub ht)
  | after hlit hrec hdir _ hnext hmatch =>
    exact .after hlit hrec (h.directory_of_isSome hdir hs) (mem_children_iff.2 ht) hnext hmatch

/-- A walk along a pattern comes to a stop with some components left. -/
inductive Comes (d : Disk) (text : String) : List Pattern → Stop → Prop
  | start {a : Bool × List Pattern} (htrail : trail text = .ok a) : Comes d text a.2 (start d a.1)
  | step {ps qs : List Pattern} {s t : Stop} (hcomes : Comes d text ps s)
    (hstep : Leads d ps s qs t) : Comes d text qs t

/-- On a disk that has grown no walk leads from a place that is new to one that was there
before.  Only a component `..` can lead there. -/
def NoWayBack (d e : Disk) (patterns : List Pattern) : Prop :=
  ∀ p ∈ patterns, ∀ ps s qs t, Comes e p.text ps s → Leads e ps s qs t →
    d.entryAt s.place = none → d.entryAt t.place = none

section Back

variable {patterns : List Pattern} {p : Pattern}

/-- Without a way back a walk that is at a new place finds new files only. -/
theorem NoWayBack.entryAt_eq_none (h : NoWayBack d e patterns) (hp : p ∈ patterns)
    (hcomes : Comes e p.text ps s) (hs : d.entryAt s.place = none) (hfinds : Finds e ps s l) :
    d.entryAt l = none := by
  induction hfinds with
  | last hstep => exact h p hp _ _ _ _ hcomes hstep hs
  | step hstep _ ih => exact ih (hcomes.step hstep) (h p hp _ _ _ _ hcomes hstep hs)

/-- Without a way back a walk that finds a file that was there before has been at places
that were there before. -/
theorem Finds.of_grown (h : Grown top d e) (hback : NoWayBack d e patterns) (hp : p ∈ patterns)
    (hcomes : Comes e p.text ps s) (hl : d.HasFile l) (hfinds : Finds e ps s l) :
    Finds d ps s l := by
  obtain ⟨bytes, hfile⟩ := hl
  have hold : ∀ {ps s}, Comes e p.text ps s → Finds e ps s l →
      (d.entryAt s.place).isSome = true := by
    intro ps s hcomes hfinds
    cases hs : d.entryAt s.place with
    | some entry => rfl
    | none => simp [hback.entryAt_eq_none hp hcomes hs hfinds] at hfile
  induction hfinds with
  | last hstep hfile' =>
    exact .last (hstep.of_grown h (hold hcomes (.last hstep hfile')) (by simp [hfile])) hfile
  | step hstep hrest ih =>
    have hnext := hcomes.step hstep
    exact .step (hstep.of_grown h (hold hcomes (.step hstep hrest)) (hold hnext hrest))
      (ih hnext hfile hold)

/-- What a walk finds is a file. -/
theorem Finds.hasFile (h : Finds d ps s l) : d.HasFile l := by
  induction h with
  | last _ hfile => exact ⟨_, hfile⟩
  | step _ _ ih => exact ih

/-- The components that are left are components of the pattern. -/
theorem Leads.subset (h : Leads d ps s qs t) : qs ⊆ ps := by
  cases h with
  | enter | matched => exact List.subset_cons_self _ _
  | below =>
    exact List.cons_subset_cons _ (List.dropWhile_sublist _).subset
  | @after p q rest rest' _ _ _ _ _ _ hnext =>
    have hsub := (List.dropWhile_sublist (l := rest) Pattern.isRecursive).subset
    rw [hnext] at hsub
    exact List.subset_cons_of_subset _ fun x hx => hsub (List.mem_cons_of_mem _ hx)

theorem Comes.exists_trail {text : String} (h : Comes d text ps s) :
    ∃ a, trail text = .ok a ∧ ps ⊆ a.2 := by
  induction h with
  | start htrail => exact ⟨_, htrail, List.Subset.refl _⟩
  | step _ hstep ih =>
    obtain ⟨a, htrail, hsub⟩ := ih
    exact ⟨a, htrail, List.Subset.trans hstep.subset hsub⟩

/-- A segment other than `..` leads nowhere or down. -/
theorem enterSegment_cases {name : String} (hname : name ≠ "..") (l : Location) :
    Disk.enterSegment l name = l ∨ ∃ n, Disk.enterSegment l name = l.child n := by
  unfold Disk.enterSegment Component.ofSegment?
  rw [if_neg hname]
  split
  · rename_i c hc
    split at hc
    · obtain rfl := Option.some.inj hc
      exact .inr ⟨_, rfl⟩
    · simp at hc
  · exact .inl rfl

/-- Without a component `..` there is no way back, as long as whatever is on the disk lies
in something that is on the disk. -/
theorem noWayBack_of_not_enters
    (hparent : ∀ l n, d.entryAt l = none → d.entryAt (l.child n) = none)
    (hup : ∀ p ∈ patterns, ∀ a, trail p.text = .ok a → ∀ q ∈ a.2, ¬ q.Enters "..") :
    NoWayBack d e patterns := by
  intro p hp ps s qs t hcomes hstep hs
  obtain ⟨a, htrail, hsub⟩ := hcomes.exists_trail
  cases hstep with
  | @enter q rest _ _ name hname henter =>
    rcases (enter?_eq_some_iff.1 henter).2 with ⟨-, rfl⟩ | ⟨-, -, rfl⟩
    · exact hs
    · have hdots : name ≠ ".." := by
        rintro rfl
        exact hup p hp a htrail q (hsub List.mem_cons_self) hname
      rcases enterSegment_cases hdots s.place with hplace | ⟨n, hplace⟩
      · simp only [hplace, hs]
      · simp only [hplace, hparent _ n hs]
  | matched => exact hparent _ _ hs
  | below => exact hparent _ _ hs
  | after => exact hparent _ _ hs

/-- Whatever is on a disk lies in something on it, if that is true of all entries. -/
theorem entryAt_child_eq_none (h : ∀ x ∈ d.entries, (d.entryAt x.1.parent).isSome = true)
    {n : Name} (hl : d.entryAt l = none) : d.entryAt (l.child n) = none := by
  cases hchild : d.entryAt (l.child n) with
  | none => rfl
  | some entry =>
    obtain ⟨x, hx, hxl⟩ := List.mem_map.1
      ((isSome_entryAt_iff (child_ne_root l n)).1 (by rw [hchild]; rfl))
    have hparent := h x hx
    rw [hxl, Location.parent, Location.child, List.dropLast_concat] at hparent
    simp [hl] at hparent

end Back

end Glob

namespace Project

variable {d e : Disk} {top : Location} {patterns : List Glob.Pattern} {ls : List Location}

/-- **Patterns without a way back that find no copies find what they found before.** -/
theorem findSources_of_grown (h : Disk.Grown top d e) (hback : Glob.NoWayBack d e patterns)
    (hcopies : ∀ ms, findSources e patterns = .ok ms → ∀ l ∈ ms, ¬ l.LiesBelow top)
    (hd : findSources d patterns = .ok ls) : findSources e patterns = .ok ls := by
  have hstart : ∀ rooted, Glob.start e rooted = Glob.start d rooted := fun rooted => by
    unfold Glob.start
    rw [h.cwd_eq]
  refine findSources_eq_of_iff hd fun l => ⟨?_, fun hsought => ?_⟩
  · rintro ⟨p, hp, a, htrail, hfinds⟩
    exact ⟨p, hp, a, htrail, hstart a.1 ▸ hfinds.grown h⟩
  · obtain ⟨ms, hms⟩ := findSources_eq_ok e hd
    have hold := fun hl => (h.fresh l hl).resolve_right
      (hcopies ms hms l ((mem_findSources hms).2 hsought))
    obtain ⟨p, hp, a, htrail, hfinds⟩ := hsought
    refine ⟨p, hp, a, htrail, ?_⟩
    rw [← hstart]
    exact hfinds.of_grown h hback hp (.start htrail) (hold hfinds.hasFile)

/-- Loading the analyzers of a project makes the disk grow by copies. -/
theorem grown_withAnalyzers (o : Options) (d : Disk) (s : Snapshot) :
    Disk.Grown ((Analyzer.stagingDirectory o.staging s.id).normalize d.cwd) d
      (withAnalyzers o d s).1 := by
  unfold withAnalyzers
  cases o.analyzersEnabled with
  | true => exact Analyzer.grown_loadInto d _
  | false => exact .refl _ d

end Project
end LintWorkspace
