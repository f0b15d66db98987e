/-
# The staging tree as a store

A copy lies on the shelf of its bytes, so two contents can meet at one place only if they have
the same fingerprint.  While no two contents that are read do (`Distinct`), every file of the
staging tree lies on its own shelf (`Shelved`), and loading changes no file at all: a copy is
written only where there is none, or over itself.

| what | is |
| --- | --- |
| `loads_shelved` | loading one analyzer |
| `loadInto_shelved` | loading the analyzers of a project |
| `shelved_after` | a whole history of loads and of edits outside the staging tree |

So the tree is a faithful store throughout (`faithful_of_distinct`).  A copy is taken for the
right one by its length, so for reuse alone it would do that no two contents of one length share
a fingerprint.  But a copy of another length is written over (`not_staysFaithful`).
-/

import LintWorkspace.Proofs.Loading

namespace LintWorkspace

namespace Disk

variable {d e f : Disk} {top l : Location} {p : Path} {bytes : ByteArray}

/-- A disk has grown, and every file is what it was. -/
structure Preserved (top : Location) (d e : Disk) : Prop extends Grown top d e where
  file_eq : ∀ l bytes, d.entryAt l = some (.file bytes) → e.entryAt l = some (.file bytes)

theorem Preserved.refl (top : Location) (d : Disk) : Preserved top d d :=
  ⟨.refl top d, fun _ _ h => h⟩

theorem Preserved.trans (h : Preserved top d e) (h' : Preserved top e f) : Preserved top d f :=
  ⟨h.toGrown.trans h'.toGrown, fun l bytes hl => h'.file_eq l bytes (h.file_eq l bytes hl)⟩

/-- What could be read reads the same. -/
theorem Preserved.readBytes_eq (h : Preserved top d e) (hd : d.readBytes p = .ok bytes) :
    e.readBytes p = .ok bytes := by
  obtain ⟨hlocate, hentry⟩ := readBytes_eq_ok_iff.1 hd
  rw [readBytes_eq_ok_iff, h.cwd_eq]
  exact ⟨h.locate_eq hlocate, h.file_eq _ _ hentry⟩

end Disk

namespace Analyzer

open Disk

variable {d e f : Disk} {staging dir source : Path} {project : String} {top : Location}
  {known more : List ByteArray} {sources : List Path} {bytes : ByteArray}

/-! ### Contents and shelves -/

/-- No two contents of a list have the same fingerprint. -/
def Distinct (contents : List ByteArray) : Prop :=
  ∀ a ∈ contents, ∀ b ∈ contents, Blake3.fingerprint a = Blake3.fingerprint b → a = b

theorem Distinct.mono (h : Distinct more) (hsub : known ⊆ more) : Distinct known :=
  fun a ha b hb => h a (hsub ha) b (hsub hb)

instance (contents : List ByteArray) : Decidable (Distinct contents) :=
  decidable_of_iff (∀ a ∈ contents, ∀ b ∈ contents,
      Blake3.fingerprint a = Blake3.fingerprint b → a.data = b.data) <|
    forall₂_congr fun _ _ => forall₂_congr fun _ _ =>
      imp_congr_right fun _ => ByteArray.ext_iff.symm

/-- The bytes that loading the analyzers at paths reads from them. -/
def contentsInto (dir : Path) : Disk → List Path → List ByteArray
  | _, [] => []
  | d, source :: sources =>
    (d.readBytes source).toOption.toList ++ contentsInto dir (loadAnalyzer dir d source).1 sources

/-- Every file of a staging tree holds known contents and lies on their shelf. -/
def Shelved (top : Location) (known : List ByteArray) (d : Disk) : Prop :=
  ∀ l bytes, l.LiesBelow top → d.entryAt l = some (.file bytes) → bytes ∈ known ∧
    ∃ project name, Ordinary project ∧ l = (shelf top project bytes).child name

theorem Shelved.mono (h : Shelved top known d) (hsub : known ⊆ more) :
    Shelved top more d := fun l bytes hl hentry =>
  (h l bytes hl hentry).imp_left (hsub ·)

/-- What lies on a shelf of distinct contents is what the shelf is for. -/
theorem Shelved.eq_of_entryAt (h : Shelved top known d) (hdistinct : Distinct known)
    (hproject : Ordinary project) (hknown : bytes ∈ known) {name : Name} {found : ByteArray}
    (hentry : d.entryAt ((shelf top project bytes).child name) = some (.file found)) :
    found = bytes := by
  have hbelow : ((shelf top project bytes).child name).LiesBelow top := by
    rw [shelf, home_of_ordinary hproject]
    exact ((Location.liesBelow_child _ _).child _).child _
  obtain ⟨hfound, project', name', -, hplace⟩ := h _ _ hbelow hentry
  have hshelf : shelf top project bytes = shelf top project' found :=
    (Location.child_injective hplace).1
  have hname := (Location.child_injective hshelf).2
  exact hdistinct _ hfound _ hknown (congrArg Name.text hname).symm

/-! ### Loading -/

/-- An analyzer was loaded from a copy of some bytes, and its source holds these bytes. -/
structure Authentic (dir : Path) (d : Disk) (a : Loaded) (bytes : ByteArray) : Prop where
  source_eq : d.readBytes a.source = .ok bytes
  copyOf_eq : copyOf dir a.source bytes = some a.copy
  copy_eq : d.readBytes a.copy = .ok bytes
  fingerprint_eq : a.fingerprint = Blake3.fingerprint bytes
  pack : ∃ text, String.fromUTF8? bytes = some text ∧ readPack text = .ok (a.name, a.rules)

theorem Authentic.of_preserved {a : Loaded} (h : Authentic dir d a bytes)
    (hkept : Preserved top d e) : Authentic dir e a bytes :=
  { h with source_eq := hkept.readBytes_eq h.source_eq, copy_eq := hkept.readBytes_eq h.copy_eq }

/-- What is read from a copy comes from the text of the copy. -/
theorem authentic_of_readCopy {copy : Path} {a : Loaded} (hsource : d.readBytes source = .ok bytes)
    (hcopyOf : copyOf dir source bytes = some copy)
    (hentry : d.entryAt (copy.normalize d.cwd) = some (.file bytes))
    (h : readCopy d source copy (Blake3.fingerprint bytes) = .ok a) :
    a.source = source ∧ Authentic dir d a bytes := by
  unfold readCopy at h
  cases htext : d.readText copy with
  | error fault => simp [htext] at h
  | ok text =>
    obtain ⟨found, hlocate, hfound, hutf8⟩ := exists_file_of_readText htext
    obtain rfl : found = bytes := by simpa [hentry] using hfound.symm
    cases hpack : readPack text with
    | error fault => simp [htext, hpack] at h
    | ok pack =>
      simp only [htext, hpack, Except.ok.injEq] at h
      subst h
      exact ⟨rfl, hsource, hcopyOf, readBytes_eq_ok_iff.2 ⟨hlocate, hentry⟩, rfl, text, hutf8,
        hpack⟩

/-- So is whatever a load of the source answers. -/
theorem authentic_of_mem_readCopy {copy : Path} {a : Loaded}
    (hsource : d.readBytes source = .ok bytes) (hcopyOf : copyOf dir source bytes = some copy)
    (hentry : d.entryAt (copy.normalize d.cwd) = some (.file bytes))
    (ha : a ∈ (readCopy d source copy (Blake3.fingerprint bytes)).toOption.toList) :
    a.source ∈ [source] ∧ ∃ bytes, Authentic dir d a bytes := by
  have hanswer := toOption_eq_some_iff.1 (Option.mem_toList.1 ha)
  obtain ⟨heq, hauthentic⟩ := authentic_of_readCopy hsource hcopyOf hentry hanswer
  exact ⟨List.mem_singleton.2 heq, bytes, hauthentic⟩

/-- What a store gets from loading: files stay what they are and lie on their shelves, and
whatever was loaded came from the bytes of its source. -/
structure Stocked (top : Location) (dir : Path) (contents : List ByteArray) (d e : Disk)
    (sources : List Path) (loaded : List Loaded) : Prop where
  preserved : Preserved (dir.normalize d.cwd) d e
  shelved : Shelved top contents e
  authentic : ∀ a ∈ loaded, a.source ∈ sources ∧ ∃ bytes, Authentic dir e a bytes

/-- In a store what is taken for the copy of some bytes is their copy. -/
theorem Shelved.entryAt_of_hasCopy {copy : Path} {length : Nat}
    (h : Shelved (staging.normalize d.cwd) known d) (hdistinct : Distinct known)
    (hproject : Ordinary project) (hknown : bytes ∈ known)
    (hcopy : copyOf (stagingDirectory staging project) source bytes = some copy)
    (hhas : hasCopy d copy length = true) :
    d.entryAt (copy.normalize d.cwd) = some (.file bytes) := by
  obtain ⟨name, -, hplace⟩ := normalize_copyOf hcopy d.cwd
  obtain ⟨found, hfind, -⟩ := exists_find_of_hasCopy hhas
  have hfound := (find_eq_ok_iff.1 hfind).2
  obtain rfl := h.eq_of_entryAt hdistinct hproject hknown (hplace ▸ hfound)
  exact hfound

/-- A copy that is written to a store is written to its own shelf, over itself if over
anything. -/
theorem Shelved.writeCopy {copy : Path} {made : Disk} {ls : List Location}
    (h : Shelved (staging.normalize d.cwd) known d) (hdistinct : Distinct known)
    (hproject : Ordinary project) (hknown : bytes ∈ known)
    (hcopy : copyOf (stagingDirectory staging project) source bytes = some copy)
    (hmade : Furnished ls d made) (hwrite : made.writeFile copy bytes = .ok f) :
    f.entryAt (copy.normalize f.cwd) = some (.file bytes) ∧
      (∀ l b, d.entryAt l = some (.file b) → f.entryAt l = some (.file b)) ∧
      Shelved (staging.normalize d.cwd) known f := by
  obtain ⟨name, -, hplace⟩ := normalize_copyOf hcopy d.cwd
  obtain ⟨-, -, hcwd, hentries⟩ := of_writeFile hwrite
  rw [hmade.cwd_eq] at hcwd hentries
  refine ⟨by rw [hcwd, hentries, if_pos rfl], fun l b hl => ?_, fun l b hl hfile => ?_⟩
  · rw [hentries]
    split
    · rename_i hlast
      subst hlast
      have hb : b = bytes := h.eq_of_entryAt hdistinct hproject hknown (hplace ▸ hl)
      rw [hb]
    · exact (hmade.file_iff b).2 hl
  · rw [hentries] at hfile
    split at hfile
    · rename_i hlast
      obtain rfl : bytes = b := by simpa using hfile
      exact ⟨hknown, project, name, hproject, hlast ▸ hplace⟩
    · exact h l b hl ((hmade.file_iff b).1 hfile)

/-- **Loading one analyzer changes no file and puts a new one on its shelf.** -/
theorem loads_shelved {answer : Except LoadFault Loaded} (hproject : Ordinary project)
    (h : Shelved (staging.normalize d.cwd) known d)
    (hdistinct : Distinct (known ++ (d.readBytes source).toOption.toList))
    (hgrown : Grown ((stagingDirectory staging project).normalize d.cwd) d f)
    (hloads : Loads (stagingDirectory staging project) d source f answer) :
    Stocked (staging.normalize d.cwd) (stagingDirectory staging project)
      (known ++ (d.readBytes source).toOption.toList) d f [source] answer.toOption.toList := by
  have hknown := h.mono (List.subset_append_left known (d.readBytes source).toOption.toList)
  have hbytes : ∀ bytes, d.readBytes source = .ok bytes →
      bytes ∈ known ++ (d.readBytes source).toOption.toList := fun bytes hread => by
    simp [hread, Except.toOption]
  cases hloads with
  | unread fault hread => exact ⟨.refl _ d, hknown, by simp [Except.toOption]⟩
  | reused bytes copy hread hcopy hhas =>
    have hentry := hknown.entryAt_of_hasCopy hdistinct hproject (hbytes bytes hread) hcopy hhas
    exact ⟨.refl _ d, hknown, fun a ha => authentic_of_mem_readCopy hread hcopy hentry ha⟩
  | blocked bytes copy _ fault hread hcopy hmade =>
    exact ⟨⟨hgrown, fun l b hl => (hmade.file_iff b).2 hl⟩,
      fun l b hl hentry => hknown l b hl ((hmade.file_iff b).1 hentry), by simp [Except.toOption]⟩
  | copied bytes copy e _ hread hcopy hmade hwrite =>
    obtain ⟨hentry, hsame, hshelved⟩ :=
      hknown.writeCopy hdistinct hproject (hbytes bytes hread) hcopy hmade hwrite
    have hpreserved : Preserved ((stagingDirectory staging project).normalize d.cwd) d f :=
      ⟨hgrown, hsame⟩
    exact ⟨hpreserved, hshelved, fun a ha =>
      authentic_of_mem_readCopy (hpreserved.readBytes_eq hread) hcopy hentry ha⟩

theorem disk_loadInto_cons (dir : Path) (d : Disk) (source : Path) (sources : List Path) :
    (loadInto dir d (source :: sources)).1 =
      (loadInto dir (loadAnalyzer dir d source).1 sources).1 := by
  rw [loadInto]
  simp only
  split <;> rfl

theorem loaded_loadInto_cons (dir : Path) (d : Disk) (source : Path) (sources : List Path) :
    (loadInto dir d (source :: sources)).2.loaded =
      (loadAnalyzer dir d source).2.toOption.toList ++
        (loadInto dir (loadAnalyzer dir d source).1 sources).2.loaded := by
  rw [loadInto]
  simp only
  split
  · rename_i a ha
    rw [ha]
    rfl
  · rename_i fault hfault
    rw [hfault]
    rfl

/-- **Loading the analyzers of a project changes no file and puts new ones on their shelves.** -/
theorem loadInto_shelved (hproject : Ordinary project)
    (h : Shelved (staging.normalize d.cwd) known d)
    (hdistinct : Distinct (known ++ contentsInto (stagingDirectory staging project) d sources)) :
    Stocked (staging.normalize d.cwd) (stagingDirectory staging project)
      (known ++ contentsInto (stagingDirectory staging project) d sources) d
      (loadInto (stagingDirectory staging project) d sources).1 sources
      (loadInto (stagingDirectory staging project) d sources).2.loaded := by
  induction sources generalizing d known with
  | nil => exact ⟨.refl _ d, h.mono (by simp [contentsInto]), by simp [loadInto, LoadReport.empty]⟩
  | cons source sources ih =>
    rw [contentsInto, ← List.append_assoc] at hdistinct ⊢
    have hfirst := loads_shelved hproject h (hdistinct.mono (List.subset_append_left _ _))
      (grown_loadAnalyzer d source) (loads_loadAnalyzer _ d source)
    have hcwd := hfirst.preserved.cwd_eq
    have hrest := ih (hcwd ▸ hfirst.shelved) hdistinct
    have hpreserved := hrest.preserved
    rw [hcwd] at hpreserved
    rw [disk_loadInto_cons, loaded_loadInto_cons]
    refine ⟨hfirst.preserved.trans hpreserved, hcwd ▸ hrest.shelved, fun a ha => ?_⟩
    rcases List.mem_append.1 ha with ha | ha
    · obtain ⟨hmem, bytes, hauthentic⟩ := hfirst.authentic a ha
      exact ⟨List.mem_cons.2 (.inl (List.mem_singleton.1 hmem)), bytes,
        hauthentic.of_preserved hpreserved⟩
    · obtain ⟨hmem, hauthentic⟩ := hrest.authentic a ha
      exact ⟨List.mem_cons_of_mem _ hmem, hauthentic⟩

/-! ### Histories -/

/-- What happens to a disk with a staging tree. -/
inductive Event where
  /-- the analyzers of a project are loaded -/
  | load (project : String) (sources : List Path)
  /-- somebody else makes another disk of it -/
  | edit (disk : Disk)

/-- The disk after an event. -/
def Event.after (staging : Path) (d : Disk) : Event → Disk
  | load project sources => (Analyzer.load staging d project sources).1
  | edit disk => disk

/-- The bytes that an event reads from analyzers. -/
def Event.contents (staging : Path) (d : Disk) : Event → List ByteArray
  | load project sources => contentsInto (stagingDirectory staging project) d sources
  | edit _ => []

/-- Loads are for ordinary ids, and everybody else leaves the staging tree alone. -/
def Event.Allowed (staging : Path) (d : Disk) : Event → Prop
  | load project _ => Ordinary project
  | edit disk => disk.cwd = d.cwd ∧
      ∀ l, l.LiesBelow (staging.normalize d.cwd) → disk.entryAt l = d.entryAt l

/-- The disk after a history. -/
def after (staging : Path) (d : Disk) (events : List Event) : Disk :=
  events.foldl (Event.after staging) d

/-- The bytes that a history reads from analyzers. -/
def contentsOf (staging : Path) : Disk → List Event → List ByteArray
  | _, [] => []
  | d, e :: events => e.contents staging d ++ contentsOf staging (e.after staging d) events

/-- Every event of a history is allowed when it happens. -/
def Allowed (staging : Path) : Disk → List Event → Prop
  | _, [] => True
  | d, e :: events => e.Allowed staging d ∧ Allowed staging (e.after staging d) events

variable {events before rest : List Event}

theorem after_append (staging : Path) (d : Disk) (before rest : List Event) :
    after staging d (before ++ rest) = after staging (after staging d before) rest :=
  List.foldl_append

theorem contentsOf_append (staging : Path) (d : Disk) (before rest : List Event) :
    contentsOf staging d (before ++ rest) =
      contentsOf staging d before ++ contentsOf staging (after staging d before) rest := by
  induction before generalizing d with
  | nil => rfl
  | cons e before ih =>
    rw [List.cons_append, contentsOf, contentsOf, ih, List.append_assoc]
    rfl

theorem allowed_append : Allowed staging d (before ++ rest) ↔
    Allowed staging d before ∧ Allowed staging (after staging d before) rest := by
  induction before generalizing d with
  | nil => simp [Allowed, after]
  | cons e before ih =>
    rw [List.cons_append, Allowed, Allowed, ih, and_assoc]
    rfl

/-- Files of a staging tree stay what they are, and others lie on their shelves. -/
structure Kept (top : Location) (contents : List ByteArray) (d e : Disk) : Prop where
  cwd_eq : e.cwd = d.cwd
  shelved : Shelved top contents e
  file_eq : ∀ l bytes, l.LiesBelow top → d.entryAt l = some (.file bytes) →
    e.entryAt l = some (.file bytes)

/-- One event keeps a store. -/
theorem kept_event {event : Event} (hallowed : event.Allowed staging d)
    (h : Shelved (staging.normalize d.cwd) known d)
    (hdistinct : Distinct (known ++ event.contents staging d)) :
    Kept (staging.normalize d.cwd) (known ++ event.contents staging d) d
      (event.after staging d) := by
  cases event with
  | load project sources =>
    have hstocked := loadInto_shelved hallowed h hdistinct
    exact ⟨hstocked.preserved.cwd_eq, hstocked.shelved,
      fun l bytes _ => hstocked.preserved.file_eq l bytes⟩
  | edit disk =>
    obtain ⟨hcwd, hsame⟩ := hallowed
    refine ⟨hcwd, fun l bytes hl hentry => ?_, fun l bytes hl hentry => ?_⟩
    · exact (h.mono (List.subset_append_left _ _)) l bytes hl (hsame l hl ▸ hentry)
    · exact (hsame l hl).trans hentry

/-- **A history keeps a store.** -/
theorem shelved_after (hallowed : Allowed staging d events)
    (h : Shelved (staging.normalize d.cwd) known d)
    (hdistinct : Distinct (known ++ contentsOf staging d events)) :
    Kept (staging.normalize d.cwd) (known ++ contentsOf staging d events) d
      (after staging d events) := by
  induction events generalizing d known with
  | nil => exact ⟨rfl, h.mono (by simp [contentsOf]), fun _ _ _ hl => hl⟩
  | cons e events ih =>
    rw [contentsOf, ← List.append_assoc] at hdistinct ⊢
    have hfirst := kept_event hallowed.1 h (hdistinct.mono (List.subset_append_left _ _))
    have hrest := ih hallowed.2 (hfirst.cwd_eq ▸ hfirst.shelved) hdistinct
    rw [hfirst.cwd_eq] at hrest
    exact ⟨hrest.cwd_eq.trans hfirst.cwd_eq, hrest.shelved, fun l bytes hl hentry =>
      hrest.file_eq l bytes hl (hfirst.file_eq l bytes hl hentry)⟩

/-! ### The store -/

/-- What a staging tree is throughout a history. -/
structure Faithful (staging : Path) (d : Disk) (events : List Event) : Prop where
  /-- every file lies below its fingerprint, in the directory of a project -/
  shelved : ∀ l bytes, l.LiesBelow (staging.normalize d.cwd) →
    (after staging d events).entryAt l = some (.file bytes) → ∃ project fingerprint name,
      Ordinary project ∧ fingerprint.text = Blake3.fingerprint bytes ∧
        l = ((home (staging.normalize d.cwd) project).child fingerprint).child name
  /-- a file that is there at some time stays as it is -/
  kept : ∀ before rest, events = before ++ rest → ∀ l bytes,
    l.LiesBelow (staging.normalize d.cwd) →
      (after staging d before).entryAt l = some (.file bytes) →
        (after staging d events).entryAt l = some (.file bytes)
  /-- an analyzer that is loaded was read from a copy of the bytes of its source -/
  authentic : ∀ before project sources rest, events = before ++ .load project sources :: rest →
    ∀ a ∈ (load staging (after staging d before) project sources).2.loaded,
      a.source ∈ sources ∧ ∃ bytes, Authentic (stagingDirectory staging project)
        (load staging (after staging d before) project sources).1 a bytes ∧
          ∀ b, (after staging d before).readBytes a.source = .ok b → b = bytes

/-- **The staging tree is a faithful store.**  It has no files at the start, only loads write
to it, and no two contents that are read share a fingerprint.  Then every file lies on the shelf
of its bytes and is never changed, and every analyzer that is loaded is what its source says. -/
theorem faithful_of_distinct
    (hempty : ∀ l bytes, l.LiesBelow (staging.normalize d.cwd) → d.entryAt l ≠ some (.file bytes))
    (hallowed : Allowed staging d events) (hdistinct : Distinct (contentsOf staging d events)) :
    Faithful staging d events := by
  have hnone : Shelved (staging.normalize d.cwd) [] d := fun l bytes hl hentry =>
    absurd hentry (hempty l bytes hl)
  -- at every time the tree is a store
  have htimes : ∀ before rest, events = before ++ rest →
      Kept (staging.normalize d.cwd) (contentsOf staging d before) d (after staging d before) := by
    rintro before rest rfl
    rw [contentsOf_append] at hdistinct
    exact shelved_after (allowed_append.1 hallowed).1 hnone
      (hdistinct.mono (List.subset_append_left _ _))
  refine ⟨fun l bytes hl hentry => ?_, ?_, ?_⟩
  · obtain ⟨-, project, name, hproject, hplace⟩ :=
      (htimes events [] (List.append_nil _).symm).shelved l bytes hl hentry
    exact ⟨project, _, name, hproject, rfl, hplace⟩
  · rintro before rest rfl l bytes hl hentry
    have hbefore := htimes before rest rfl
    rw [contentsOf_append] at hdistinct
    rw [after_append]
    exact (shelved_after (allowed_append.1 hallowed).2 (hbefore.cwd_eq ▸ hbefore.shelved)
      hdistinct).file_eq l bytes (hbefore.cwd_eq ▸ hl) hentry
  · rintro before project sources rest rfl a ha
    have hbefore := htimes before _ rfl
    obtain ⟨hproject, -⟩ := (allowed_append.1 hallowed).2
    rw [contentsOf_append, contentsOf, ← List.append_assoc] at hdistinct
    have hstocked := loadInto_shelved hproject (hbefore.cwd_eq ▸ hbefore.shelved)
      (hdistinct.mono (List.subset_append_left _ _))
    obtain ⟨hsource, bytes, hauthentic⟩ := hstocked.authentic a ha
    refine ⟨hsource, bytes, hauthentic, fun b hb => ?_⟩
    have hsame := hstocked.preserved.readBytes_eq hb
    rw [hauthentic.source_eq] at hsame
    exact (Except.ok.inj hsame).symm

/-! ### An analyzer that is replaced -/

/-- A disk with some files and directories. -/
def diskOf (entries : List (String × DiskEntry)) : Disk :=
  ⟨.root, entries.map fun e => (Path.normalize .root (.ofText e.1), e.2)⟩

/-- Where no entry lies there is no file. -/
theorem entryAt_ne_file (h : (d.entries.all fun e => !decide (e.1.LiesBelow top)) = true)
    {l : Location} (hl : l.LiesBelow top) : d.entryAt l ≠ some (.file bytes) := by
  intro hentry
  have hroot : l ≠ .root := ne_root_of_entryAt_ne (d := d) (by simp [hentry])
  obtain ⟨e, he, rfl⟩ := List.mem_map.1
    ((isSome_entryAt_iff hroot).1 (by rw [hentry]; rfl))
  have hout := List.all_eq_true.1 h e he
  simp [hl] at hout

/-- Two directories with an analyzer of one name each. -/
def twins (one other : ByteArray) : List (String × DiskEntry) :=
  [("/p", .directory), ("/p/x.pack", .file one), ("/q", .directory), ("/q/x.pack", .file other)]

/-- The first of them is loaded, replaced by the other one, and loaded again. -/
def replaced (one other : ByteArray) : List Event :=
  let first : Event := .load "app" [.ofText "/p/x.pack"]
  let loaded := first.after (.ofText "/staging") (diskOf (twins one other))
  [first, .edit (loaded.put (Path.normalize .root (.ofText "/p/x.pack")) (.file other)), first]

/-- Another analyzer of the same length takes the place of one that was loaded. -/
theorem faithful_replaced :
    Faithful (.ofText "/staging")
      (diskOf (twins "name = \"x\"".toUTF8 "name = \"y\"".toUTF8))
      (replaced "name = \"x\"".toUTF8 "name = \"y\"".toUTF8) := by
  generalize hone : "name = \"x\"".toUTF8 = one
  generalize hother : "name = \"y\"".toUTF8 = other
  have hempty : ((diskOf (twins one other)).entries.all fun e =>
      !decide (e.1.LiesBelow (Path.normalize .root (.ofText "/staging")))) = true := by
    subst hone hother
    decide +kernel
  have hplace : ¬ (Path.normalize .root (.ofText "/p/x.pack")).LiesBelow
      (Path.normalize .root (.ofText "/staging")) := by decide +kernel
  have hroot : Path.normalize .root (.ofText "/p/x.pack") ≠ .root := by decide +kernel
  generalize hloaded : (Event.load "app" [.ofText "/p/x.pack"]).after (.ofText "/staging")
    (diskOf (twins one other)) = loaded
  -- what is read before and after the edit
  have hfirst : (diskOf (twins one other)).readBytes (.ofText "/p/x.pack") = .ok one := by
    subst hone hother
    exact readBytes_eq_ok_iff.2 (by decide +kernel)
  have hsecond : (loaded.put (Path.normalize .root (.ofText "/p/x.pack")) (.file other)).readBytes
      (.ofText "/p/x.pack") = .ok other := by
    subst hloaded hone hother
    exact readBytes_eq_ok_iff.2 (by decide +kernel)
  have hdistinct : Distinct [one, other] := by
    subst hone hother
    decide +kernel
  refine faithful_of_distinct (fun l bytes hl => entryAt_ne_file hempty hl) ?_ ?_
  · have happ : Ordinary "app" := by decide
    have hedit : (Event.edit (loaded.put (Path.normalize .root (.ofText "/p/x.pack"))
        (.file other))).Allowed (.ofText "/staging") loaded := by
      refine ⟨rfl, fun l hl => ?_⟩
      have hne : Path.normalize .root (.ofText "/p/x.pack") ≠ l := by
        rintro rfl
        exact hplace hl
      rw [entryAt_put _ _ _ _ hroot, if_neg hne]
    rw [replaced, Allowed, Allowed, hloaded]
    exact ⟨happ, hedit, happ, trivial⟩
  · simp only [replaced, contentsOf, hloaded, Event.contents, contentsInto, hfirst]
    simpa only [Event.after, hsecond, Except.toOption, Option.toList_some, List.append_nil,
      List.nil_append, List.singleton_append] using hdistinct

/-! ### Two contents with one fingerprint -/

/-- No two contents of one length have the same fingerprint. -/
def DistinctByLength (contents : List ByteArray) : Prop :=
  ∀ a ∈ contents, ∀ b ∈ contents, a.size = b.size →
    Blake3.fingerprint a = Blake3.fingerprint b → a = b

/-- The staging tree is a faithful store, whatever contents of different lengths share. -/
def StaysFaithful : Prop :=
  ∀ (staging : Path) (d : Disk) (events : List Event),
    (∀ l bytes, l.LiesBelow (staging.normalize d.cwd) → d.entryAt l ≠ some (.file bytes)) →
    Allowed staging d events → DistinctByLength (contentsOf staging d events) →
    Faithful staging d events

/-- What loading the first of the twins adds to them. -/
def shelvedTwin (one : ByteArray) : List (String × DiskEntry) :=
  [("/staging/app/eb367db9975630ca/x.pack", .file one),
    ("/staging/app/eb367db9975630ca", .directory), ("/staging/app", .directory),
    ("/staging", .directory)]

/-- **A copy can be written over** by contents of another length with the same fingerprint. -/
theorem not_staysFaithful : ¬ StaysFaithful := by
  intro hall
  generalize hone : "name = \"omoakpchekokkcli\"".toUTF8 = one
  generalize hother : "name = \"hgnkafpionfianil\"\n".toUTF8 = other
  generalize hfirst : Event.load "app" [.ofText "/p/x.pack"] = first
  generalize hsecond : Event.load "app" [.ofText "/q/x.pack"] = second
  generalize hplace : Path.normalize .root (.ofText "/staging/app/eb367db9975630ca/x.pack") = l
  have hempty : ((diskOf (twins one other)).entries.all fun e =>
      !decide (e.1.LiesBelow (Path.normalize .root (.ofText "/staging")))) = true := by
    subst hone hother
    decide +kernel
  have hbelow : l.LiesBelow (Path.normalize .root (.ofText "/staging")) := by
    subst hplace
    decide +kernel
  have hloaded : first.after (.ofText "/staging") (diskOf (twins one other)) =
      diskOf (shelvedTwin one ++ twins one other) := by
    subst hone hother hfirst
    decide +kernel
  have hshelved : (diskOf (shelvedTwin one ++ twins one other)).entryAt l = some (.file one) := by
    subst hone hother hplace
    decide +kernel
  have hwritten : (second.after (.ofText "/staging")
      (diskOf (shelvedTwin one ++ twins one other))).entryAt l = some (.file other) := by
    subst hone hother hplace hsecond
    decide +kernel
  have hread : (diskOf (twins one other)).readBytes (.ofText "/p/x.pack") = .ok one := by
    subst hone hother
    exact readBytes_eq_ok_iff.2 (by decide +kernel)
  have hread' : (diskOf (shelvedTwin one ++ twins one other)).readBytes (.ofText "/q/x.pack") =
      .ok other := by
    subst hone hother
    exact readBytes_eq_ok_iff.2 (by decide +kernel)
  have hsize : one.size ≠ other.size := by
    subst hone hother
    decide +kernel
  have happ : Ordinary "app" := by decide
  have hallowed : Allowed (.ofText "/staging") (diskOf (twins one other)) [first, second] := by
    subst hfirst hsecond
    exact ⟨happ, happ, trivial⟩
  have hdistinct : DistinctByLength
      (contentsOf (.ofText "/staging") (diskOf (twins one other)) [first, second]) := by
    rw [contentsOf, contentsOf, hloaded, ← hfirst, ← hsecond]
    simp only [contentsOf, Event.contents, contentsInto, hread, hread', Except.toOption,
      Option.toList_some, List.append_nil, List.singleton_append]
    intro a ha b hb
    simp only [List.mem_cons, List.not_mem_nil, or_false] at ha hb
    rcases ha with rfl | rfl <;> rcases hb with rfl | rfl <;> intro hlength _
    · rfl
    · exact absurd hlength hsize
    · exact absurd hlength.symm hsize
    · rfl
  have hfaithful := hall _ _ _ (fun l bytes hl => entryAt_ne_file hempty hl) hallowed hdistinct
  have hkept := hfaithful.kept [first] [second] rfl l one hbelow
  rw [after, after, List.foldl_cons, List.foldl_cons, List.foldl_cons, List.foldl_nil,
    List.foldl_nil, hloaded, hwritten] at hkept
  have hsame : other = one := by simpa using hkept hshelved
  exact hsize (congrArg ByteArray.size hsame.symm)

end Analyzer
end LintWorkspace
