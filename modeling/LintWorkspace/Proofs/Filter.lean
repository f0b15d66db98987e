/-
# Changes that are filtered out during a reload

While a project is reloaded, a change is weighed against the snapshot that is still
the current one.  If it asks for nothing, nobody hears of it again.  That is right as
long as the reload looks at no more than the snapshot watches (`Foreseen`): then the
reload finds the same before and after the change (`findings_eq_of_filtered`).

A reload may look further.  A document that imports one more brings that one in before
any snapshot watches it, and then a change that was filtered out is missed
(`not_filtersSafely`).
-/

import LintWorkspace.Proofs.Footprint
import LintWorkspace.Proofs.Staging
import LintWorkspace.Proofs.Run

namespace LintWorkspace

/-! ### Changes of one file -/

namespace Change.Kind

/-- What happened to the file at a place between two disks. -/
def Explains (kind : Change.Kind) (l : Location) (F G : Disk) : Prop :=
  match kind with
  | .added => F.entryAt l = none ∧ ∃ b, G.entryAt l = some (.file b)
  | .modified => Disk.Overwritten l F G
  | .deleted => (∃ a, F.entryAt l = some (.file a)) ∧ G.entryAt l = none
  | .renamed => False

/-- A change at a place can be seen from another: it is the same place, or it lies below a
file that comes or goes. -/
def Disturbs (kind : Change.Kind) (l x : Location) : Prop :=
  x = l ∨ kind ≠ .modified ∧ x.isWithin l = true

/-- A file that is put where nothing stood was added. -/
theorem explains_added {l : Location} {F : Disk} (hroot : l ≠ .root) (h : F.entryAt l = none)
    (bytes : ByteArray) : added.Explains l F (F.put l (.file bytes)) :=
  ⟨h, bytes, by rw [Disk.entryAt_put _ _ _ _ hroot, if_pos rfl]⟩

/-- A file that is put where a file stood was modified. -/
theorem explains_modified {l : Location} {F : Disk} {old : ByteArray} (hroot : l ≠ .root)
    (h : F.entryAt l = some (.file old)) (bytes : ByteArray) :
    modified.Explains l F (F.put l (.file bytes)) :=
  ⟨old, bytes, h, by rw [Disk.entryAt_put _ _ _ _ hroot, if_pos rfl]⟩

instance (kind : Change.Kind) (l x : Location) : Decidable (kind.Disturbs l x) := by
  unfold Disturbs
  infer_instance

theorem overwritten_or_of_not_disturbs {kind : Change.Kind} {l x : Location} {F G : Disk}
    (hkind : kind.Explains l F G) (h : ¬ kind.Disturbs l x) :
    Disk.Overwritten l F G ∨ x.isWithin l = false := by
  by_cases hmod : kind = .modified
  · subst hmod
    exact Or.inl hkind
  · right
    cases hwithin : x.isWithin l with
    | false => rfl
    | true => exact absurd (Or.inr ⟨hmod, hwithin⟩) h

/-- What a change cannot be seen from reads as before. -/
theorem readText_eq_of_not_disturbs {kind : Change.Kind} {l x : Location} {F G : Disk}
    (hedit : Disk.Edited l F G) (hkind : kind.Explains l F G) (h : ¬ kind.Disturbs l x) :
    F.readText x.toPath = G.readText x.toPath :=
  hedit.readText_eq (fun hx => h (Or.inl hx)) (overwritten_or_of_not_disturbs hkind h)

end Change.Kind

namespace Project

/-! ### What a reload finds -/

variable {o : Options} {F G : Disk} {s : Snapshot} {scope : Scope} {l : Location}

/-- What a snapshot says besides its sources. -/
def Snapshot.findings (s : Snapshot) :
    Ruleset.Severities × List Location × List Analyzer.Loaded × List Analyzer.LoadFault :=
  (s.severities, s.documents, s.analyzers, s.failures)

/-- The documents and the analyzers that a reload looks at. -/
structure Reading where
  documents : List Location
  analyzers : List Location

/-- What a reload of a scope looks at on a disk. -/
def readingOf (o : Options) (d : Disk) (s : Snapshot) (scope : Scope) : Reading :=
  if scope.definition then
    match outline d (some s) s.definition with
    | .error _ => ⟨[], []⟩
    | .ok u => ⟨reachedFrom d u.ruleset, if o.analyzersEnabled then u.analyzerPaths else []⟩
  else ⟨if scope.ruleset then reachedFrom d s.ruleset else [],
    if scope.analyzers && o.analyzersEnabled then s.analyzerPaths else []⟩

theorem findings_withAnalyzers (hedit : Disk.Edited l F G)
    (h : o.analyzersEnabled = true → ∀ a ∈ s.analyzerPaths,
      Analyzer.Untouched l F G (Analyzer.stagingDirectory o.staging s.id) a.toPath)
    (sources : List Location) :
    (withAnalyzers o G { s with sources }).2.findings = (withAnalyzers o F s).2.findings := by
  unfold withAnalyzers
  by_cases hon : o.analyzersEnabled = true
  · have huntouched : ∀ source ∈ s.analyzerPaths.map Location.toPath,
        Analyzer.Untouched l F G (Analyzer.stagingDirectory o.staging s.id) source := by
      intro source hsource
      obtain ⟨a, ha, rfl⟩ := List.mem_map.1 hsource
      exact h hon a ha
    have hload := Analyzer.answers_loadInto hedit huntouched
    simp only [hon, if_true, Snapshot.findings, Analyzer.load, hload.answer_eq]
  · simp only [hon, Bool.false_eq_true, if_false, Snapshot.findings]

/-- Collecting the sources finds nothing else, and fails alike on every disk. -/
theorem findings_withSources (F G : Disk) {s t : Snapshot} (hpatterns : t.patterns = s.patterns)
    (hfindings : t.findings = s.findings) :
    (withSources G t).map Snapshot.findings = (withSources F s).map Snapshot.findings := by
  rw [withSources_eq, withSources_eq, hpatterns]
  cases hF : findSources F s.patterns with
  | error cause =>
    rw [findSources_eq_error G hF]
    rfl
  | ok ls =>
    obtain ⟨ls', hG⟩ := findSources_eq_ok G hF
    rw [hG]
    exact congrArg Except.ok hfindings

/-- A refresh finds the same on a disk with an edit that its analyzers are untouched by. -/
theorem findings_refreshRest (hedit : Disk.Edited l F G)
    (h : scope.analyzers = true → o.analyzersEnabled = true → ∀ a ∈ s.analyzerPaths,
      Analyzer.Untouched l F G (Analyzer.stagingDirectory o.staging s.id) a.toPath)
    (r : Ruleset.Resolved) :
    (refreshRest o G s scope r).map Snapshot.findings =
      (refreshRest o F s scope r).map Snapshot.findings := by
  unfold refreshRest
  generalize hu : ({ s with severities := r.severities, documents := r.documents } :
    Snapshot) = u
  by_cases ha : scope.analyzers = true
  · have hu' : ∀ a ∈ u.analyzerPaths, o.analyzersEnabled = true →
        Analyzer.Untouched l F G (Analyzer.stagingDirectory o.staging u.id) a.toPath := by
      subst hu
      exact fun a hmem hon => h ha hon a hmem
    have hfound := findings_withAnalyzers hedit (fun hon a hmem => hu' a hmem hon) u.sources
    simp only [ha, if_true]
    split
    · exact findings_withSources _ _ rfl hfound
    · exact congrArg Except.ok hfound
  · simp only [ha, Bool.false_eq_true, if_false]
    split
    · exact findings_withSources _ _ rfl rfl
    · rfl

theorem outline_congr {definition : Location} {last : Option Snapshot}
    (h : F.readText definition.toPath = G.readText definition.toPath) :
    outline F last definition = outline G last definition := by
  unfold outline
  rw [read_congr h]

/-- What a definition says is the same where it and the documents of its ruleset read alike,
but for the sources. -/
theorem draft_congr (last : Option Snapshot) (definition : Location)
    (hdef : F.readText definition.toPath = G.readText definition.toPath)
    (hdocs : ∀ u, outline F last definition = .ok u →
      ∀ x ∈ reachedFrom F u.ruleset, F.readText x.toPath = G.readText x.toPath) :
    match draft F last definition with
    | .error fault => draft G last definition = .error fault
    | .ok t => ∃ ls, findSources G t.patterns = .ok ls ∧
        draft G last definition = .ok { t with sources := ls } := by
  rw [draft_eq, draft_eq, ← outline_congr hdef]
  cases hu : outline F last definition with
  | error fault => rfl
  | ok u =>
    simp only
    cases hsources : findSources F u.patterns with
    | error cause => simp only [findSources_eq_error G hsources]
    | ok ls =>
      obtain ⟨ls', hls'⟩ := findSources_eq_ok G hsources
      simp only [hls', rulesetFrom_congr (hdocs u hu)]
      cases rulesetFrom F u.ruleset with
      | error fault => rfl
      | ok r => exact ⟨ls', hls', rfl⟩

/-- So a build finds the same. -/
theorem findings_build {last : Option Snapshot} {definition : Location}
    (hedit : Disk.Edited l F G)
    (hdef : F.readText definition.toPath = G.readText definition.toPath)
    (hdocs : ∀ u, outline F last definition = .ok u →
      ∀ x ∈ reachedFrom F u.ruleset, F.readText x.toPath = G.readText x.toPath)
    (hanalyzers : ∀ u, outline F last definition = .ok u → o.analyzersEnabled = true →
      ∀ a ∈ u.analyzerPaths,
        Analyzer.Untouched l F G (Analyzer.stagingDirectory o.staging u.id) a.toPath) :
    (build o G last definition).2.map Snapshot.findings =
      (build o F last definition).2.map Snapshot.findings := by
  have hdraft := draft_congr last definition hdef hdocs
  rw [build_snd, build_snd]
  cases hd : draft F last definition with
  | error fault =>
    rw [hd] at hdraft
    rw [hdraft]
    rfl
  | ok t =>
    rw [hd] at hdraft
    obtain ⟨ls, -, hdraft⟩ := hdraft
    obtain ⟨u, hu, hsame⟩ := outline_of_draft hd
    rw [hdraft]
    refine congrArg Except.ok (findings_withAnalyzers hedit (fun hon a ha => ?_) ls)
    rw [hsame.id]
    exact hanalyzers u hu hon a (hsame.analyzerPaths ▸ ha)

/-- **A reload finds the same as long as it reads the same.** -/
theorem findings_rebuild (hedit : Disk.Edited l F G)
    (hdef : scope.definition = true →
      F.readText s.definition.toPath = G.readText s.definition.toPath)
    (hdocs : ∀ x ∈ (readingOf o F s scope).documents,
      F.readText x.toPath = G.readText x.toPath)
    (hanalyzers : ∀ a ∈ (readingOf o F s scope).analyzers,
      Analyzer.Untouched l F G (Analyzer.stagingDirectory o.staging s.id) a.toPath) :
    (rebuild o G s scope).2.map Snapshot.findings =
      (rebuild o F s scope).2.map Snapshot.findings := by
  unfold readingOf at hdocs hanalyzers
  unfold rebuild
  by_cases hscope : scope.definition = true
  · simp only [hscope, if_true] at hdocs hanalyzers ⊢
    refine findings_build hedit (hdef hscope) (fun u hu x hx => ?_) fun u hu hon a ha => ?_
    · exact hdocs x (by simpa [hu] using hx)
    · have hid : u.id = s.id := (id_outline hu).2.2 s rfl
      rw [hid]
      exact hanalyzers a (by simpa [hu, hon] using ha)
  · simp only [hscope, Bool.false_eq_true, if_false] at hdocs hanalyzers ⊢
    have hrest : ∀ r, (refreshRest o G s scope r).map Snapshot.findings =
        (refreshRest o F s scope r).map Snapshot.findings :=
      findings_refreshRest hedit fun ha hon a hmem =>
        hanalyzers a (by simpa [ha, hon] using hmem)
    rw [refresh_snd, refresh_snd]
    by_cases hr : scope.ruleset = true
    · simp only [hr, if_true] at hdocs ⊢
      rw [rulesetFrom_congr hdocs]
      cases rulesetFrom F s.ruleset with
      | error fault => rfl
      | ok r => exact hrest r
    · simp only [hr, Bool.false_eq_true, if_false]
      exact hrest _

end Project

/-! ### Changes that are missed -/

/-- A project watches a location as a document of its ruleset. -/
def OpenProject.watches (p : OpenProject) (l : Location) : Bool :=
  p.snapshot.hasDocument l.toPath || p.attempted.contains l

namespace Session
namespace Run

/-- Whatever is filtered out while a reload of a run is to end does not matter to the reload,
on a side condition. -/
def FiltersSafely (side : OpenProject → Project.Reading → Location → Change.Kind → Bool) : Prop :=
  ∀ (r : Run Unit) (n : Nat) (id : String) (p : OpenProject) (scope : Scope) (l : Location)
    (kind : Change.Kind) (F G : Disk), r.project n id = some p →
    r.task n = some (.finish id scope) → Disk.Edited l F G → kind.Explains l F G →
    p.workFor l kind = .none →
    side p (Project.readingOf (r.world n).options F p.snapshot scope) l kind = true →
    (Project.rebuild (r.world n).options G p.snapshot scope).2.map Project.Snapshot.findings =
      (Project.rebuild (r.world n).options F p.snapshot scope).2.map Project.Snapshot.findings

/-- The part of a result that can be compared by computing. -/
def summary : Except Project.BuildFault Project.Snapshot →
    Option Project.BuildFault × Option (Ruleset.Severities × List Analyzer.LoadFault)
  | .ok s => (none, some (s.severities, s.failures))
  | .error fault => (some fault, none)

theorem summary_eq {x y : Except Project.BuildFault Project.Snapshot}
    (h : x.map Project.Snapshot.findings = y.map Project.Snapshot.findings) :
    summary x = summary y := by
  cases x <;> cases y <;> simp_all [Except.map, summary, Project.Snapshot.findings]

/-- A run in which a project is opened, the disk is changed and one change is told.  The
reload that the change asks for is to end at moment 9. -/
def toldOnce (files : List (String × String)) (act : Disk → Disk) (told : String) : Run Unit where
  options := ⟨.ofText "/staging", true⟩
  disk := ⟨.root, (Path.normalize .root (.ofText "/w"), .directory) ::
    files.map fun f => (Path.normalize .root (.ofText f.1), .file f.2.toUTF8)⟩
  memory := ()
  listen := fun _ _ => ([], ())
  calls
    | 0 => some (.addProject (.ofText "/w/a.toml") fun _ m => m)
    | 3 => some (.visit fun w m => (act w.disk, m))
    | 5 => some (.notify [⟨.ofText told, .modified⟩] fun m => m)
    | _ => none

/-- A file that comes or changes while the reload of such a run is to end, and is filtered
out although the result differs. -/
theorem not_filtersSafely_of {side : OpenProject → Project.Reading → Location → Change.Kind → Bool}
    (r : Run Unit) (l : Location) (kind : Change.Kind) (text : String) (hroot : l ≠ .root)
    (hkind : kind.Explains l (r.world 9).disk ((r.world 9).disk.put l (.file text.toUTF8)))
    (h : ((r.project 9 "a").any fun p => (r.task 9).any fun t => match t with
      | .finish "a" scope => p.workFor l kind = .none &&
        side p (Project.readingOf (r.world 9).options (r.world 9).disk p.snapshot scope) l kind &&
        summary (Project.rebuild (r.world 9).options
          ((r.world 9).disk.put l (.file text.toUTF8)) p.snapshot scope).2 ≠
        summary (Project.rebuild (r.world 9).options (r.world 9).disk p.snapshot scope).2
      | _ => false) = true) : ¬ FiltersSafely side := by
  intro hsafe
  obtain ⟨p, hp, h⟩ := (Option.any_eq_true _ _).1 h
  obtain ⟨t, ht, h⟩ := (Option.any_eq_true _ _).1 h
  split at h
  · rename_i scope
    simp only [Bool.and_eq_true, decide_eq_true_eq] at h
    obtain ⟨⟨hfilter, hside⟩, hdiffers⟩ := h
    exact hdiffers (summary_eq (hsafe r 9 "a" p scope l kind _ _ hp ht
      (Disk.Edited.put _ hroot _) hkind hfilter hside))
  · simp at h

/-- The ruleset comes to import one more document. -/
def growing : Run Unit :=
  toldOnce [("/w/a.toml", "ruleset = \"r.toml\""), ("/w/r.toml", "rules = []"),
    ("/w/n.toml", "rules = []")]
    (fun d => d.put (Path.normalize .root (.ofText "/w/r.toml"))
      (.file "imports = [\"n.toml\"]".toUTF8)) "/w/r.toml"

/-- The whole directory of the project goes away. -/
def vanishing : Run Unit :=
  toldOnce [("/w/a.toml", "ruleset = \"r.toml\""), ("/w/r.toml", "rules = []")]
    (fun d => d.dropTree (Path.normalize .root (.ofText "/w"))) "/w/r.toml"

/-- The definition comes to declare an analyzer. -/
def declaring : Run Unit :=
  toldOnce [("/w/a.toml", "")]
    (fun d => d.put (Path.normalize .root (.ofText "/w/a.toml"))
      (.file "analyzers = [\"sub/x.pack\"]".toUTF8)) "/w/a.toml"

/-- An analyzer is told to have changed, but it did not. -/
def touching : Run Unit :=
  toldOnce [("/w/a.toml", "analyzers = [\"x.pack\"]"), ("/w/x.pack", "name = \"x\"")] id
    "/w/x.pack"

/-- **A change can be filtered out and missed**: at a document that is imported only now.
It is not enough that all documents are watched, for a file may come where the directory
of one was.  It is not enough that no document is disturbed, for an analyzer may be
declared only now, and not even that no analyzer is, for its copy may be. -/
theorem not_filtersSafely :
    ¬ FiltersSafely (fun _ _ _ _ => true) ∧
      ¬ FiltersSafely (fun p reading _ _ => reading.documents.all p.watches) ∧
      ¬ FiltersSafely (fun _ reading l kind =>
        reading.documents.all fun x => !decide (kind.Disturbs l x)) ∧
      ¬ FiltersSafely (fun _ reading l kind =>
        (reading.documents ++ reading.analyzers).all fun x => !decide (kind.Disturbs l x)) := by
  refine ⟨?_, ?_, ?_, ?_⟩
  · have hfile : (growing.world 9).disk.entryAt (Path.normalize .root (.ofText "/w/n.toml")) =
        some (.file "rules = []".toUTF8) := by decide +kernel
    exact not_filtersSafely_of growing _ .modified "rules = [[\"Y\", \"error\"]]"
      (by decide +kernel) (Change.Kind.explains_modified (by decide +kernel) hfile _)
      (by decide +kernel)
  · have hnone : (vanishing.world 9).disk.entryAt (Path.normalize .root (.ofText "/w")) =
        none := by decide +kernel
    exact not_filtersSafely_of vanishing _ .added "" (by decide +kernel)
      (Change.Kind.explains_added (by decide +kernel) hnone _) (by decide +kernel)
  · have hnone : (declaring.world 9).disk.entryAt (Path.normalize .root (.ofText "/w/sub")) =
        none := by decide +kernel
    exact not_filtersSafely_of declaring _ .added "" (by decide +kernel)
      (Change.Kind.explains_added (by decide +kernel) hnone _) (by decide +kernel)
  · have hfile : (touching.world 9).disk.entryAt
        (Path.normalize .root (.ofText "/staging/a/0c04005cc8004dc9/x.pack")) =
        some (.file "name = \"x\"".toUTF8) := by decide +kernel
    exact not_filtersSafely_of touching _ .modified "nome = \"x\"" (by decide +kernel)
      (Change.Kind.explains_modified (by decide +kernel) hfile _) (by decide +kernel)

end Run
end Session

/-! ### Changes that are filtered out -/

namespace OpenProject

variable {p : OpenProject} {o : Project.Options} {F G : Disk} {scope : Scope} {l : Location}
  {kind : Change.Kind}

/-- What a reload looks at on a disk, and a change at a place can be seen from, is watched
for a change at that place. -/
structure Foreseen (p : OpenProject) (o : Project.Options) (F : Disk) (scope : Scope)
    (l : Location) (kind : Change.Kind) : Prop where
  definition : scope.definition = true → kind.Disturbs l p.snapshot.definition →
    p.snapshot.definition = l
  documents : ∀ x ∈ (Project.readingOf o F p.snapshot scope).documents,
    kind.Disturbs l x → x = l ∧ p.watches l = true
  analyzers : ∀ a ∈ (Project.readingOf o F p.snapshot scope).analyzers,
    kind.Disturbs l a → a ∈ p.snapshot.analyzerPaths
  /-- the copy of an analyzer may lie anywhere below the directory of the project -/
  copies : ∀ a ∈ (Project.readingOf o F p.snapshot scope).analyzers, ∀ bytes copy,
    Analyzer.copyOf (Analyzer.stagingDirectory o.staging p.snapshot.id) a.toPath bytes =
      some copy → copy.normalize F.cwd ≠ l ∧
        (kind = .modified ∨ ∀ m ∈ Disk.places F.cwd copy, m.isWithin l = false)

/-- A change at a watched document is not filtered out. -/
theorem workFor_ne_none_of_watches (h : p.watches l = true) : p.workFor l kind ≠ .none := by
  rw [watches] at h
  simp only [workFor, h, if_true]
  split <;> decide

/-- A change at or above a declared analyzer is not filtered out. -/
theorem workFor_ne_none_of_analyzer {a : Location} (ha : a ∈ p.snapshot.analyzerPaths)
    (hwithin : a.isWithin l = true) : p.workFor l kind ≠ .none := by
  have hdeclared : (p.snapshot.hasAnalyzer l.toPath ||
      p.snapshot.analyzerPaths.any fun a => a.isWithin l) = true := by
    rw [Bool.or_eq_true, List.any_eq_true]
    exact Or.inr ⟨a, ha, hwithin⟩
  simp only [workFor, hdeclared, if_true]
  split
  · decide
  · split <;> decide

/-- **A change that is filtered out does not matter to a reload that looks only at what is
watched.** -/
theorem findings_eq_of_filtered (hedit : Disk.Edited l F G) (hkind : kind.Explains l F G)
    (hfilter : p.workFor l kind = .none) (h : p.Foreseen o F scope l kind) :
    (Project.rebuild o G p.snapshot scope).2.map Project.Snapshot.findings =
      (Project.rebuild o F p.snapshot scope).2.map Project.Snapshot.findings := by
  have hdef : p.snapshot.definition ≠ l := by
    rintro rfl
    simp [p.workFor_definition kind, Scope.full, Scope.none] at hfilter
  refine Project.findings_rebuild hedit (fun hscope => ?_) (fun x hx => ?_) fun a ha => ?_
  · exact Change.Kind.readText_eq_of_not_disturbs hedit hkind
      fun hseen => hdef (h.definition hscope hseen)
  · refine Change.Kind.readText_eq_of_not_disturbs hedit hkind fun hseen => ?_
    exact workFor_ne_none_of_watches (h.documents x hx hseen).2 hfilter
  · have hunseen : ¬ kind.Disturbs l a := fun hseen => by
      have hwithin : a.isWithin l = true := hseen.elim (fun e => e ▸ a.isWithin_self) And.right
      exact workFor_ne_none_of_analyzer (h.analyzers a ha hseen) hwithin hfilter
    exact {
      source_spares := Disk.Edited.spares_toPath
        (Change.Kind.overwritten_or_of_not_disturbs hkind hunseen)
      source_ne := by
        rw [Path.normalize_toPath]
        exact fun e => hunseen (Or.inl e)
      copy_spares := fun bytes copy hcopy =>
        (h.copies a ha bytes copy hcopy).2.imp_left fun hmod => by
          subst hmod
          exact hkind
      copy_ne := fun bytes copy hcopy => (h.copies a ha bytes copy hcopy).1 }

/-- A file that comes beside the new document while the reload is to end. -/
theorem findings_eq_growing :
    ∃ p l, Session.Run.growing.project 9 "a" = some p ∧ p.workFor l .added = .none ∧
      ∀ o, (Project.rebuild o ((Session.Run.growing.world 9).disk.put l (.file .empty))
          p.snapshot .rulesetOnly).2.map Project.Snapshot.findings =
        (Project.rebuild o (Session.Run.growing.world 9).disk
          p.snapshot .rulesetOnly).2.map Project.Snapshot.findings := by
  generalize hl : Path.normalize .root (.ofText "/w/o.toml") = l
  have hroot : l ≠ .root := by
    subst hl
    decide +kernel
  have hnone : (Session.Run.growing.world 9).disk.entryAt l = none := by
    subst hl
    decide +kernel
  have h : (Session.Run.growing.project 9 "a").any (fun p => p.workFor l .added = .none ∧
      ∀ x ∈ Project.reachedFrom (Session.Run.growing.world 9).disk p.snapshot.ruleset,
        ¬ Change.Kind.added.Disturbs l x) = true := by
    subst hl
    decide +kernel
  obtain ⟨p, hp, h⟩ := (Option.any_eq_true _ _).1 h
  obtain ⟨hfilter, hdocs⟩ := of_decide_eq_true h
  refine ⟨p, l, hp, hfilter, fun o => ?_⟩
  exact findings_eq_of_filtered (Disk.Edited.put _ hroot _)
    (Change.Kind.explains_added hroot hnone _) hfilter {
      definition := fun h => by simp [Scope.rulesetOnly, Scope.none] at h
      documents := fun x hx hseen => absurd hseen (hdocs x hx)
      analyzers := fun a ha => by simp [Project.readingOf, Scope.rulesetOnly, Scope.none] at ha
      copies := fun a ha => by simp [Project.readingOf, Scope.rulesetOnly, Scope.none] at ha }

end OpenProject
end LintWorkspace
