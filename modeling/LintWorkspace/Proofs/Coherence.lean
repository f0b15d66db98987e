/-
# Snapshots hang together

Whatever way a snapshot was made, its parts fit each other (`Snapshot.Coherent`):

| part | fits |
| --- | --- |
| the directory | is that of the definition |
| the severities and the documents | come from the ruleset, with which the documents start |
| the analyzers and the failures | go through the declared analyzers one by one |

A build makes all of them (`coherent_of_build`).  A refresh makes the parts of its scope
again and carries the others over, so it keeps them all (`Coherent.refresh`).  So the
snapshots of a project are coherent from its opening on, and its id and the place of its
definition never change (`coherent`).
-/

import LintWorkspace.Proofs.Contained
import LintWorkspace.Proofs.Orderly
import LintWorkspace.Proofs.Reach

namespace LintWorkspace
namespace Analyzer

/-- Analyzers and failures that go through paths one by one, in order: at each path an analyzer
was loaded from it, or loading it failed. -/
inductive Splits : List Path → List Loaded → List LoadFault → Prop
  | nil : Splits [] [] []
  | loaded (a : Loaded) {paths as faults} (h : Splits paths as faults) :
    Splits (a.source :: paths) (a :: as) faults
  | failed (fault : LoadFault) {paths as faults} (h : Splits paths as faults) :
    Splits (fault.path :: paths) as (fault :: faults)

variable {dir source copy : Path} {d : Disk} {paths : List Path} {as : List Loaded}
  {faults : List LoadFault}

/-- Both lists keep the order of the paths. -/
theorem Splits.sublists (h : Splits paths as faults) :
    (as.map Loaded.source).Sublist paths ∧ (faults.map LoadFault.path).Sublist paths := by
  induction h with
  | nil => exact ⟨.slnil, .slnil⟩
  | loaded a _ ih => exact ⟨ih.1.cons_cons _, ih.2.cons _⟩
  | failed fault _ ih => exact ⟨ih.1.cons _, ih.2.cons_cons _⟩

/-- What loading an analyzer ends with names the path it was to be loaded from. -/
def Names (source : Path) : Except LoadFault Loaded → Prop
  | .ok a => a.source = source
  | .error fault => fault.path = source

theorem names_readCopy (d : Disk) (source copy : Path) (fingerprint : String) :
    Names source (readCopy d source copy fingerprint) := by
  unfold readCopy
  split
  · rfl
  · split <;> rfl

theorem names_loadAnalyzer (dir : Path) (d : Disk) (source : Path) :
    Names source (loadAnalyzer dir d source).2 := by
  unfold loadAnalyzer
  split
  · rfl
  · rfl
  · split
    · rfl
    · simp only
      split
      · exact names_readCopy _ _ _ _
      · split
        · rfl
        · exact names_readCopy _ _ _ _

/-- Loading goes through the paths one by one. -/
theorem splits_loadInto (dir : Path) (d : Disk) (paths : List Path) :
    Splits paths (loadInto dir d paths).2.loaded (loadInto dir d paths).2.failures := by
  induction paths generalizing d with
  | nil => exact .nil
  | cons source paths ih =>
    have hnames := names_loadAnalyzer dir d source
    have hrest := ih (loadAnalyzer dir d source).1
    rw [loadInto]
    cases hout : (loadAnalyzer dir d source).2 with
    | ok a =>
      obtain rfl : a.source = source := by simpa [hout, Names] using hnames
      simpa [hout] using hrest.loaded a
    | error fault =>
      obtain rfl : fault.path = source := by simpa [hout, Names] using hnames
      simpa [hout] using hrest.failed fault

end Analyzer

namespace Project

variable {o : Options} {d : Disk} {last : Option Snapshot} {s t : Snapshot} {scope : Scope}
  {root : Option Location} {definition : Location}

/-- Severities and documents that fit a ruleset. -/
def Ruled : Option Location → Ruleset.Severities → List Location → Prop
  | none, severities, documents => severities = ∅ ∧ documents = []
  | some root, _, documents => documents.head? = some root ∧ documents.Nodup

/-- Analyzers and failures that fit the declared analyzers. -/
def Supplied (o : Options) (paths : List Path) (as : List Analyzer.Loaded)
    (faults : List Analyzer.LoadFault) : Prop :=
  if o.analyzersEnabled then Analyzer.Splits paths as faults else as = [] ∧ faults = []

/-- The parts of the snapshot fit each other. -/
structure Snapshot.Coherent (o : Options) (s : Snapshot) : Prop where
  dir_eq : s.dir = s.definition.parent
  ruled : Ruled s.ruleset s.severities s.documents
  supplied : Supplied o (s.analyzerPaths.map Location.toPath) s.analyzers s.failures

/-- What a ruleset says fits it. -/
theorem ruled_of_rulesetFrom {r : Ruleset.Resolved} (h : rulesetFrom d root = .ok r) :
    Ruled root r.severities r.documents := by
  cases root with
  | none =>
    obtain rfl := Except.ok.inj h
    exact ⟨rfl, rfl⟩
  | some l =>
    obtain ⟨q, hcourse, hreached⟩ := Ruleset.visits_resolve d l
    have hdocs : r.documents = q.reached := by
      rw [documents_of_rulesetFrom h, ← hreached]
      rfl
    rw [hdocs]
    exact ⟨hcourse.head?_reached, (hcourse.sound (Ruleset.sound_nil d)).1⟩

theorem supplied_withAnalyzers (o : Options) (d : Disk) (s : Snapshot) :
    Supplied o ((withAnalyzers o d s).2.analyzerPaths.map Location.toPath)
      (withAnalyzers o d s).2.analyzers (withAnalyzers o d s).2.failures := by
  unfold Supplied withAnalyzers
  cases o.analyzersEnabled with
  | true => exact Analyzer.splits_loadInto _ d _
  | false => exact ⟨rfl, rfl⟩

/-! ### Every way to make a snapshot -/

/-- **A build makes a coherent snapshot.** -/
theorem coherent_of_build (h : (build o d last definition).2 = .ok s) : s.Coherent o := by
  have hruleset := (of_build_eq_ok h).2.2
  rw [build_snd] at h
  obtain ⟨t, hdraft, rfl⟩ := map_eq_ok_iff.1 h
  obtain ⟨u, hu, hsame⟩ := outline_of_draft hdraft
  obtain ⟨hdef, hdir, -⟩ := id_outline hu
  exact {
    dir_eq := by
      show t.dir = t.definition.parent
      rw [hsame.dir, hdir, hsame.definition, hdef]
    ruled := ruled_of_rulesetFrom hruleset
    supplied := supplied_withAnalyzers o d t }

/-- Resolving the ruleset again makes what fits it. -/
theorem Snapshot.Coherent.withRuleset (hs : s.Coherent o) (h : withRuleset d s = .ok t) :
    t.Coherent o := by
  obtain ⟨r, hr, rfl⟩ := exists_of_withRuleset h
  exact ⟨hs.dir_eq, ruled_of_rulesetFrom hr, hs.supplied⟩

/-- Collecting the sources again touches none of the parts that have to fit. -/
theorem Snapshot.Coherent.withSources (hs : s.Coherent o) (h : withSources d s = .ok t) :
    t.Coherent o := by
  obtain ⟨ls, -, rfl⟩ := exists_of_withSources h
  exact ⟨hs.dir_eq, hs.ruled, hs.supplied⟩

/-- Loading the analyzers again goes through those that are declared. -/
theorem Snapshot.Coherent.withAnalyzers (hs : s.Coherent o) :
    (withAnalyzers o d s).2.Coherent o :=
  ⟨hs.dir_eq, hs.ruled, supplied_withAnalyzers o d s⟩

/-- **A refresh of any scope makes a coherent snapshot of a coherent one.** -/
theorem Snapshot.Coherent.refresh (hs : s.Coherent o) (h : (refresh o d s scope).2 = .ok t) :
    t.Coherent o := by
  unfold Project.refresh at h
  generalize hbase : (if scope.ruleset then Project.withRuleset d s else .ok s) = base at h
  cases base with
  | error fault => simp at h
  | ok u =>
    have hu : u.Coherent o := by
      split at hbase
      · exact hs.withRuleset hbase
      · exact Except.ok.inj hbase ▸ hs
    -- the snapshot before its sources are collected, and the disk they are collected on
    have hlast : ∀ (e : Disk) (v : Snapshot), v.Coherent o →
        (if scope.sources then Project.withSources e v else .ok v) = .ok t → t.Coherent o := by
      intro e v hv ht
      split at ht
      · exact hv.withSources ht
      · exact Except.ok.inj ht ▸ hv
    cases ha : scope.analyzers with
    | true => exact hlast _ _ hu.withAnalyzers (by simpa [ha] using h)
    | false => exact hlast d u hu (by simpa [ha] using h)

/-- Whatever a reload does again, its snapshot is coherent. -/
theorem Snapshot.Coherent.rebuild (hs : s.Coherent o) (h : (rebuild o d s scope).2 = .ok t) :
    t.Coherent o := by
  unfold Project.rebuild at h
  split at h
  · exact coherent_of_build h
  · exact hs.refresh h

/-! ### Paths that are compared -/

/-- All locations that a snapshot holds. -/
def Snapshot.places (s : Snapshot) : List Location :=
  s.definition :: s.ruleset.toList ++ s.documents ++ s.analyzerPaths ++ s.sources

theorem sameAs_toPath (l m : Location) : l.toPath.sameAs m.toPath = true ↔ l = m := by
  rw [Path.sameAs, decide_eq_true_eq]
  refine ⟨fun h => ?_, fun h => h ▸ rfl⟩
  rw [← Path.normalize_toPath .root l, ← Path.normalize_toPath .root m, Path.normalize, h,
    Path.normalize]

/-- A location is taken for a document of a coherent snapshot exactly if it is one. -/
theorem Snapshot.Coherent.hasDocument_iff (hs : s.Coherent o) (l : Location) :
    s.hasDocument l.toPath = true ↔ l ∈ s.documents := by
  have hroot : s.ruleset = some l → l ∈ s.documents := by
    intro hl
    have hruled := hs.ruled
    rw [hl] at hruled
    exact List.mem_of_mem_head? hruled.1
  simp only [hasDocument, Bool.or_eq_true, Option.any_eq_true, List.any_eq_true, sameAs_toPath]
  constructor
  · rintro (⟨m, hm, rfl⟩ | ⟨m, hm, rfl⟩)
    · exact hroot hm
    · exact hm
  · exact fun hl => Or.inr ⟨l, hl, rfl⟩

theorem Snapshot.hasAnalyzer_iff (s : Snapshot) (l : Location) :
    s.hasAnalyzer l.toPath = true ↔ l ∈ s.analyzerPaths := by
  simp [hasAnalyzer, List.any_eq_true, sameAs_toPath]

end Project

namespace Session
namespace Run

variable {μ : Type} {r : Run μ} {m n : Nat} {id : String} {p q : OpenProject}

/-- The snapshots of a project are coherent from its opening on. -/
theorem coherent_snapshot (hp : r.project n id = some p) : p.snapshot.Coherent r.options := by
  refine induct_project (motive := fun _ p => p.snapshot.Coherent r.options)
    ?_ ?_ ?_ ?_ ?_ hp
  · intro n path told s _ hs _ _ _
    rw [options_world] at hs
    obtain ⟨hdir, hruled, hsupplied⟩ := Project.coherent_of_build hs
    exact ⟨hdir, hruled, hsupplied⟩
  · exact fun n p _ ih _ => ih
  · exact fun n p scope _ ih _ => ih
  · intro n p _ ih _
    rwa [OpenProject.snapshot_start]
  · intro n p scope _ ih _
    rw [options_world]
    cases hres : (Project.rebuild r.options (r.world n).disk p.snapshot scope).2 with
    | error fault => exact ih
    | ok s =>
      obtain ⟨hdir, hruled, hsupplied⟩ := ih.rebuild hres
      exact ⟨hdir, hruled, hsupplied⟩

/-- A project is made from one definition for ever. -/
theorem definition_eq (hq : r.project m id = some q) (hle : m ≤ n)
    (hp : r.project n id = some p) : p.snapshot.definition = q.snapshot.definition := by
  induction hle generalizing p with
  | refl => rw [Option.some.inj (hp.symm.trans hq)]
  | step hle ih =>
    obtain ⟨p', hp'⟩ := exists_project_of_le hq hle
    rw [← ih hp']
    cases turn_of_succ hp' hp with
    | kept => rfl
    | enqueued => rfl
    | started => rw [OpenProject.snapshot_start]
    | settled scope =>
      rename_i ht
      cases hres : (Project.rebuild (r.world _).options (r.world _).disk p'.snapshot scope).2 with
      | error fault => rfl
      | ok s => exact (Project.rebuild_eq_ok hres).2

/-- **Every reachable snapshot is coherent.**  Its id is the key of the project, whatever name
the definition says by now, and the definition is where it was at every moment before, in
the directory of the project.  Without a ruleset there are no severities and no documents;
otherwise the documents start with the ruleset, and none is there twice.  If analyzers are
enabled, each declared one was loaded or failed, in order, and otherwise there are none.  All
places are normal paths, so a path leads to a document or to an analyzer exactly if it is one
of them once it is normalized. -/
theorem coherent (hp : r.project n id = some p) :
    p.snapshot.id = id ∧
    (∀ m q, m ≤ n → r.project m id = some q →
      p.snapshot.definition = q.snapshot.definition) ∧
    p.snapshot.dir = p.snapshot.definition.parent ∧
    (p.snapshot.ruleset = none → p.snapshot.severities = ∅ ∧ p.snapshot.documents = []) ∧
    (∀ l, p.snapshot.ruleset = some l →
      p.snapshot.documents.head? = some l ∧ p.snapshot.documents.Nodup) ∧
    (let paths := p.snapshot.analyzerPaths.map Location.toPath
    r.options.analyzersEnabled = true →
      Analyzer.Splits paths p.snapshot.analyzers p.snapshot.failures ∧
      (p.snapshot.analyzers.map Analyzer.Loaded.source).Sublist paths ∧
      (p.snapshot.failures.map Analyzer.LoadFault.path).Sublist paths) ∧
    (r.options.analyzersEnabled = false →
      p.snapshot.analyzers = [] ∧ p.snapshot.failures = []) ∧
    (∀ l ∈ p.snapshot.places, ∀ cwd, l.toPath.normalize cwd = l) ∧
    ∀ (path : Path) (cwd : Location),
      (p.snapshot.hasDocument (path.normalize cwd).toPath = true ↔
        path.normalize cwd ∈ p.snapshot.documents) ∧
      (p.snapshot.hasAnalyzer (path.normalize cwd).toPath = true ↔
        path.normalize cwd ∈ p.snapshot.analyzerPaths) := by
  have hs := coherent_snapshot hp
  have hruled := hs.ruled
  have hsupplied := hs.supplied
  refine ⟨(orderly hp).id_eq, fun m q hle hq => definition_eq hq hle hp, hs.dir_eq,
    fun hnone => ?_, fun l hl => ?_, fun hon => ?_, fun hoff => ?_,
    fun l _ cwd => Path.normalize_toPath cwd l,
    fun path cwd => ⟨hs.hasDocument_iff _, p.snapshot.hasAnalyzer_iff _⟩⟩
  · rwa [hnone] at hruled
  · rwa [hl] at hruled
  · rw [Project.Supplied, if_pos hon] at hsupplied
    exact ⟨hsupplied, hsupplied.sublists⟩
  · rwa [Project.Supplied, if_neg (by simp [hoff])] at hsupplied

/-- A run in which a definition is rewritten: it gets a name, loses its ruleset, and declares
the same analyzers in another order.  The project is at rest at moment 3, and again, reloaded,
at moment 11. -/
def rewritten : Run Unit where
  options := ⟨.ofText "/staging", true⟩
  disk := ⟨.root, [
    (Path.normalize .root (.ofText "/a.toml"), .file
      "ruleset = \"./r.toml\"\nanalyzers = [\"x.pack\", \"y.pack\"]".toUTF8),
    (Path.normalize .root (.ofText "/r.toml"), .file "rules = [[\"X\", \"warn\"]]".toUTF8),
    (Path.normalize .root (.ofText "/x.pack"), .file "name = \"x\"".toUTF8)]⟩
  memory := ()
  listen := fun _ _ => ([], ())
  calls
    | 0 => some (.addProject (.ofText "b/../a.toml") fun _ m => m)
    | 3 => some (.visit fun w m => (w.disk.put (Path.normalize .root (.ofText "/a.toml"))
        (.file "name = \"b\"\nanalyzers = [\"y.pack\", \"x.pack\"]".toUTF8), m))
    | 5 => some (.restored "a" fun _ m => m)
    | _ => none

/-- The project keeps its id under the new name, and both times one of the two analyzers was
loaded. -/
theorem coherent_rewritten :
    ∃ p q, rewritten.project 3 "a" = some p ∧ rewritten.project 11 "a" = some q ∧
      q.snapshot.version = 2 ∧ q.snapshot.id = "a" ∧
      q.snapshot.definition = p.snapshot.definition ∧
      (∃ l, p.snapshot.ruleset = some l ∧ p.snapshot.documents.head? = some l) ∧
      q.snapshot.ruleset = none ∧ q.snapshot.documents = [] ∧
      q.snapshot.analyzerPaths.length = 2 ∧ q.snapshot.analyzers.length = 1 ∧
      Analyzer.Splits (q.snapshot.analyzerPaths.map Location.toPath) q.snapshot.analyzers
        q.snapshot.failures := by
  have hp : (rewritten.project 3 "a").any (fun p => p.snapshot.ruleset.isSome) = true := by
    decide +kernel
  have hq : (rewritten.project 11 "a").any (fun q => q.snapshot.version = 2 &&
      q.snapshot.ruleset.isNone && q.snapshot.analyzerPaths.length = 2 &&
      q.snapshot.analyzers.length = 1) = true := by decide +kernel
  obtain ⟨p, hp, hsome⟩ := (Option.any_eq_true _ _).1 hp
  obtain ⟨q, hq, hsaid⟩ := (Option.any_eq_true _ _).1 hq
  simp only [Bool.and_eq_true, decide_eq_true_eq, Option.isNone_iff_eq_none] at hsaid
  obtain ⟨⟨⟨hversion, hnone⟩, hpaths⟩, hloaded⟩ := hsaid
  obtain ⟨l, hl⟩ := Option.isSome_iff_exists.1 hsome
  obtain ⟨-, -, -, -, hrooted, -⟩ := coherent hp
  obtain ⟨hid, hdef, -, hbare, -, hsplits, -⟩ := coherent hq
  exact ⟨p, q, hp, hq, hversion, hid, hdef 3 p (by decide) hp, ⟨l, hl, (hrooted l hl).1⟩, hnone,
    (hbare hnone).2, hpaths, hloaded, (hsplits rfl).1⟩

end Run
end Session
end LintWorkspace
