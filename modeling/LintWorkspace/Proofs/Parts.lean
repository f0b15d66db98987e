/-
# A refresh is part of a build

A refresh does the parts of a scope again on top of a snapshot, and a build does
everything.  From the same disk the refresh makes what the build makes of those parts
and keeps the rest (`PartOfBuild`), as long as the definition reads as it did when
the snapshot was made from it.

The two take their steps in another order: a build collects the sources before the
analyzers are copied, a refresh afterwards.  So a refresh can find a file that the
build does not, by a pattern that leaves a new directory through `..`
(`not_refreshesInPart`).  Where no pattern has such a way back, and none finds a copy,
every reachable project is refreshed in part (`refreshes_in_part`).
-/

import LintWorkspace.Proofs.Freshness
import LintWorkspace.Proofs.Growth

namespace LintWorkspace
namespace Project

variable {o : Options} {d F : Disk} {s t u : Snapshot} {scope : Scope} {ls : List Location}

/-- A snapshot with the parts of a scope taken from another one. -/
def Snapshot.graft (s t : Snapshot) (scope : Scope) : Snapshot :=
  { s with
    severities := if scope.ruleset then t.severities else s.severities
    documents := if scope.ruleset then t.documents else s.documents
    analyzers := if scope.analyzers then t.analyzers else s.analyzers
    failures := if scope.analyzers then t.failures else s.failures
    sources := if scope.sources then t.sources else s.sources }

/-- A refresh is the part of a build that its scope names.  If the build succeeds, the
refresh takes those parts from it and keeps everything else; if the build fails, a refresh
with the ruleset fails alike, and any other one succeeds. -/
def PartOfBuild (o : Options) (d : Disk) (s : Snapshot) (scope : Scope) : Prop :=
  match (build o d (some s) s.definition).2 with
  | .ok t => (refresh o d s scope).2 = .ok (s.graft t scope)
  | .error fault =>
    if scope.ruleset then (refresh o d s scope).2 = .error fault
    else ∃ t, (refresh o d s scope).2 = .ok t

/-- The disk after the analyzers of a project were copied. -/
def copied (o : Options) (d : Disk) (s : Snapshot) : Disk := (withAnalyzers o d s).1

/-- Which analyzers are loaded is decided by the id and the places alone. -/
theorem withAnalyzers_congr (hid : t.id = s.id) (hpaths : t.analyzerPaths = s.analyzerPaths) :
    withAnalyzers o d t = (copied o d s, { t with
      analyzers := (withAnalyzers o d s).2.analyzers
      failures := (withAnalyzers o d s).2.failures }) := by
  unfold copied withAnalyzers
  rw [hid, hpaths]

/-- What is taken from a snapshot whose analyzers were loaded. -/
theorem graft_withAnalyzers (hid : t.id = s.id) (hpaths : t.analyzerPaths = s.analyzerPaths) :
    s.graft (withAnalyzers o d t).2 scope = { s with
      severities := if scope.ruleset then t.severities else s.severities
      documents := if scope.ruleset then t.documents else s.documents
      analyzers := if scope.analyzers then (withAnalyzers o d s).2.analyzers else s.analyzers
      failures := if scope.analyzers then (withAnalyzers o d s).2.failures else s.failures
      sources := if scope.sources then t.sources else s.sources } := by
  rw [withAnalyzers_congr hid hpaths]
  rfl

/-- What a refresh makes on a given answer about the ruleset, if its sources are known. -/
theorem refreshRest_eq (r : Ruleset.Resolved)
    (hsources : scope.sources = true →
      findSources (if scope.analyzers then copied o d s else d) s.patterns = .ok ls) :
    refreshRest o d s scope r = .ok { s with
      severities := r.severities
      documents := r.documents
      analyzers := if scope.analyzers then (withAnalyzers o d s).2.analyzers else s.analyzers
      failures := if scope.analyzers then (withAnalyzers o d s).2.failures else s.failures
      sources := if scope.sources then ls else s.sources } := by
  have hsame : withAnalyzers o d { s with severities := r.severities, documents := r.documents } =
      (copied o d s, _) := withAnalyzers_congr rfl rfl
  unfold refreshRest
  cases ha : scope.analyzers <;> cases hs : scope.sources <;>
    simp_all [withSources_eq, Except.map]

/-- **A refresh is part of a build** while the definition reads as it did when the snapshot
was made from it, if copying the analyzers does not change the sources. -/
theorem partOfBuild_of_outlined (hs : Outlined F s)
    (hdef : F.readText s.definition.toPath = d.readText s.definition.toPath)
    (hsources : scope.analyzers = true → scope.sources = true → ∀ ls,
      findSources d s.patterns = .ok ls → findSources (copied o d s) s.patterns = .ok ls) :
    PartOfBuild o d s scope := by
  obtain ⟨last, u, hu, hpatterns, hruleset, hanalyzers⟩ := hs.exists_outline
  obtain ⟨v, hv, hpatterns', hruleset', hanalyzers'⟩ := outline_congr_ok (some s) hdef hu
  have hid : v.id = s.id := (id_outline hv).2.2 s rfl
  obtain ⟨e, found, hfound⟩ := hs.exists_sources
  obtain ⟨ls, hls⟩ := findSources_eq_ok d hfound
  have hsources' : scope.sources = true →
      findSources (if scope.analyzers then copied o d s else d) s.patterns = .ok ls := by
    intro hscope
    split
    · rename_i ha
      exact hsources ha hscope ls hls
    · exact hls
  unfold PartOfBuild
  rw [build_snd, draft_eq, hv, refresh_snd]
  simp only [hpatterns', hpatterns, hls, hruleset', hruleset]
  cases hr : rulesetFrom d s.ruleset with
  | error fault =>
    cases hscope : scope.ruleset with
    | true => simp [Except.map]
    | false =>
      simp only [Except.map, Bool.false_eq_true, if_false]
      exact ⟨_, refreshRest_eq _ hsources'⟩
  | ok r =>
    simp only [Except.map]
    rw [graft_withAnalyzers]
    · cases hscope : scope.ruleset <;> simp [refreshRest_eq _ hsources']
    · exact hid
    · exact hanalyzers'.trans hanalyzers

/-- A file that lies below the directory of a project in the staging tree. -/
def Staged (o : Options) (d : Disk) (s : Snapshot) (l : Location) : Prop :=
  l.LiesBelow ((Analyzer.stagingDirectory o.staging s.id).normalize d.cwd)

/-- The patterns of a project find no file in its part of the staging tree. -/
def FindsNoCopy (o : Options) (d e : Disk) (s : Snapshot) : Prop :=
  ∀ ls, findSources e s.patterns = .ok ls → ∀ l ∈ ls, ¬ Staged o d s l

instance (o : Options) (d : Disk) (s : Snapshot) (l : Location) : Decidable (Staged o d s l) :=
  inferInstanceAs (Decidable (l.LiesBelow _))

instance (o : Options) (d e : Disk) (s : Snapshot) : Decidable (FindsNoCopy o d e s) :=
  match h : findSources e s.patterns with
  | .ok ls => decidable_of_iff (∀ l ∈ ls, ¬ Staged o d s l)
      ⟨fun hall _ hms => Except.ok.inj (h.symm.trans hms) ▸ hall, fun hall => hall ls h⟩
  | .error _ => .isTrue fun ls hls => by simp [h] at hls

/-- A refresh of the sources finds those that the build finds. -/
theorem PartOfBuild.sources_eq (h : PartOfBuild o d s scope) (hscope : scope.sources = true)
    (ht : (build o d (some s) s.definition).2 = .ok t) :
    (refresh o d s scope).2.map Snapshot.sources = .ok t.sources := by
  rw [PartOfBuild, ht] at h
  rw [h]
  simp [Except.map, Snapshot.graft, hscope]

end Project

namespace Session
namespace Run

variable {μ : Type} {r : Run μ} {n m : Nat} {id : String} {p : OpenProject} {text : String}

/-! ### The last time that a project was made from its definition -/

/-- At a moment a project is made from its definition: it is opened, or a reload from the
definition ends well. -/
def Builds (r : Run μ) (id : String) (n : Nat) : Prop :=
  (r.project n id = none ∧ ∃ p, r.project (n + 1) id = some p) ∨
    ∃ p scope s, r.project n id = some p ∧ r.task n = some (.finish id scope) ∧
      scope.definition = true ∧
      (Project.rebuild (r.world n).options (r.world n).disk p.snapshot scope).2 = .ok s

/-- The last moment before another one at which a project was made from its definition. -/
structure LastBuilt (r : Run μ) (id : String) (m n : Nat) : Prop where
  lt : m < n
  builds : r.Builds id m
  last : ∀ k, m < k → k < n → ¬ r.Builds id k

/-- The definition of a project read as a text when the project was last made from it. -/
def BuiltFrom (r : Run μ) (id : String) (n : Nat) (text : String) : Prop :=
  ∃ m, r.LastBuilt id m n ∧ ∃ p, r.project n id = some p ∧
    r.reads m p.snapshot.definition = .ok text

theorem LastBuilt.eq {k : Nat} (h : r.LastBuilt id m n) (h' : r.LastBuilt id k n) : m = k := by
  rcases Nat.lt_trichotomy m k with hlt | heq | hlt
  · exact absurd h'.builds (h.last k hlt h'.lt)
  · exact heq
  · exact absurd h.builds (h'.last m hlt h.lt)

theorem LastBuilt.succ (h : r.LastBuilt id m n) (hn : ¬ r.Builds id n) :
    r.LastBuilt id m (n + 1) where
  lt := Nat.lt_succ_of_lt h.lt
  builds := h.builds
  last k hmk hk := by
    rcases Nat.lt_succ_iff_lt_or_eq.1 hk with hlt | rfl
    · exact h.last k hmk hlt
    · exact hn

theorem lastBuilt_succ (h : r.Builds id n) : r.LastBuilt id n (n + 1) :=
  ⟨Nat.lt_succ_self n, h, fun k _ _ => by omega⟩

/-- A project that is open is made from its definition only by a reload that ends. -/
theorem not_builds (hp : r.project n id = some p)
    (h : ∀ scope, r.task n = some (.finish id scope) → scope.definition = true →
      ∀ s, (Project.rebuild (r.world n).options (r.world n).disk p.snapshot scope).2 ≠ .ok s) :
    ¬ r.Builds id n := by
  rintro (⟨hnone, -⟩ | ⟨q, scope, s, hq, ht, hscope, hs⟩)
  · simp [hp] at hnone
  · rw [hp, Option.some.injEq] at hq
    exact h scope ht hscope s (hq ▸ hs)

/-- A project says what its definition said when it was last made from it. -/
def SaysLastBuilt (r : Run μ) (id : String) (n : Nat) (p : OpenProject) : Prop :=
  ∃ m, r.LastBuilt id m n ∧ Project.Outlined (r.world m).disk p.snapshot

/-- So it does after a moment that ends no reload from the definition, and keeps the outline. -/
theorem SaysLastBuilt.keep (h : r.SaysLastBuilt id n p) (hp : r.project n id = some p)
    (hquiet : ∀ scope, r.task n = some (.finish id scope) → scope.definition = true →
      ∀ s, (Project.rebuild (r.world n).options (r.world n).disk p.snapshot scope).2 ≠ .ok s)
    (hsame : p.snapshot.SameOutline q.snapshot) : r.SaysLastBuilt id (n + 1) q := by
  obtain ⟨m, hm, hout⟩ := h
  exact ⟨m, hm.succ (not_builds hp hquiet), hout.of_sameOutline hsame⟩

/-- And after the end of a reload, from the definition or of other parts. -/
theorem SaysLastBuilt.settle (h : r.SaysLastBuilt id n p) (hp : r.project n id = some p)
    (ht : r.task n = some (.finish id scope)) : r.SaysLastBuilt id (n + 1) (p.settle scope
      (Project.rebuild (r.world n).options (r.world n).disk p.snapshot scope).2) := by
  have honly : ∀ scope', r.task n = some (.finish id scope') → scope' = scope := by
    intro scope' ht'
    rw [ht, Option.some.injEq, Task.finish.injEq] at ht'
    exact ht'.2.symm
  cases hres : (Project.rebuild (r.world n).options (r.world n).disk p.snapshot scope).2 with
  | error fault =>
    exact h.keep hp (fun scope' ht' _ s hs => by simp [honly scope' ht', hres] at hs) (.refl _)
  | ok s =>
    cases hscope : scope.definition with
    | true =>
      refine ⟨n, lastBuilt_succ (.inr ⟨p, scope, s, hp, ht, hscope, hres⟩), ?_⟩
      rw [Project.rebuild, if_pos hscope] at hres
      obtain ⟨-, hout, -⟩ := Project.of_build_eq_ok hres
      exact hout.of_sameOutline (s.sameRuleset_version _).toSameOutline
    | false =>
      refine h.keep hp (fun scope' ht' hdef => by simp [honly scope' ht', hscope] at hdef) ?_
      rw [Project.rebuild, if_neg (by simp [hscope])] at hres
      exact (Project.refresh_eq_ok hres).1.trans (s.sameRuleset_version _).toSameOutline

/-- **A project says what its definition said when it was last made from it.**  What was
reloaded since in parts has left that alone. -/
theorem exists_lastBuilt (hp : r.project n id = some p) :
    ∃ m, r.LastBuilt id m n ∧ Project.Outlined (r.world m).disk p.snapshot := by
  refine induct_turn (motive := r.SaysLastBuilt id) (fun n path told s _ hs _ hnone _ hp => ?_)
    (fun n p q hp _ hturn ih => ?_) hp
  · obtain ⟨-, hout, -⟩ := Project.of_build_eq_ok hs
    exact ⟨n, lastBuilt_succ (.inl ⟨hnone, _, hp⟩),
      hout.of_sameOutline (s.sameRuleset_version 1).toSameOutline⟩
  · cases hturn with
    | kept ht => exact ih.keep hp (fun scope hs => absurd rfl (ht _ hs)) (.refl _)
    | enqueued scope ht => exact ih.keep hp (fun scope hs => by simp [ht] at hs) (.refl _)
    | started ht =>
      refine ih.keep hp (fun scope hs => by simp [ht] at hs) ?_
      rw [OpenProject.snapshot_start]
      exact .refl _
    | settled scope ht => exact ih.settle hp ht

/-! ### A run in which a project is opened -/

/-- A project that was just opened was made from its definition. -/
theorem builtFrom_of_opening (hnone : r.project n id = none) (hp : r.project (n + 1) id = some p)
    (hread : (r.reads n p.snapshot.definition).toOption = some text) :
    r.BuiltFrom id (n + 1) text := by
  refine ⟨n, lastBuilt_succ (.inl ⟨hnone, p, hp⟩), p, hp, ?_⟩
  exact toOption_eq_some_iff.1 hread

/-- The disk of an opening when files have come. -/
def withFiles (r : Run Unit) (files : List (String × String)) : Disk :=
  files.foldl (fun d f => d.put (Path.normalize .root (.ofText f.1)) (.file f.2.toUTF8))
    (r.world 2).disk

/-! ### Refreshing a project of a run -/

/-- **Every reachable project is refreshed in part.**  While its definition reads as it did
when the project was last made from it, a refresh is the matching part of a build on the
same disk.  Only a refresh of analyzers and sources together asks for more: that no pattern
finds a copy of an analyzer, and that none has a way back from a directory that the copies
have brought. -/
theorem refreshes_in_part {d : Disk} {scope : Scope} (hp : r.project n id = some p)
    (hbuilt : r.BuiltFrom id n text) (htext : d.readText p.snapshot.definition.toPath = .ok text)
    (hcopies : scope.analyzers = true → scope.sources = true →
      Project.FindsNoCopy (r.world n).options d
        (Project.copied (r.world n).options d p.snapshot) p.snapshot)
    (hback : scope.analyzers = true → scope.sources = true →
      Glob.NoWayBack d (Project.copied (r.world n).options d p.snapshot) p.snapshot.patterns) :
    Project.PartOfBuild (r.world n).options d p.snapshot scope := by
  obtain ⟨m, hm, hout⟩ := exists_lastBuilt hp
  obtain ⟨k, hk, q, hq, hread⟩ := hbuilt
  rw [hp, Option.some.injEq] at hq
  subst hq
  rw [← hm.eq hk] at hread
  refine Project.partOfBuild_of_outlined hout (hread.trans htext.symm) fun ha hs ls hls => ?_
  exact Project.findSources_of_grown (Project.grown_withAnalyzers _ d p.snapshot)
    (hback ha hs) (hcopies ha hs) hls

/-- The definition of a project whose patterns lead down only. -/
def stayingText : String :=
  "sources = [\"src/**/*.cs\"]\nruleset = \"r.toml\"\nanalyzers = [\"x.pack\"]"

/-- The sources of a project lie below its directory. -/
def staying : Run Unit :=
  opening stayingText [("/r.toml", .file .empty), ("/src", .directory)]

/-- A refresh of everything but the definition takes all parts from the build: the rules of
the document, the analyzer and the source that have come. -/
theorem refreshes_in_part_staying :
    ∃ p d, staying.project 2 "a" = some p ∧ staying.BuiltFrom "a" 2 stayingText ∧
      Project.PartOfBuild (staying.world 2).options d p.snapshot ⟨true, true, true, false⟩ ∧
      ∃ t, (Project.build (staying.world 2).options d (some p.snapshot)
          p.snapshot.definition).2 = .ok t ∧
        t.sources = [Path.normalize .root (.ofText "/src/b.cs")] := by
  generalize hd : staying.withFiles [("/r.toml", "rules = [[\"X\", \"warn\"]]"),
    ("/src/b.cs", ""), ("/x.pack", "name = \"x\"")] = d
  have h : (staying.project 2 "a").any (fun p =>
      (staying.reads 1 p.snapshot.definition).toOption = some stayingText &&
      (d.readText p.snapshot.definition.toPath).toOption = some stayingText &&
      decide (Project.FindsNoCopy (staying.world 2).options d
        (Project.copied (staying.world 2).options d p.snapshot) p.snapshot) &&
      (p.snapshot.patterns.all fun g => (Glob.trail g.text).toOption.all fun a =>
        a.2.all fun q => !decide (q.Enters "..")) &&
      (Project.build (staying.world 2).options d (some p.snapshot)
          p.snapshot.definition).2.toOption.map Project.Snapshot.sources =
        some [Path.normalize .root (.ofText "/src/b.cs")]) = true := by
    subst hd
    decide +kernel
  have hparent : ∀ x ∈ d.entries, (d.entryAt x.1.parent).isSome = true := by
    subst hd
    decide +kernel
  obtain ⟨p, hp, h⟩ := (Option.any_eq_true _ _).1 h
  simp only [Bool.and_eq_true, decide_eq_true_eq] at h
  obtain ⟨⟨⟨⟨hreads, htext⟩, hcopies⟩, hup⟩, hbuild⟩ := h
  have hnone : staying.project 1 "a" = none := Option.isNone_iff_eq_none.1 (by decide +kernel)
  have hbuilt := builtFrom_of_opening hnone hp hreads
  have hback : Glob.NoWayBack d (Project.copied (staying.world 2).options d p.snapshot)
      p.snapshot.patterns :=
    Glob.noWayBack_of_not_enters (fun l n => Glob.entryAt_child_eq_none hparent) fun g hg a ha => by
      simpa [ha, Except.toOption] using List.all_eq_true.1 hup g hg
  obtain ⟨t, ht, hsources⟩ := Option.map_eq_some_iff.1 hbuild
  exact ⟨p, d, hp, hbuilt, refreshes_in_part hp hbuilt (toOption_eq_some_iff.1 htext)
    (fun _ _ => hcopies) (fun _ _ => hback), t, toOption_eq_some_iff.1 ht, hsources⟩

/-! ### A way back -/

/-- A refresh of a reachable project is the matching part of a build while the definition
reads as it did when the project was last made from it, whatever ways its patterns take, as
long as they find no copy of an analyzer. -/
def RefreshesInPart : Prop :=
  ∀ (r : Run Unit) (n : Nat) (id : String) (p : OpenProject) (text : String) (d : Disk)
    (scope : Scope), r.project n id = some p → r.BuiltFrom id n text →
    d.readText p.snapshot.definition.toPath = .ok text →
    scope.isEmpty = false → scope.definition = false →
    Project.FindsNoCopy (r.world n).options d d p.snapshot →
    Project.FindsNoCopy (r.world n).options d
      (Project.copied (r.world n).options d p.snapshot) p.snapshot →
    Project.PartOfBuild (r.world n).options d p.snapshot scope

/-- The definition of the project whose pattern leaves the staging tree. -/
def leavingText : String := "sources = [\"staging/../src/*.cs\"]\nanalyzers = [\"x.pack\"]"

/-- The sources of a project are reached through the staging tree, which is not there yet. -/
def leaving : Run Unit := opening leavingText [("/src", .directory), ("/src/a.cs", .file .empty)]

/-- **A refresh can find more than a build does,** although the definition is as it was and
no copy is found: the build looks for the sources before the staging tree is there. -/
theorem not_refreshesInPart : ¬ RefreshesInPart := by
  intro hall
  have h : (leaving.project 2 "a").any (fun p =>
      let d := leaving.withFiles [("/x.pack", "name = \"x\"")]
      let o := (leaving.world 2).options
      (leaving.reads 1 p.snapshot.definition).toOption = some leavingText &&
      (d.readText p.snapshot.definition.toPath).toOption = some leavingText &&
      decide (Project.FindsNoCopy o d d p.snapshot) &&
      decide (Project.FindsNoCopy o d (Project.copied o d p.snapshot) p.snapshot) &&
      ((Project.build o d (some p.snapshot) p.snapshot.definition).2.toOption.map
        Project.Snapshot.sources = some []) &&
      (Project.refresh o d p.snapshot ⟨false, true, true, false⟩).2.toOption.map
        Project.Snapshot.sources ≠ some []) = true := by decide +kernel
  obtain ⟨p, hp, h⟩ := (Option.any_eq_true _ _).1 h
  simp only [Bool.and_eq_true, decide_eq_true_eq] at h
  obtain ⟨⟨⟨⟨⟨hreads, htext⟩, hbefore⟩, hafter⟩, hbuild⟩, hrefresh⟩ := h
  have hnone : leaving.project 1 "a" = none := Option.isNone_iff_eq_none.1 (by decide +kernel)
  have hpart := hall leaving 2 "a" p leavingText _ ⟨false, true, true, false⟩ hp
    (builtFrom_of_opening hnone hp hreads) (toOption_eq_some_iff.1 htext) rfl rfl hbefore hafter
  obtain ⟨t, ht, hsources⟩ := Option.map_eq_some_iff.1 hbuild
  have hsame := hpart.sources_eq rfl (toOption_eq_some_iff.1 ht)
  rw [hsources] at hsame
  refine hrefresh ?_
  generalize Project.refresh _ _ _ _ = result at hsame ⊢
  obtain ⟨e, fault | u⟩ := result
  · simp [Except.map] at hsame
  · simpa [Except.map, Except.toOption] using hsame

end Run
end Session
end LintWorkspace
