/-
# A reload after others

What other reloads leave on a disk are copies of analyzers (`WithCopies`).  A reload that reads
nothing in the staging tree, and no directory that the copies bring, takes each of its steps as
it would have taken it before them:

| step | after others |
| --- | --- |
| definition | says the same (`draft_congr`) |
| ruleset | says the same (`withRuleset_congr`) |
| analyzers | are the same, and leave the same copies (`WithCopies.withAnalyzers_eq`) |
| sources | are collected on a disk with more copies |

So a reload ends as it would have before the others, but for the sources (`rebuiltAlike`).  These
are the same if the patterns find no copies and have no way back from the directories that the
copies bring (`result_eq_of_undiverted`).
-/

import LintWorkspace.Proofs.Copying
import LintWorkspace.Proofs.Filter

namespace LintWorkspace
namespace Project

open Disk Analyzer

variable {o : Options} {known : List ByteArray} {files more : List (Location × ByteArray)}
  {d e f : Disk} {s t u : Snapshot} {scope : Scope} {top l : Location}
  {patterns : List Glob.Pattern}

/-! ### Copies that others left -/

/-- A tree on which copies of known contents were made, none of which share a fingerprint. -/
structure WithCopies (o : Options) (known : List ByteArray)
    (files : List (Location × ByteArray)) (d e : Disk) : Prop where
  straight : o.staging.Straight
  tree : d.Tree
  distinct : Distinct known
  filled : Filled files d e
  filed : Filed (o.staging.normalize d.cwd) known d files

theorem WithCopies.refl (hstraight : o.staging.Straight) (hd : d.Tree)
    (hdistinct : Distinct known) : WithCopies o known [] d d :=
  ⟨hstraight, hd, hdistinct, .refl d, by simp [Filed]⟩

/-- No copies were made on the disk before. -/
theorem WithCopies.before (h : WithCopies o known files d e) : WithCopies o known [] d d :=
  .refl h.straight h.tree h.distinct

theorem WithCopies.readText_eq (h : WithCopies o known files d e)
    (hl : Aside (o.staging.normalize d.cwd) d l) : d.readText l.toPath = e.readText l.toPath :=
  (readText_congr (find_eq_of_filled h.tree h.filled h.filed hl)).symm

/-- With more copies a disk has grown. -/
theorem WithCopies.grown (h : WithCopies o known files d e) (h' : WithCopies o known more d f)
    (hsub : files ⊆ more) : Grown (o.staging.normalize d.cwd) e f := by
  have hfilled : Filled more e f := by
    refine ⟨h'.filled.cwd_eq.trans h.filled.cwd_eq.symm, h'.filled.file, h'.filled.way,
      fun l hl => ?_⟩
    rw [h'.filled.rest l hl, h.filled.rest l fun x hx => hl x (hsub hx)]
  have hfiled : Filed (o.staging.normalize d.cwd) known e more := fun x hx => by
    obtain ⟨bytes, hknown, project, name, hproject, hplace, hshelve⟩ := h'.filed x hx
    refine ⟨bytes, hknown, project, name, hproject, hplace, ?_⟩
    rw [shelve_eq_of_filled h.tree h.filled h.filed h.distinct hproject hknown hplace, hshelve]
  exact grown_of_filled (tree_of_filled h.tree h.filled h.filed.shelvable) hfilled
    hfiled.shelvable fun x hx => hfiled.liesBelow hx

/-! ### The steps -/

/-- The copies that loading the analyzers of a project leaves. -/
def copiesOf (o : Options) (d : Disk) (s : Snapshot) : List (Location × ByteArray) :=
  if o.analyzersEnabled then
    s.analyzerPaths.flatMap fun a => added (stagingDirectory o.staging s.id) d a.toPath
  else []

/-- **Analyzers are loaded after others as they would be before them.** -/
theorem WithCopies.withAnalyzers_eq (h : WithCopies o known files d e) (hid : Ordinary s.id)
    (hpaths : o.analyzersEnabled = true →
      Loadable (o.staging.normalize d.cwd) known d s.analyzerPaths) :
    (withAnalyzers o e s).2 = (withAnalyzers o d s).2 ∧
      WithCopies o known (files ++ copiesOf o d s) d (withAnalyzers o e s).1 := by
  unfold withAnalyzers copiesOf
  cases hon : o.analyzersEnabled with
  | false =>
    refine ⟨rfl, ?_⟩
    simpa using h
  | true =>
    have hlater := loadedAllAlike h.straight hid h.tree h.distinct h.filled h.filed (hpaths hon)
    have hfirst := loadedAllAlike h.straight hid h.tree h.distinct h.before.filled h.before.filed
      (hpaths hon)
    have hfiled := hlater.filed
    have hfilled := hlater.filled
    rw [List.flatMap_map] at hfiled hfilled
    refine ⟨?_, h.straight, h.tree, h.distinct, hfilled, h.filed.append hfiled⟩
    simp only [if_true, Analyzer.load, hlater.answer_eq, hfirst.answer_eq]

/-- A ruleset says the same where its documents read alike. -/
theorem withRuleset_congr
    (hdocs : ∀ l ∈ reachedFrom d s.ruleset, d.readText l.toPath = e.readText l.toPath) :
    withRuleset e s = withRuleset d s := by
  rw [withRuleset_eq, withRuleset_eq, rulesetFrom_congr hdocs]

theorem withSources_sources (d : Disk) (s : Snapshot) (ls : List Location) :
    withSources d { s with sources := ls } = withSources d s := by
  rw [withSources_eq, withSources_eq]

/-! ### A whole reload -/

/-- The snapshot that a refresh works on once it has resolved the ruleset. -/
def refreshBase (d : Disk) (s : Snapshot) (scope : Scope) : Except BuildFault Snapshot :=
  if scope.ruleset then withRuleset d s else .ok s

theorem refreshBase_eq_ok (h : refreshBase d s scope = .ok u) :
    u.id = s.id ∧ u.analyzerPaths = s.analyzerPaths := by
  unfold refreshBase at h
  split at h
  · obtain ⟨r, -, rfl⟩ := exists_of_withRuleset h
    exact ⟨rfl, rfl⟩
  · obtain rfl := Except.ok.inj h
    exact ⟨rfl, rfl⟩

/-- What a refresh does once it has resolved the ruleset. -/
theorem refresh_eq (o : Options) (d : Disk) (s : Snapshot) (scope : Scope) :
    refresh o d s scope =
      match refreshBase d s scope with
      | .error fault => (d, .error fault)
      | .ok u =>
        let (e, u) := if scope.analyzers then withAnalyzers o d u else (d, u)
        (e, if scope.sources then withSources e u else .ok u) := rfl

/-- What a reload reads besides the sources. -/
def placesRead (o : Options) (d : Disk) (s : Snapshot) (scope : Scope) : List Location :=
  (if scope.definition then [s.definition] else []) ++
    ((readingOf o d s scope).documents ++ (readingOf o d s scope).analyzers)

/-- The contents of the analyzers that a reload reads. -/
def contentsRead (o : Options) (d : Disk) (s : Snapshot) (scope : Scope) : List ByteArray :=
  (readingOf o d s scope).analyzers.filterMap fun a => (d.readBytes a.toPath).toOption

/-- A reload of an ordinary project that reads nothing which copies can bring or change. -/
structure Clear (o : Options) (known : List ByteArray) (d : Disk) (s : Snapshot)
    (scope : Scope) : Prop where
  ordinary : Ordinary s.id
  aside : ∀ l ∈ placesRead o d s scope, Aside (o.staging.normalize d.cwd) d l
  known : contentsRead o d s scope ⊆ known

theorem Clear.loadable (h : Clear o known d s scope) {paths : List Location}
    (hpaths : (readingOf o d s scope).analyzers = paths) :
    Loadable (o.staging.normalize d.cwd) known d paths where
  aside a ha := h.aside a (List.mem_append_right _ (List.mem_append_right _ (hpaths ▸ ha)))
  known a ha bytes hbytes := h.known
    (List.mem_filterMap.2 ⟨a, hpaths ▸ ha, by rw [hbytes]; rfl⟩)

/-- The copies that a reload leaves. -/
def copiesLeft (o : Options) (d : Disk) (s : Snapshot) (scope : Scope) :
    List (Location × ByteArray) :=
  if scope.definition then
    match draft d (some s) s.definition with
    | .error _ => []
    | .ok t => copiesOf o d t
  else
    match refreshBase d s scope with
    | .error _ => []
    | .ok t => if scope.analyzers then copiesOf o d t else []

/-- The disk that a reload collects the sources on: a build does so at its start, a refresh at
its end. -/
def collectsOn (o : Options) (d : Disk) (s : Snapshot) (scope : Scope) : Disk :=
  if scope.definition then d else (rebuild o d s scope).1

/-- A snapshot with the sources collected again, if a reload of the scope collects them. -/
def recollect (d : Disk) (scope : Scope) (t : Snapshot) : Except BuildFault Snapshot :=
  if scope.definition || scope.sources then withSources d t else .ok t

/-- What a reload after others comes to: it leaves the copies that it would have left, and ends
as it would have but for the sources. -/
structure RebuiltAlike (o : Options) (known : List ByteArray)
    (files : List (Location × ByteArray)) (d e : Disk) (s : Snapshot) (scope : Scope) : Prop where
  copies : WithCopies o known (files ++ copiesLeft o d s scope) d (rebuild o e s scope).1
  result_eq : (rebuild o e s scope).2 =
    (rebuild o d s scope).2 >>= recollect (collectsOn o e s scope) scope

theorem rebuiltAlike_of_definition (h : WithCopies o known files d e)
    (hclear : Clear o known d s scope) (hscope : scope.definition = true) :
    RebuiltAlike o known files d e s scope := by
  have hread : ∀ l ∈ placesRead o d s scope, d.readText l.toPath = e.readText l.toPath :=
    fun l hl => h.readText_eq (hclear.aside l hl)
  have hdraft := draft_congr (some s) s.definition
    (hread _ (by simp [placesRead, hscope])) fun u hu l hl =>
      hread l (by simp [placesRead, readingOf, hscope, hu, hl])
  have hleft : copiesLeft o d s scope = match draft d (some s) s.definition with
      | .error _ => []
      | .ok t => copiesOf o d t := by rw [copiesLeft, if_pos hscope]
  have hon : collectsOn o e s scope = e := if_pos hscope
  cases hd : draft d (some s) s.definition with
  | error fault =>
    rw [hd] at hdraft hleft
    constructor
    · rw [hleft, List.append_nil, rebuild, if_pos hscope, build, hdraft]
      exact h
    · simp only [rebuild, if_pos hscope, build, hdraft, hd]
      rfl
  | ok t =>
    rw [hd] at hdraft hleft
    obtain ⟨ls, hls, hdraft⟩ := hdraft
    obtain ⟨v, hv, hsame⟩ := outline_of_draft hd
    have hid : t.id = s.id := hsame.id.trans ((id_outline hv).2.2 s rfl)
    obtain ⟨hanswer, hcopies⟩ := h.withAnalyzers_eq (s := t) (hid ▸ hclear.ordinary) fun hon =>
      hclear.loadable (by simp [readingOf, hscope, hv, hon, hsame.analyzerPaths])
    constructor
    · rw [hleft, rebuild, if_pos hscope, build, hdraft]
      exact hcopies
    · have hbuilt : (withAnalyzers o e { t with sources := ls }).2 =
          { (withAnalyzers o e t).2 with sources := ls } := rfl
      rw [hanswer] at hbuilt
      have hpatterns : (withAnalyzers o d t).2.patterns = t.patterns := rfl
      simp only [rebuild, build, hdraft, hd, bind, Except.bind, recollect, hscope, Bool.true_or,
        if_true, hon, withSources_eq, hpatterns, hls, hbuilt]
      rfl

/-- The analyzers of a refresh, if they are asked for, are the same after others. -/
theorem exists_refreshed (h : WithCopies o known files d e) (hclear : Clear o known d s scope)
    (hscope : scope.definition = false) (hu : refreshBase d s scope = .ok u) :
    ∃ e' d' v,
      (if scope.analyzers then withAnalyzers o e u else (e, u)) = (e', v) ∧
      (if scope.analyzers then withAnalyzers o d u else (d, u)) = (d', v) ∧
      WithCopies o known (files ++ copiesLeft o d s scope) d e' := by
  obtain ⟨hid, hpaths⟩ := refreshBase_eq_ok hu
  have hleft : copiesLeft o d s scope = if scope.analyzers then copiesOf o d u else [] := by
    simp [copiesLeft, hscope, hu]
  rw [hleft]
  cases ha : scope.analyzers with
  | false => exact ⟨e, d, u, rfl, rfl, by simpa using h⟩
  | true =>
    obtain ⟨hanswer, hcopies⟩ := h.withAnalyzers_eq (s := u) (hid ▸ hclear.ordinary) fun hon =>
      hclear.loadable (by simp [readingOf, hscope, ha, hon, hpaths])
    exact ⟨_, _, _, rfl, Prod.ext rfl hanswer.symm, hcopies⟩

theorem rebuiltAlike_of_not_definition (h : WithCopies o known files d e)
    (hclear : Clear o known d s scope) (hscope : scope.definition = false) :
    RebuiltAlike o known files d e s scope := by
  have hbase : refreshBase e s scope = refreshBase d s scope := by
    unfold refreshBase
    split
    · rename_i hruleset
      exact withRuleset_congr fun l hl => h.readText_eq (hclear.aside l (by
        simp [placesRead, readingOf, hscope, hruleset, hl]))
    · rfl
  have hrebuild : ∀ d, rebuild o d s scope = refresh o d s scope := fun d =>
    if_neg (by simp [hscope])
  have hon : collectsOn o e s scope = (refresh o e s scope).1 := by
    rw [collectsOn, if_neg (by simp [hscope]), hrebuild]
  cases hu : refreshBase d s scope with
  | error fault =>
    rw [hu] at hbase
    have hleft : copiesLeft o d s scope = [] := by simp [copiesLeft, hscope, hu]
    constructor
    · rw [hleft, List.append_nil, hrebuild, refresh_eq, hbase]
      exact h
    · rw [hrebuild, hrebuild, refresh_eq, refresh_eq, hbase, hu]
      rfl
  | ok u =>
    rw [hu] at hbase
    obtain ⟨e', d', v, he', hd', hcopies⟩ := exists_refreshed h hclear hscope hu
    have hrefresh : refresh o e s scope =
        (e', if scope.sources then withSources e' v else .ok v) := by
      rw [refresh_eq, hbase]
      simp only [he']
    constructor
    · rw [hrebuild, hrefresh]
      exact hcopies
    · have hagain : ∀ t, recollect e' scope t =
          if scope.sources then withSources e' t else .ok t := fun t => by
        rw [recollect, hscope, Bool.false_or]
      rw [hrebuild, hrebuild, hon, hrefresh, refresh_eq, hu]
      simp only [hd']
      cases hsought : scope.sources with
      | false => simp [bind, Except.bind, hagain, hsought]
      | true =>
        cases hsources : findSources d' v.patterns with
        | error cause =>
          simp [withSources_eq, hsources, findSources_eq_error e' hsources, bind, Except.bind,
            Except.map]
        | ok ls =>
          simp only [if_true, withSources_eq d', hsources, mapError_ok, Except.map, bind,
            Except.bind, hagain, hsought, withSources_sources]

/-- **A reload after others ends as before them, but for the sources.** -/
theorem rebuiltAlike (h : WithCopies o known files d e) (hclear : Clear o known d s scope) :
    RebuiltAlike o known files d e s scope := by
  cases hscope : scope.definition with
  | false => exact rebuiltAlike_of_not_definition h hclear hscope
  | true => exact rebuiltAlike_of_definition h hclear hscope

/-- The disk that the sources are collected on has copies of others, and its own. -/
theorem exists_collectsOn (h : WithCopies o known files d e) (hclear : Clear o known d s scope) :
    WithCopies o known
      (files ++ if scope.definition then [] else copiesLeft o d s scope) d
      (collectsOn o e s scope) := by
  unfold collectsOn
  split
  · rw [List.append_nil]
    exact h
  · exact (rebuiltAlike h hclear).copies

/-! ### Sources after others -/

/-- On a disk that has grown patterns find no copies, and have no way back from what is new. -/
structure Undiverted (top : Location) (d e : Disk) (patterns : List Glob.Pattern) : Prop where
  beside : ∀ ls, findSources e patterns = .ok ls → ∀ l ∈ ls, ¬ l.LiesBelow top
  noWayBack : Glob.NoWayBack d e patterns

theorem Undiverted.findSources_eq (h : Undiverted top d e patterns) (hgrown : Grown top d e) :
    findSources e patterns = findSources d patterns := by
  cases hd : findSources d patterns with
  | error fault => exact findSources_eq_error e hd
  | ok ls => exact findSources_of_grown hgrown h.noWayBack h.beside hd

/-- A walk on a disk is a walk on a grown one. -/
theorem comes_of_grown {text : String} {ps : List Glob.Pattern} {stop : Glob.Stop}
    (h : Grown top d e) (hcomes : Glob.Comes d text ps stop) : Glob.Comes e text ps stop := by
  induction hcomes with
  | @start a htrail =>
    have hstart : Glob.start d a.1 = Glob.start e a.1 := by
      unfold Glob.start
      rw [h.cwd_eq]
    rw [hstart]
    exact .start htrail
  | step _ hstep ih => exact ih.step (hstep.grown h)

/-- What diverts no pattern on a disk diverted none before it grew. -/
theorem Undiverted.of_grown (h : Undiverted top d f patterns) (hgrown : Grown top e f) :
    Undiverted top d e patterns where
  beside ls hls l hl := by
    obtain ⟨ms, hms⟩ := findSources_eq_ok f hls
    obtain ⟨p, hp, a, htrail, hfinds⟩ := (mem_findSources hls).1 hl
    refine h.beside ms hms l ((mem_findSources hms).2 ⟨p, hp, a, htrail, ?_⟩)
    have hstart : Glob.start f a.1 = Glob.start e a.1 := by
      unfold Glob.start
      rw [hgrown.cwd_eq]
    rw [hstart]
    exact hfinds.grown hgrown
  noWayBack p hp ps s qs t hcomes hstep hs :=
    h.noWayBack p hp ps s qs t (comes_of_grown hgrown hcomes) (hstep.grown hgrown) hs

/-- The patterns by which a reload that ends well collects sources. -/
def sought (o : Options) (d : Disk) (s : Snapshot) (scope : Scope) : List Glob.Pattern :=
  match (rebuild o d s scope).2 with
  | .error _ => []
  | .ok t => if scope.definition || scope.sources then t.patterns else []

/-- **A reload after others ends as before them,** if nothing diverts its patterns. -/
theorem result_eq_of_undiverted (h : WithCopies o known files d e)
    (hclear : Clear o known d s scope)
    (hsources : Undiverted (o.staging.normalize d.cwd) d (collectsOn o e s scope)
      (sought o d s scope)) :
    (rebuild o e s scope).2 = (rebuild o d s scope).2 := by
  have hlater := (rebuiltAlike h hclear).result_eq
  have hfirst := (rebuiltAlike h.before hclear).result_eq
  have hsame : ∀ t, (rebuild o d s scope).2 = .ok t →
      recollect (collectsOn o e s scope) scope t = recollect (collectsOn o d s scope) scope t := by
    intro t ht
    unfold recollect
    split
    · rename_i hcollects
      have hsought : sought o d s scope = t.patterns := by
        rw [sought, ht]
        exact if_pos hcollects
      rw [hsought] at hsources
      have hon := exists_collectsOn h hclear
      have hon' := exists_collectsOn h.before hclear
      have hgrown : Grown (o.staging.normalize d.cwd) (collectsOn o d s scope)
          (collectsOn o e s scope) := hon'.grown hon fun x hx => by
        exact List.mem_append_right _ hx
      rw [withSources_eq, withSources_eq,
        hsources.findSources_eq (h.before.grown hon (by simp)),
        (hsources.of_grown hgrown).findSources_eq (h.before.grown hon' (by simp))]
    · rfl
  rw [hlater]
  cases hd : (rebuild o d s scope).2 with
  | error fault => rfl
  | ok t =>
    rw [hd] at hfirst
    exact (hsame t hd).trans hfirst.symm

end Project
end LintWorkspace
