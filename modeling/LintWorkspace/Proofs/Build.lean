/-
# What builds and refreshes make

A build reads the definition, the patterns, the sources and the ruleset in this
order (`draft_eq`), and the analyzers last, which cannot fail.  A refresh keeps
everything that the definition says (`Snapshot.SameOutline`) and does the parts of
its scope again (`refresh_eq_ok`, `refresh_eq_error`).

Whether the sources can be found depends on the patterns alone
(`findSources_eq_error`), so no edit of the disk makes a good pattern a bad one.
-/

import LintWorkspace.Project.Build
import LintWorkspace.Proofs.Fallible

namespace LintWorkspace
namespace Project

/-- Two snapshots of one project that agree on all that a definition says. -/
structure Snapshot.SameOutline (s t : Snapshot) : Prop where
  id : t.id = s.id
  definition : t.definition = s.definition
  dir : t.dir = s.dir
  patterns : t.patterns = s.patterns
  ruleset : t.ruleset = s.ruleset
  analyzerPaths : t.analyzerPaths = s.analyzerPaths

theorem Snapshot.SameOutline.refl (s : Snapshot) : s.SameOutline s := ⟨rfl, rfl, rfl, rfl, rfl, rfl⟩

theorem Snapshot.SameOutline.trans {s t u : Snapshot} (h : s.SameOutline t)
    (h' : t.SameOutline u) : s.SameOutline u :=
  ⟨h'.id.trans h.id, h'.definition.trans h.definition, h'.dir.trans h.dir,
    h'.patterns.trans h.patterns, h'.ruleset.trans h.ruleset,
    h'.analyzerPaths.trans h.analyzerPaths⟩

/-- Two such snapshots that also agree on what the ruleset says. -/
structure Snapshot.SameRuleset (s t : Snapshot) : Prop extends s.SameOutline t where
  severities : t.severities = s.severities
  documents : t.documents = s.documents

theorem Snapshot.SameRuleset.refl (s : Snapshot) : s.SameRuleset s := ⟨.refl s, rfl, rfl⟩

theorem Snapshot.SameRuleset.trans {s t u : Snapshot} (h : s.SameRuleset t)
    (h' : t.SameRuleset u) : s.SameRuleset u :=
  ⟨h.toSameOutline.trans h'.toSameOutline, h'.severities.trans h.severities,
    h'.documents.trans h.documents⟩

/-- The number of a snapshot says nothing about the project. -/
theorem Snapshot.sameRuleset_version (s : Snapshot) (version : Nat) :
    s.SameRuleset { s with version } := ⟨⟨rfl, rfl, rfl, rfl, rfl, rfl⟩, rfl, rfl⟩

/-! ### The steps -/

theorem withRuleset_eq (d : Disk) (s : Snapshot) :
    withRuleset d s = (rulesetFrom d s.ruleset).map fun r =>
      { s with severities := r.severities, documents := r.documents } := by
  unfold withRuleset
  cases rulesetFrom d s.ruleset <;> rfl

theorem withSources_eq (d : Disk) (s : Snapshot) :
    withSources d s = ((findSources d s.patterns).mapError BuildFault.of).map fun ls =>
      { s with sources := ls } := by
  unfold withSources
  cases findSources d s.patterns <;> rfl

theorem exists_of_withRuleset {d : Disk} {s t : Snapshot} (h : withRuleset d s = .ok t) :
    ∃ r, rulesetFrom d s.ruleset = .ok r ∧
      t = { s with severities := r.severities, documents := r.documents } := by
  rw [withRuleset_eq] at h
  obtain ⟨r, hr, rfl⟩ := map_eq_ok_iff.1 h
  exact ⟨r, hr, rfl⟩

theorem exists_of_withSources {d : Disk} {s t : Snapshot} (h : withSources d s = .ok t) :
    ∃ ls, findSources d s.patterns = .ok ls ∧ t = { s with sources := ls } := by
  rw [withSources_eq] at h
  obtain ⟨ls, hls, rfl⟩ := map_eq_ok_iff.1 h
  exact ⟨ls, mapError_eq_ok_iff.1 hls, rfl⟩

/-- Collecting the sources touches nothing else. -/
theorem sameRuleset_withSources {d : Disk} {s t : Snapshot} (h : withSources d s = .ok t) :
    s.SameRuleset t := by
  obtain ⟨ls, -, rfl⟩ := exists_of_withSources h
  exact ⟨⟨rfl, rfl, rfl, rfl, rfl, rfl⟩, rfl, rfl⟩

theorem withSources_eq_error {d : Disk} {s : Snapshot} {fault : BuildFault}
    (h : withSources d s = .error fault) :
    ∃ cause, findSources d s.patterns = .error cause ∧ fault = .of cause := by
  rw [withSources_eq] at h
  cases hf : findSources d s.patterns with
  | error cause => exact ⟨cause, rfl, by simpa [hf, Except.map] using h.symm⟩
  | ok ls => simp [hf, Except.map] at h

/-- Loading the analyzers touches nothing else. -/
theorem sameRuleset_withAnalyzers (o : Options) (d : Disk) (s : Snapshot) :
    s.SameRuleset (withAnalyzers o d s).2 := ⟨⟨rfl, rfl, rfl, rfl, rfl, rfl⟩, rfl, rfl⟩

/-- The steps of a draft in their order, the first fault deciding. -/
theorem draft_eq (d : Disk) (last : Option Snapshot) (definition : Location) :
    draft d last definition =
      match outline d last definition with
      | .error fault => .error fault
      | .ok s =>
        match findSources d s.patterns with
        | .error cause => .error (.of cause)
        | .ok sources =>
          match rulesetFrom d s.ruleset with
          | .error fault => .error fault
          | .ok r => .ok { s with
              sources, severities := r.severities, documents := r.documents } := by
  unfold draft
  cases outline d last definition with
  | error fault => rfl
  | ok s =>
    simp only [bind, Except.bind, withSources_eq, withRuleset_eq]
    cases findSources d s.patterns with
    | error cause => rfl
    | ok sources =>
      simp only [mapError_ok, Except.map]
      cases rulesetFrom d s.ruleset <;> rfl

theorem build_snd (o : Options) (d : Disk) (last : Option Snapshot) (definition : Location) :
    (build o d last definition).2 =
      (draft d last definition).map fun s => (withAnalyzers o d s).2 := by
  unfold build
  cases draft d last definition <;> rfl

/-- A build keeps the id of the last snapshot and the place of the definition. -/
theorem id_outline {d : Disk} {last : Option Snapshot} {definition : Location} {s : Snapshot}
    (h : outline d last definition = .ok s) :
    s.definition = definition ∧ s.dir = definition.parent ∧
      ∀ t, last = some t → s.id = t.id := by
  unfold outline at h
  obtain ⟨said, -, h⟩ := bind_eq_ok_iff.1 h
  obtain ⟨patterns, -, h⟩ := bind_eq_ok_iff.1 h
  obtain rfl := Except.ok.inj h
  exact ⟨rfl, rfl, fun t ht => by simp [ht]⟩

/-- What a draft was made from. -/
theorem exists_of_draft {d : Disk} {last : Option Snapshot} {definition : Location}
    {t : Snapshot} (h : draft d last definition = .ok t) :
    ∃ s ls r, outline d last definition = .ok s ∧ findSources d s.patterns = .ok ls ∧
      rulesetFrom d s.ruleset = .ok r ∧
      t = { s with sources := ls, severities := r.severities, documents := r.documents } := by
  obtain ⟨s, hs, h⟩ := bind_eq_ok_iff.1 h
  obtain ⟨u, hu, h⟩ := bind_eq_ok_iff.1 h
  obtain ⟨ls, hls, rfl⟩ := exists_of_withSources hu
  obtain ⟨r, hr, rfl⟩ := exists_of_withRuleset h
  exact ⟨s, ls, r, hs, hls, hr, rfl⟩

/-- A draft says what its outline says. -/
theorem outline_of_draft {d : Disk} {last : Option Snapshot} {definition : Location}
    {s : Snapshot} (h : draft d last definition = .ok s) :
    ∃ u, outline d last definition = .ok u ∧ u.SameOutline s := by
  obtain ⟨u, ls, r, hu, -, -, rfl⟩ := exists_of_draft h
  exact ⟨u, hu, rfl, rfl, rfl, rfl, rfl, rfl⟩

/-! ### The patterns alone decide whether there are sources -/

theorem find_eq_error {d : Disk} (e : Disk) {text : String} {fault : Glob.PatternFault}
    (h : Glob.find d text = .error fault) : Glob.find e text = .error fault := by
  unfold Glob.find at h ⊢
  cases hp : Glob.Pattern.ofText text with
  | error f => simpa [hp, bind, Except.bind] using h
  | ok p =>
    rcases hc : Glob.components text with ⟨rooted, pieces⟩
    cases hps : pieces.mapM fun cs => Glob.Pattern.ofText (String.ofList cs) with
    | error f => simpa [hp, hc, hps, bind, Except.bind] using h
    | ok ps =>
      simp only [hp, hc, hps, bind, Except.bind] at h
      split at h <;> simp [pure, Except.pure] at h

theorem findSources_eq (d : Disk) (patterns : List Glob.Pattern) :
    findSources d patterns =
      (patterns.mapM fun p => (Glob.find d p.text).mapError (ProjectFault.source p.text)) >>=
        fun found => pure (inOrder found.flatten) := by
  unfold findSources
  refine congrArg (fun step => patterns.mapM step >>= fun found => pure (inOrder found.flatten))
    (funext fun p => ?_)
  cases Glob.find d p.text <;> rfl

/-- **Whether sources can be found depends on the patterns alone.** -/
theorem findSources_eq_error {d : Disk} (e : Disk) {patterns : List Glob.Pattern}
    {fault : ProjectFault} (h : findSources d patterns = .error fault) :
    findSources e patterns = .error fault := by
  rw [findSources_eq] at h ⊢
  generalize hm : (patterns.mapM fun p =>
    (Glob.find d p.text).mapError (ProjectFault.source p.text)) = found at h
  cases found with
  | ok found => simp [bind, Except.bind, pure, Except.pure] at h
  | error f =>
    obtain rfl : f = fault := by simpa [bind, Except.bind] using h
    rw [mapM_eq_error ?_ ?_ hm]
    · rfl
    · intro p f hp
      cases hd : Glob.find d p.text with
      | ok ls => simp [hd] at hp
      | error cause =>
        rw [hd] at hp
        rw [find_eq_error e hd]
        exact hp
    · intro p ls hp
      cases he : Glob.find e p.text with
      | ok ls' => exact ⟨ls', rfl⟩
      | error cause => simp [find_eq_error d he] at hp

theorem findSources_eq_ok {d : Disk} (e : Disk) {patterns : List Glob.Pattern}
    {ls : List Location} (h : findSources d patterns = .ok ls) :
    ∃ ls', findSources e patterns = .ok ls' := by
  cases he : findSources e patterns with
  | ok ls' => exact ⟨ls', rfl⟩
  | error fault => simp [findSources_eq_error d he] at h

/-! ### Refreshing -/

/-- A refresh on a given answer about the ruleset: the analyzers, then the sources. -/
def refreshRest (o : Options) (d : Disk) (s : Snapshot) (scope : Scope)
    (r : Ruleset.Resolved) : Except BuildFault Snapshot :=
  let s := { s with severities := r.severities, documents := r.documents }
  let (d, s) := if scope.analyzers then withAnalyzers o d s else (d, s)
  if scope.sources then withSources d s else .ok s

/-- The steps of a refresh in their order. -/
theorem refresh_snd (o : Options) (d : Disk) (s : Snapshot) (scope : Scope) :
    (refresh o d s scope).2 =
      if scope.ruleset then
        match rulesetFrom d s.ruleset with
        | .error fault => .error fault
        | .ok r => refreshRest o d s scope r
      else refreshRest o d s scope ⟨s.severities, s.documents⟩ := by
  unfold refresh
  by_cases h : scope.ruleset = true
  · simp only [h, if_true, withRuleset_eq]
    cases rulesetFrom d s.ruleset <;> rfl
  · simp only [h, Bool.false_eq_true, if_false]
    rfl

theorem refreshRest_eq_ok {o : Options} {d : Disk} {s t : Snapshot} {scope : Scope}
    {r : Ruleset.Resolved} (h : refreshRest o d s scope r = .ok t) :
    s.SameOutline t ∧ t.severities = r.severities ∧ t.documents = r.documents := by
  simp only [refreshRest] at h
  generalize hu : ({ s with severities := r.severities, documents := r.documents } :
    Snapshot) = u at h
  have hsame : u.SameRuleset t := by
    by_cases ha : scope.analyzers = true
    · simp only [ha, if_true] at h
      refine (sameRuleset_withAnalyzers o d u).trans ?_
      split at h
      · exact sameRuleset_withSources h
      · exact Except.ok.inj h ▸ .refl _
    · simp only [ha, Bool.false_eq_true, if_false] at h
      split at h
      · exact sameRuleset_withSources h
      · exact Except.ok.inj h ▸ .refl _
  subst hu
  exact ⟨⟨hsame.id, hsame.definition, hsame.dir, hsame.patterns, hsame.ruleset,
    hsame.analyzerPaths⟩, hsame.severities, hsame.documents⟩

theorem refreshRest_eq_error {o : Options} {d : Disk} {s : Snapshot} {scope : Scope}
    {r : Ruleset.Resolved} {fault : BuildFault} (h : refreshRest o d s scope r = .error fault) :
    ∃ e cause, findSources e s.patterns = .error cause ∧ fault = .of cause := by
  simp only [refreshRest] at h
  by_cases ha : scope.analyzers = true
  · simp only [ha, if_true] at h
    split at h
    · obtain ⟨cause, hcause, hfault⟩ := withSources_eq_error h
      exact ⟨_, cause, hcause, hfault⟩
    · simp at h
  · simp only [ha, Bool.false_eq_true, if_false] at h
    split at h
    · obtain ⟨cause, hcause, hfault⟩ := withSources_eq_error h
      exact ⟨_, cause, hcause, hfault⟩
    · simp at h

/-- **What a refresh that succeeds has done.**  It keeps what the definition says, and a
scope with the ruleset has resolved it on the disk that the refresh started from. -/
theorem refresh_eq_ok {o : Options} {d : Disk} {s t : Snapshot} {scope : Scope}
    (h : (refresh o d s scope).2 = .ok t) :
    s.SameOutline t ∧
      (scope.ruleset = true → rulesetFrom d s.ruleset = .ok ⟨t.severities, t.documents⟩) ∧
      (scope.ruleset = false → s.SameRuleset t) := by
  rw [refresh_snd] at h
  by_cases hscope : scope.ruleset = true
  · rw [if_pos hscope] at h
    cases hr : rulesetFrom d s.ruleset with
    | error fault => simp [hr] at h
    | ok r =>
      rw [hr] at h
      obtain ⟨hsame, hsev, hdocs⟩ := refreshRest_eq_ok h
      exact ⟨hsame, fun _ => by rw [hsev, hdocs], by simp [hscope]⟩
  · rw [if_neg hscope] at h
    obtain ⟨hsame, hsev, hdocs⟩ := refreshRest_eq_ok h
    exact ⟨hsame, fun h => absurd h hscope, fun _ => ⟨hsame, hsev, hdocs⟩⟩

/-- **Why a refresh fails.**  Its ruleset is at fault, or its patterns are. -/
theorem refresh_eq_error {o : Options} {d : Disk} {s : Snapshot} {scope : Scope}
    {fault : BuildFault} (h : (refresh o d s scope).2 = .error fault) :
    (scope.ruleset = true ∧ rulesetFrom d s.ruleset = .error fault) ∨
      ∃ e cause, findSources e s.patterns = .error cause ∧ fault = .of cause := by
  rw [refresh_snd] at h
  split at h
  · rename_i hscope
    split at h
    · rename_i f hr
      exact Or.inl ⟨hscope, by rw [hr, Except.error.inj h]⟩
    · exact Or.inr (refreshRest_eq_error h)
  · exact Or.inr (refreshRest_eq_error h)

/-! ### Building again -/

/-- A reload never changes what project it is that is reloaded. -/
theorem rebuild_eq_ok {o : Options} {d : Disk} {s t : Snapshot} {scope : Scope}
    (h : (rebuild o d s scope).2 = .ok t) : t.id = s.id ∧ t.definition = s.definition := by
  unfold rebuild at h
  split at h
  · rw [build_snd] at h
    obtain ⟨u, hd, rfl⟩ := map_eq_ok_iff.1 h
    obtain ⟨v, hv, hsame⟩ := outline_of_draft hd
    obtain ⟨hdef, -, hid⟩ := id_outline hv
    exact ⟨hsame.id.trans (hid s rfl), hsame.definition.trans hdef⟩
  · obtain ⟨hsame, -⟩ := refresh_eq_ok h
    exact ⟨hsame.id, hsame.definition⟩

/-- Documents are reached only by a reload that resolves the ruleset. -/
theorem ruleset_of_reached {o : Options} {d : Disk} {s : Snapshot} {scope : Scope}
    {fault : BuildFault} (h : (rebuild o d s scope).2 = .error fault)
    (hreached : fault.reached ≠ none) : scope.definition = true ∨ scope.ruleset = true := by
  unfold rebuild at h
  split at h
  · rename_i hscope
    exact Or.inl hscope
  · rcases refresh_eq_error h with ⟨hscope, -⟩ | ⟨e, cause, -, rfl⟩
    · exact Or.inr hscope
    · exact absurd rfl hreached

end Project
end LintWorkspace
