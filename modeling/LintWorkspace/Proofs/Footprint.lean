/-
# What a build looks at

The resolution of a ruleset looks at the documents that it reached and at nothing
else: on every disk on which they read alike it ends alike (`resolve_congr`),
whether it succeeds or fails.  The bound on the length of a chain of imports
depends on the disk, but it never matters: the documents of a chain are distinct
files of the disk.

So apart from the sources and the analyzers a build ends alike as long as its
definition and the documents that it reached read alike (`build_congr_ok`,
`build_congr_error`).
-/

import LintWorkspace.Proofs.Build
import LintWorkspace.Proofs.Disk

namespace LintWorkspace
namespace Ruleset

variable {f g : Location → Except RulesetFault Document}

/-- A visit, whatever it is part of. -/
abbrev Visit := Location → Progress → Except RulesetFault Severities × Progress

/-! ### Documents that were reached stay reached -/

theorem reached_visitAll {v : Visit} (hv : ∀ l p, p.reached ⊆ (v l p).2.reached)
    (ls : List Location) (m : Severities) (p : Progress) :
    p.reached ⊆ (visitAll v ls m p).2.reached := by
  induction ls generalizing m p with
  | nil => exact List.Subset.refl _
  | cons l ls ih =>
    rw [visitAll]
    have hl := hv l p
    rcases hres : v l p with ⟨fault | n, q⟩
    · rw [hres] at hl
      exact hl
    · rw [hres] at hl
      exact List.Subset.trans hl (ih _ q)

/-- What a visit makes of what the imports of a document say. -/
def conclude (l : Location) (doc : Document) :
    Except RulesetFault Severities × Progress → Except RulesetFault Severities × Progress
  | (.error fault, p) => (.error fault, p)
  | (.ok below, p) =>
    match applyRules l doc.rules below with
    | .error fault => (.error fault, p)
    | .ok m => (.ok m, { p with done := (l, m) :: p.done })

@[simp] theorem reached_conclude (l : Location) (doc : Document)
    (result : Except RulesetFault Severities × Progress) :
    (conclude l doc result).2.reached = result.2.reached := by
  rcases result with ⟨fault | below, p⟩
  · rfl
  · rw [conclude]
    split <;> rfl

/-- The progress of a visit that has reached one more document. -/
def Progress.reach (p : Progress) (l : Location) : Progress :=
  { p with reached := p.reached ++ [l] }

/-- A visit reads a document only if it is neither finished nor on the way to itself. -/
theorem visit_succ (n : Nat) (chain : List Location) (l : Location) (p : Progress) :
    visit f (n + 1) chain l p =
      match p.done.lookup l with
      | some m => (.ok m, p)
      | none =>
        if l ∈ chain then (.error (.cycle (chain.dropWhile (· ≠ l) ++ [l])), p)
        else match f l with
          | .error fault => (.error fault, p.reach l)
          | .ok doc =>
            conclude l doc (visitAll (visit f n (chain ++ [l])) (targets l doc) ∅ (p.reach l)) := by
  rw [visit]
  cases p.done.lookup l with
  | some m => rfl
  | none =>
    by_cases hmem : l ∈ chain
    · simp only [if_pos hmem]
    · simp only [if_neg hmem]
      cases f l with
      | error fault => rfl
      | ok doc =>
        simp only [Progress.reach]
        rcases visitAll (visit f n (chain ++ [l])) (targets l doc) ∅
          ⟨p.done, p.reached ++ [l]⟩ with ⟨fault | below, q⟩ <;> rfl

theorem reached_visit (f : Location → Except RulesetFault Document) (n : Nat)
    (chain : List Location) (l : Location) (p : Progress) :
    p.reached ⊆ (visit f n chain l p).2.reached := by
  induction n generalizing chain l p with
  | zero => exact List.Subset.refl _
  | succ n ih =>
    have hstep : p.reached ⊆ (p.reach l).reached := List.subset_append_left _ _
    rw [visit_succ]
    split
    · exact List.Subset.refl _
    · split
      · exact List.Subset.refl _
      · split
        · exact hstep
        · rw [reached_conclude]
          exact List.Subset.trans hstep (reached_visitAll (fun l p => ih _ l p) _ _ _)

/-! ### Documents that read alike -/

/-- Visits that agree wherever the documents reached read alike agree on a whole list. -/
theorem visitAll_congr {v w : Visit} {good : Location → Prop}
    (hv : ∀ l p, p.reached ⊆ (v l p).2.reached)
    (h : ∀ l p, (∀ x ∈ (v l p).2.reached, good x) → w l p = v l p)
    {ls : List Location} {m : Severities} {p : Progress}
    (hgood : ∀ x ∈ (visitAll v ls m p).2.reached, good x) :
    visitAll w ls m p = visitAll v ls m p := by
  induction ls generalizing m p with
  | nil => rfl
  | cons l ls ih =>
    rw [visitAll] at hgood
    rw [visitAll, visitAll]
    rcases hres : v l p with ⟨fault | n, q⟩
    · rw [hres] at hgood
      rw [h l p (by rw [hres]; exact hgood), hres]
    · rw [hres] at hgood
      have hq : ∀ x ∈ q.reached, good x := fun x hx => hgood x (reached_visitAll hv ls _ q hx)
      rw [h l p (by rw [hres]; exact hq), hres]
      exact ih hgood

/-- **A visit depends on the documents it reached alone.**  The bounds may differ: each
has to leave room for all files that can still join the chain. -/
theorem visit_congr {files files' : List Location}
    (hf : ∀ l doc, f l = .ok doc → l ∈ files) (hg : ∀ l doc, g l = .ok doc → l ∈ files')
    {n k : Nat} {chain : List Location} {l : Location} {p : Progress} (hnodup : chain.Nodup)
    (hchain : chain ⊆ files) (hchain' : chain ⊆ files')
    (hn : files.length < n + chain.length) (hk : files'.length < k + chain.length)
    (hread : ∀ x ∈ (visit f n chain l p).2.reached, f x = g x) :
    visit g k chain l p = visit f n chain l p := by
  have hlen : chain.length ≤ files.length := hnodup.length_le_of_subset hchain
  have hlen' : chain.length ≤ files'.length := hnodup.length_le_of_subset hchain'
  induction n generalizing k chain l p with
  | zero => omega
  | succ n ih =>
    obtain ⟨k, rfl⟩ : ∃ j, k = j + 1 := ⟨k - 1, by omega⟩
    rw [visit_succ] at hread
    rw [visit_succ, visit_succ]
    cases hdone : p.done.lookup l with
    | some m => rfl
    | none =>
      by_cases hmem : l ∈ chain
      · rw [if_pos hmem, if_pos hmem]
      · rw [if_neg hmem, if_neg hmem]
        rw [hdone] at hread
        simp only [if_neg hmem] at hread
        have hl : l ∈ (p.reach l).reached := by simp [Progress.reach]
        cases hfl : f l with
        | error fault =>
          rw [hfl] at hread
          rw [← hread l hl, hfl]
        | ok doc =>
          rw [hfl] at hread
          simp only [reached_conclude] at hread
          have hmono := reached_visit f n (chain ++ [l])
          have hgl : g l = .ok doc := by
            rw [← hread l (reached_visitAll hmono _ _ _ hl), hfl]
          rw [hgl]
          have hnodup' : (chain ++ [l]).Nodup := by
            rw [List.nodup_append]
            refine ⟨hnodup, by simp, fun x hx y hy e => hmem ?_⟩
            rw [← List.mem_singleton.1 hy, ← e]
            exact hx
          have hin : chain ++ [l] ⊆ files := by
            simpa using ⟨hchain, hf l doc hfl⟩
          have hin' : chain ++ [l] ⊆ files' := by
            simpa using ⟨hchain', hg l doc hgl⟩
          have hall := visitAll_congr (w := visit g k (chain ++ [l])) hmono
            (fun l' p' hgood => ih hnodup' hin hin' (by simp; omega) (by simp; omega) hgood
              (hnodup'.length_le_of_subset hin) (hnodup'.length_le_of_subset hin')) hread
          simp only [hall]

/-! ### Resolving again -/

variable {F G : Disk} {root : Location}

theorem mem_of_read {d : Disk} {l : Location} {doc : Document} (h : Document.read d l = .ok doc) :
    l ∈ d.entries.map Prod.fst := by
  unfold Document.read at h
  cases htext : d.readText l.toPath with
  | error fault => simp [htext] at h
  | ok text => exact Disk.mem_of_readText htext

/-- **A resolution depends on the documents it reached alone.** -/
theorem resolve_congr
    (h : ∀ l ∈ (resolve F root).2, F.readText l.toPath = G.readText l.toPath) :
    resolve G root = resolve F root := by
  have hvisit : visit (Document.read G) (G.entries.length + 1) [] root ⟨[], []⟩ =
      visit (Document.read F) (F.entries.length + 1) [] root ⟨[], []⟩ := by
    refine visit_congr (fun l doc => mem_of_read) (fun l doc => mem_of_read) List.nodup_nil
      (List.nil_subset _) (List.nil_subset _) (by simp) (by simp) fun l hl => ?_
    have hl : l ∈ (resolve F root).2 := by
      unfold resolve
      split <;> simp_all
    unfold Document.read
    rw [h l hl]
  unfold resolve
  rw [hvisit]

/-- The documents of a ruleset are the ones that its resolution reached. -/
theorem documents_of_resolve {d : Disk} {r : Resolved} (h : (resolve d root).1 = .ok r) :
    r.documents = (resolve d root).2 := by
  unfold resolve at h ⊢
  split at h
  · simp at h
  · rw [← Except.ok.inj h]

end Ruleset

namespace Project

variable {F G : Disk} {root : Option Location}

/-- The documents that a resolution reaches; without a root there are none. -/
def reachedFrom (d : Disk) (root : Option Location) : List Location :=
  match root with
  | none => []
  | some l => (Ruleset.resolve d l).2

theorem rulesetFrom_congr
    (h : ∀ l ∈ reachedFrom F root, F.readText l.toPath = G.readText l.toPath) :
    rulesetFrom G root = rulesetFrom F root := by
  cases root with
  | none => rfl
  | some l =>
    simp only [rulesetFrom]
    rw [Ruleset.resolve_congr h]

theorem documents_of_rulesetFrom {d : Disk} {r : Ruleset.Resolved}
    (h : rulesetFrom d root = .ok r) : r.documents = reachedFrom d root := by
  cases root with
  | none =>
    rw [← Except.ok.inj h]
    rfl
  | some l =>
    simp only [rulesetFrom] at h
    split at h
    · rename_i r' reached hres
      obtain rfl := Except.ok.inj h
      exact Ruleset.documents_of_resolve (by rw [hres])
    · simp at h

theorem reached_of_rulesetFrom {d : Disk} {fault : BuildFault}
    (h : rulesetFrom d root = .error fault) : fault.reached = some (reachedFrom d root) := by
  cases root with
  | none => simp [rulesetFrom] at h
  | some l =>
    simp only [rulesetFrom] at h
    split at h
    · simp at h
    · rename_i cause reached hres
      obtain rfl := Except.error.inj h
      simp only [reachedFrom, hres]

/-- **A ruleset stays what it is until one of its documents changes.** -/
theorem rulesetFrom_congr_ok {r : Ruleset.Resolved} (hF : rulesetFrom F root = .ok r)
    (h : ∀ l ∈ r.documents, F.readText l.toPath = G.readText l.toPath) :
    rulesetFrom G root = .ok r := by
  rw [← hF]
  exact rulesetFrom_congr (documents_of_rulesetFrom hF ▸ h)

/-- **A ruleset stays at fault until a document changes that the attempt reached.** -/
theorem rulesetFrom_congr_error {fault : BuildFault} {reached : List Location}
    (hF : rulesetFrom F root = .error fault) (hreached : fault.reached = some reached)
    (h : ∀ l ∈ reached, F.readText l.toPath = G.readText l.toPath) :
    rulesetFrom G root = .error fault := by
  rw [reached_of_rulesetFrom hF, Option.some.injEq] at hreached
  rw [← hF]
  exact rulesetFrom_congr (hreached ▸ h)

/-! ### Building again -/

variable {o : Options} {d : Disk} {s t : Snapshot} {definition : Location}
  {last last' : Option Snapshot}

/-- A definition says the same wherever it reads alike. -/
theorem read_congr {path : Path} (h : F.readText path = G.readText path) :
    Definition.read F path = Definition.read G path := by
  unfold Definition.read
  rw [h]

/-- The outline depends on the definition alone; the last snapshot decides only the id and
the version. -/
theorem outline_congr_ok (last' : Option Snapshot)
    (h : F.readText definition.toPath = G.readText definition.toPath)
    (hF : outline F last definition = .ok s) :
    ∃ t, outline G last' definition = .ok t ∧ t.patterns = s.patterns ∧ t.ruleset = s.ruleset ∧
      t.analyzerPaths = s.analyzerPaths := by
  unfold outline at hF ⊢
  rw [← read_congr h]
  obtain ⟨said, hread, hF⟩ := bind_eq_ok_iff.1 hF
  obtain ⟨patterns, hpatterns, hF⟩ := bind_eq_ok_iff.1 hF
  obtain rfl := Except.ok.inj hF
  exact ⟨_, bind_eq_ok_iff.2 ⟨said, hread, bind_eq_ok_iff.2 ⟨patterns, hpatterns, rfl⟩⟩,
    rfl, rfl, rfl⟩

theorem outline_congr_error (last' : Option Snapshot)
    (h : F.readText definition.toPath = G.readText definition.toPath)
    {fault : BuildFault} (hF : outline F last definition = .error fault) :
    outline G last' definition = .error fault := by
  unfold outline at hF ⊢
  rw [← read_congr h]
  cases hread : Definition.read F definition.toPath with
  | error cause => simpa [hread, bind, Except.bind] using hF
  | ok said =>
    cases hpatterns : patternsBelow definition.parent.toPath said.sources with
    | error cause => simpa [hread, hpatterns, bind, Except.bind] using hF
    | ok patterns =>
      simp [hread, hpatterns, bind, Except.bind, pure, Except.pure] at hF

/-- What a snapshot says about its definition is what the definition says on a disk, and
its patterns are good. -/
structure Outlined (d : Disk) (s : Snapshot) : Prop where
  exists_outline : ∃ last u, outline d last s.definition = .ok u ∧ u.patterns = s.patterns ∧
    u.ruleset = s.ruleset ∧ u.analyzerPaths = s.analyzerPaths
  exists_sources : ∃ e ls, findSources e s.patterns = .ok ls

theorem Outlined.of_sameOutline (h : Outlined d s) (hsame : s.SameOutline t) : Outlined d t where
  exists_outline := by
    rw [hsame.definition, hsame.patterns, hsame.ruleset, hsame.analyzerPaths]
    exact h.exists_outline
  exists_sources := by
    rw [hsame.patterns]
    exact h.exists_sources

/-- A build reads its definition and resolves its ruleset on the disk it starts from. -/
theorem of_build_eq_ok (h : (build o d last definition).2 = .ok s) :
    s.definition = definition ∧ Outlined d s ∧
      rulesetFrom d s.ruleset = .ok ⟨s.severities, s.documents⟩ := by
  rw [build_snd] at h
  obtain ⟨t, hdraft, rfl⟩ := map_eq_ok_iff.1 h
  obtain ⟨u, sources, r, hu, hf, hr, rfl⟩ := exists_of_draft hdraft
  have hdef := (id_outline hu).1
  refine ⟨hdef, Outlined.of_sameOutline ?_ (sameRuleset_withAnalyzers o d _).toSameOutline, hr⟩
  exact ⟨⟨last, u, by rw [hdef]; exact hu, rfl, rfl, rfl⟩, d, sources, hf⟩

/-- Two snapshots that say the same of their project. -/
structure Snapshot.Agrees (s t : Snapshot) : Prop where
  patterns : t.patterns = s.patterns
  ruleset : t.ruleset = s.ruleset
  severities : t.severities = s.severities
  documents : t.documents = s.documents
  analyzerPaths : t.analyzerPaths = s.analyzerPaths

/-- While the definition stays what it was, a draft depends on the ruleset alone. -/
theorem exists_draft_of_outlined (last : Option Snapshot) (hs : Outlined F s)
    (hdef : F.readText s.definition.toPath = G.readText s.definition.toPath) :
    ∃ (v : Snapshot) (sources : List Location), v.patterns = s.patterns ∧ v.ruleset = s.ruleset ∧
      v.analyzerPaths = s.analyzerPaths ∧ draft G last s.definition =
        (rulesetFrom G s.ruleset).map fun r => { v with
          sources, severities := r.severities, documents := r.documents } := by
  obtain ⟨last', u, hu, hpatterns, hruleset, hanalyzers⟩ := hs.exists_outline
  obtain ⟨v, hv, hpatterns', hruleset', hanalyzers'⟩ := outline_congr_ok last hdef hu
  obtain ⟨e, ls, hls⟩ := hs.exists_sources
  obtain ⟨sources, hsources⟩ := findSources_eq_ok G hls
  refine ⟨v, sources, hpatterns'.trans hpatterns, hruleset'.trans hruleset,
    hanalyzers'.trans hanalyzers, ?_⟩
  rw [draft_eq, hv]
  simp only [hpatterns', hpatterns, hsources, hruleset', hruleset]
  cases rulesetFrom G s.ruleset <;> rfl

/-- **A build finds nothing new** until the definition or a document of the ruleset
changes. -/
theorem build_congr_ok (hs : Outlined F s)
    (hdef : F.readText s.definition.toPath = G.readText s.definition.toPath)
    (hr : rulesetFrom G s.ruleset = .ok ⟨s.severities, s.documents⟩) :
    ∃ t, (build o G last s.definition).2 = .ok t ∧ s.Agrees t := by
  obtain ⟨v, sources, hpatterns, hruleset, hanalyzers, hdraft⟩ :=
    exists_draft_of_outlined last hs hdef
  rw [build_snd, hdraft, hr]
  exact ⟨_, rfl, hpatterns, hruleset, rfl, rfl, hanalyzers⟩

/-- A build fails by the ruleset alone while the definition stays what it was. -/
theorem build_congr_of_ruleset (hs : Outlined F s)
    (hdef : F.readText s.definition.toPath = G.readText s.definition.toPath)
    {fault : BuildFault} (hr : rulesetFrom G s.ruleset = .error fault) :
    (build o G last s.definition).2 = .error fault := by
  obtain ⟨v, sources, -, -, -, hdraft⟩ := exists_draft_of_outlined last hs hdef
  rw [build_snd, hdraft, hr]
  rfl

/-- **A build that failed fails again** until the definition changes or a document that the
attempt reached. -/
theorem build_congr_error {fault : BuildFault} (hF : draft F last' definition = .error fault)
    (hdef : F.readText definition.toPath = G.readText definition.toPath)
    (hdocs : ∀ reached, fault.reached = some reached →
      ∀ l ∈ reached, F.readText l.toPath = G.readText l.toPath) :
    (build o G last definition).2 = .error fault := by
  rw [build_snd]
  suffices hG : draft G last definition = .error fault by rw [hG]; rfl
  rw [draft_eq] at hF ⊢
  cases hu : outline F last' definition with
  | error cause =>
    rw [hu] at hF
    rw [outline_congr_error last hdef hu]
    exact hF
  | ok u =>
    obtain ⟨v, hv, hpatterns, hruleset, -⟩ := outline_congr_ok last hdef hu
    rw [hu] at hF
    rw [hv]
    simp only [hpatterns, hruleset]
    cases hf : findSources F u.patterns with
    | error cause =>
      rw [findSources_eq_error G hf]
      simpa [hf] using hF
    | ok ls =>
      obtain ⟨ls', hls'⟩ := findSources_eq_ok G hf
      rw [hls']
      simp only [hf] at hF
      cases hr : rulesetFrom F u.ruleset with
      | ok r => simp [hr] at hF
      | error cause =>
        obtain rfl : cause = fault := by simpa [hr] using hF
        have hreached := reached_of_rulesetFrom hr
        rw [rulesetFrom_congr_error hr hreached (hdocs _ hreached)]

end Project
end LintWorkspace
