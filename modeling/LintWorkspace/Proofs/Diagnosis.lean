/-
# Diagnostics under two tables of severities

A table of severities decides nothing about a diagnostic but its severity: which rules hit
where, with which message, and in which order the hits are reported, is the same under every
table.  So under two tables that agree but for one code, a text has the same diagnostics but
for the severities of that code (`forall₂_analyze`).
-/

import LintWorkspace.Diagnostic.Analysis
import LintWorkspace.Proofs.Regrade
import LintWorkspace.Workspace.Basic

namespace LintWorkspace
namespace Diagnostic

open Analyzer (Rule)

variable {code file text : String} {cs : List Char} {m m' : SortedMap Severity}

/-- A diagnostic that is another one but for the severity, which may differ for one code. -/
structure AlikeBut (code : String) (a b : Diagnostic) : Prop where
  eq : b = { a with severity := b.severity }
  same : a.code ≠ code → b = a

/-- The hits of rules, each with its rule. -/
def hitsOf (cs : List Char) (rules : List Rule) : List (Rule × Hit) :=
  rules.flatMap fun r => (r.matcher.hits cs).map fun h => (r, h)

theorem collect_eq_map (file : String) (cs : List Char) (m : SortedMap Severity)
    (rules : List Rule) :
    collect file cs m rules = (hitsOf cs rules).map fun x => ofHit file cs m x.1 x.2 := by
  simp [collect, hitsOf, List.map_flatMap, Function.comp_def]

/-- Hits are put in order whatever their severities are. -/
theorem analyze_eq_map (file text : String) (m m' : SortedMap Severity) (rules : List Rule) :
    analyze file text m' rules = ((hitsOf text.toList rules).mergeSort fun x y =>
      inOrder (ofHit file text.toList m x.1 x.2) (ofHit file text.toList m y.1 y.2)).map
        fun x => ofHit file text.toList m' x.1 x.2 := by
  rw [analyze, collect_eq_map]
  refine Eq.symm (List.map_mergeSort fun x _ y _ => ?_)
  rfl

/-- A hit gets the same diagnostic from tables that agree but for one code. -/
theorem alikeBut_ofHit (hm : Ruleset.Agree code m m') (r : Rule) (h : Hit) :
    AlikeBut code (ofHit file cs m r h) (ofHit file cs m' r h) where
  eq := rfl
  same hne := by
    have hfind : m'.find? r.code = m.find? r.code := hm r.code hne
    rw [ofHit, ofHit, hfind]

/-- **Regrading one code leaves the diagnostics of a text as they are,** in the same order,
but for the severities of that code. -/
theorem forall₂_analyze (hm : Ruleset.Agree code m m') (rules : List Rule) :
    List.Forall₂ (AlikeBut code) (analyze file text m rules) (analyze file text m' rules) := by
  rw [analyze_eq_map file text m m, analyze_eq_map file text m m', List.forall₂_map_left_iff,
    List.forall₂_map_right_iff]
  exact List.forall₂_same.2 fun x _ => alikeBut_ofHit hm x.1 x.2

/-- Two answers to the question for diagnostics: the same fault, or diagnostics that are alike
entry by entry. -/
inductive AnswersAlike (code : String) :
    Except ProjectFault (List Diagnostic) → Except ProjectFault (List Diagnostic) → Prop
  | failed (fault : ProjectFault) : AnswersAlike code (.error fault) (.error fault)
  | found {l l' : List Diagnostic} (h : List.Forall₂ (AlikeBut code) l l') :
    AnswersAlike code (.ok l) (.ok l')

end Diagnostic

namespace Workspace

variable {F G : Disk} {s t : Project.Snapshot} {code : String} {file : Path}

/-- A file that reads the same on two disks is analyzed alike by two snapshots with the same
analyzers whose severities agree but for one code. -/
theorem answersAlike_analyze (htext : F.readText file = G.readText file)
    (hrules : t.analyzers = s.analyzers) (hm : Ruleset.Agree code s.severities t.severities) :
    Diagnostic.AnswersAlike code (analyze F s file) (analyze G t file) := by
  have hrules' : t.rules = s.rules := by rw [Project.Snapshot.rules, hrules, Project.Snapshot.rules]
  unfold analyze
  rw [← htext, hrules']
  cases F.readText file with
  | error fault => exact .failed _
  | ok text => exact .found (Diagnostic.forall₂_analyze hm s.rules)

theorem diagnostics_eq {w : Workspace} {id : String} {p : OpenProject}
    (hp : w.projects.find? id = some p) (file : Path) :
    w.diagnostics id file = analyze w.disk p.snapshot file := by
  simp [diagnostics, snapshot, project, hp, Except.map, bind, Except.bind]

end Workspace
end LintWorkspace
