/-
# Building a project

A build starts from the definition and does everything:

```text
definition → patterns → sources → ruleset → analyzers
```

A refresh starts from the last snapshot and does the parts of a scope again, the
ruleset first, then the analyzers, then the sources.  The first step that fails
decides how both end.  An analyzer that cannot be loaded fails nothing: it is
listed in the snapshot.

The only step that changes the disk is the one that copies the analyzers.  It is
the last one of a build, so a build that fails leaves the disk as it was
(`disk_build_of_error`).
-/

import LintWorkspace.Project.Definition
import LintWorkspace.Project.Snapshot
import LintWorkspace.Ruleset.Resolution
import LintWorkspace.Workspace.Scope

namespace LintWorkspace
namespace Project

/-- What is fixed for all builds of a workspace. -/
structure Options where
  /-- the root of the staging tree -/
  staging : Path
  /-- whether analyzers are loaded at all -/
  analyzersEnabled : Bool
deriving DecidableEq, Repr

/-- Why a build failed, with the documents reached if its ruleset was at fault. -/
structure BuildFault where
  cause : ProjectFault
  reached : Option (List Location)
deriving DecidableEq

/-- A fault other than that of a ruleset. -/
def BuildFault.of (cause : ProjectFault) : BuildFault := ⟨cause, none⟩

/-- What the ruleset rooted at a document says; without a document, nothing. -/
def rulesetFrom (d : Disk) (root : Option Location) :
    Except BuildFault Ruleset.Resolved :=
  match root with
  | none => .ok .none
  | some l =>
    match Ruleset.resolve d l with
    | (.ok r, _) => .ok r
    | (.error fault, reached) => .error ⟨.ruleset fault, some reached⟩

/-- A snapshot with the ruleset resolved again. -/
def withRuleset (d : Disk) (s : Snapshot) : Except BuildFault Snapshot := do
  let r ← rulesetFrom d s.ruleset
  return { s with severities := r.severities, documents := r.documents }

/-- A snapshot with the sources collected again. -/
def withSources (d : Disk) (s : Snapshot) : Except BuildFault Snapshot := do
  let sources ← (findSources d s.patterns).mapError BuildFault.of
  return { s with sources }

/-- A snapshot with the analyzers loaded again. -/
def withAnalyzers (o : Options) (d : Disk) (s : Snapshot) : Disk × Snapshot :=
  let (d, report) :=
    if o.analyzersEnabled then
      Analyzer.load o.staging d s.id (s.analyzerPaths.map Location.toPath)
    else (d, .empty)
  (d, { s with analyzers := report.loaded, failures := report.failures })

/-- What a definition says by itself.  The id and the version are those of the last
snapshot, if there is one. -/
def outline (d : Disk) (last : Option Snapshot) (definition : Location) :
    Except BuildFault Snapshot := do
  let said ← (Definition.read d definition.toPath).mapError BuildFault.of
  let dir := definition.parent
  let patterns ← (patternsBelow dir.toPath said.sources).mapError BuildFault.of
  return {
    id := (last.map Snapshot.id).getD (said.id definition.toPath)
    version := (last.map Snapshot.version).getD 0
    definition
    dir
    patterns
    sources := []
    ruleset := said.ruleset.map fun r => (Path.ofText r).normalize dir
    severities := ∅
    documents := []
    analyzerPaths := said.analyzers.map fun a => (Path.ofText a).normalize dir
    analyzers := []
    failures := [] }

/-- What a definition says, with the sources and the ruleset. -/
def draft (d : Disk) (last : Option Snapshot) (definition : Location) :
    Except BuildFault Snapshot := do
  withRuleset d (← withSources d (← outline d last definition))

/-- Builds a project from its definition. -/
def build (o : Options) (d : Disk) (last : Option Snapshot) (definition : Location) :
    Disk × Except BuildFault Snapshot :=
  match draft d last definition with
  | .error fault => (d, .error fault)
  | .ok s =>
    let (d, s) := withAnalyzers o d s
    (d, .ok s)

/-- Does the parts of a scope again, on top of a snapshot. -/
def refresh (o : Options) (d : Disk) (s : Snapshot) (scope : Scope) :
    Disk × Except BuildFault Snapshot :=
  match if scope.ruleset then withRuleset d s else .ok s with
  | .error fault => (d, .error fault)
  | .ok s =>
    let (d, s) := if scope.analyzers then withAnalyzers o d s else (d, s)
    (d, if scope.sources then withSources d s else .ok s)

/-- Does the work of a scope again. -/
def rebuild (o : Options) (d : Disk) (s : Snapshot) (scope : Scope) :
    Disk × Except BuildFault Snapshot :=
  if scope.definition then build o d (some s) s.definition else refresh o d s scope

/-- A build that fails leaves the disk as it was. -/
theorem disk_build_of_error {o : Options} {d : Disk} {last : Option Snapshot}
    {definition : Location} {fault : BuildFault}
    (h : (build o d last definition).2 = .error fault) :
    (build o d last definition).1 = d := by
  unfold build at *
  cases hd : draft d last definition with
  | error f => rfl
  | ok s => simp [hd] at h

end Project
end LintWorkspace
