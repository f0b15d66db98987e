/-
# Snapshots: a project as it was built

A snapshot is what one build made of a definition: all of it comes from the same
state of the disk, and it is never changed.  A later build makes a new one with
the next version.

Which paths matter to a project is read off its snapshot: the documents of its
ruleset, its analyzers, and the files that its patterns match.
-/

import LintWorkspace.Analyzer.Staging
import LintWorkspace.Glob.Pattern
import LintWorkspace.Ruleset.Document

namespace LintWorkspace
namespace Project

/-- A project as one build made it. -/
structure Snapshot where
  id : String
  /-- the number of this build among those that succeeded -/
  version : Nat
  definition : Location
  dir : Location
  patterns : List Glob.Pattern
  sources : List Location
  /-- the document the ruleset is rooted at -/
  ruleset : Option Location
  severities : Ruleset.Severities
  /-- the root of the ruleset and all documents it builds on -/
  documents : List Location
  /-- the analyzers that are declared, loaded or not -/
  analyzerPaths : List Location
  analyzers : List Analyzer.Loaded
  failures : List Analyzer.LoadFault

namespace Snapshot

/-- Whether a path is a document of the ruleset. -/
def hasDocument (s : Snapshot) (p : Path) : Bool :=
  s.ruleset.any (fun l => l.toPath.sameAs p) || s.documents.any fun l => l.toPath.sameAs p

theorem hasDocument_of_mem {s : Snapshot} {l : Location} (h : l ∈ s.documents) :
    s.hasDocument l.toPath = true := by
  rw [hasDocument, Bool.or_eq_true, List.any_eq_true]
  exact Or.inr ⟨l, h, by simp [Path.sameAs]⟩

/-- Whether a path is a declared analyzer. -/
def hasAnalyzer (s : Snapshot) (p : Path) : Bool :=
  s.analyzerPaths.any fun l => l.toPath.sameAs p

/-- Whether a path lies in the project's directory and a pattern matches it. -/
def admits (s : Snapshot) (p : Path) : Bool :=
  p.startsWith s.dir.toPath && s.patterns.any fun g => g.matchesText p.text

/-- The rules of all analyzers, in order. -/
def rules (s : Snapshot) : List Analyzer.Rule := s.analyzers.flatMap Analyzer.Loaded.rules

end Snapshot
end Project
end LintWorkspace
