/-
# The settings in force

A repository's root is the nearest directory, from where the search starts
upward, that holds a settings file or a `.git` entry; without one it is where the
search starts.  The first settings file in the root counts, and a file that
cannot be used counts as none.

What the command line says goes before what the file says, and that before the
defaults.
-/

import LintWorkspace.Disk.Basic
import LintWorkspace.Settings.File

namespace LintWorkspace
namespace Settings

/-- The names of settings files, in the order in which they count. -/
def fileNames : List String := ["reanalyze.toml", "reanalyze.yaml", "reanalyze.yml"]

/-- An entry of a directory. -/
def entry (dir : Path) (name : String) : Path := dir.join (.ofText name)

/-- Whether a directory is the root of a repository. -/
def isRoot (d : Disk) (dir : Path) : Bool :=
  fileNames.any (fun n => d.holds (entry dir n)) || d.holds (entry dir ".git")

/-- The nearest root from a path upward, if there is one.  The number bounds the steps. -/
def rootAbove? (d : Disk) : Nat → Path → Option Path
  | 0, _ => none
  | n + 1, p => if isRoot d p then some p else p.parent?.bind (rootAbove? d n)

/-- The root of the repository that a path lies in. -/
def detectRoot (d : Disk) (start : Path) : Path :=
  (rootAbove? d (start.segments.length + 2) start).getD start

/-- The settings of a repository. -/
def load? (d : Disk) (root : Path) : Option File := do
  let name ← fileNames.find? fun n => d.holds (entry root n)
  let text ← (d.readText (entry root name)).toOption
  if name.endsWith ".toml" then File.ofToml? text else File.ofYaml? text

/-- What the command line says about settings. -/
structure Overrides where
  root : Option String
  output : Option String
  showHidden : Option Bool
  noAnalyzers : Option Bool
deriving DecidableEq, Repr

/-- The settings in force. -/
structure Effective where
  root : Path
  staging : Path
  output : String
  showHidden : Bool
  analyzersEnabled : Bool
deriving DecidableEq, Repr

/-- The settings in force for what the command line says. -/
def resolve (d : Disk) (o : Overrides) : Effective :=
  let root := detectRoot d (.ofText (o.root.getD "."))
  let file := (load? d root).getD .empty
  { root
    staging := root.join (.ofText (file.staging.getD ".reanalyze/shadow"))
    output := (o.output.or file.output).getD "human"
    showHidden := (o.showHidden.or file.showHidden).getD false
    analyzersEnabled :=
      ((o.noAnalyzers.map (!·)).or (file.analyzers.bind Analyzers.enabled)).getD true }

end Settings
end LintWorkspace
