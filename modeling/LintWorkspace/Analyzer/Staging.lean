/-
# The staging tree

An analyzer is never run from where it lies.  Its bytes are copied to

```text
<staging>/<project>/<fingerprint>/<file name>
```

and read from there, so the file it was copied from may be replaced at any time.
A copy of the right length is taken to be the right one, because the fingerprint
of the bytes is part of its path.  The project's part of the path is its id with
every character but letters, digits, `.`, `-` and `_` of ASCII replaced by `_`.

| fault | says |
| --- | --- |
| `missing` | there is no file at the path |
| `copy` | the file cannot be read, or the copy cannot be made or read |
| `manifest` | the copy is no usable pack |
-/

import LintWorkspace.Analyzer.Rule
import LintWorkspace.Disk.Writing
import LintWorkspace.Hash.Blake3

namespace LintWorkspace
namespace Analyzer

/-- Why the text of a pack cannot be used. -/
inductive ManifestFault where
  | unloadable (fault : Toml.LoadFault)
  | rule (fault : RuleFault)
deriving DecidableEq

/-- The wording of a fault. -/
def ManifestFault.message : ManifestFault → String
  | unloadable fault => fault.message
  | rule fault => fault.message

/-- Why an analyzer cannot be loaded. -/
inductive LoadFault where
  | missing (path : Path)
  | copy (path : Path) (fault : DiskFault)
  | manifest (path : Path) (fault : ManifestFault)
deriving DecidableEq

namespace LoadFault

/-- The path of the analyzer that cannot be loaded. -/
def path : LoadFault → Path
  | missing path => path
  | copy path _ => path
  | manifest path _ => path

/-- The wording of a fault. -/
def message : LoadFault → String
  | missing path => s!"analyzer not found: {path.text}"
  | copy path fault => s!"failed to shadow-copy analyzer {path.text}: {fault.message}"
  | manifest path fault => s!"invalid analyzer manifest in {path.text}: {fault.message}"

end LoadFault

/-- An analyzer that is ready to run from its copy. -/
structure Loaded where
  source : Path
  /-- where the copy lies -/
  copy : Path
  fingerprint : String
  name : String
  rules : List Rule

/-- The analyzers of a project that could be loaded, and what became of the others. -/
structure LoadReport where
  loaded : List Loaded
  failures : List LoadFault

/-- The report on no analyzers. -/
def LoadReport.empty : LoadReport := ⟨[], []⟩

/-- Whether a character of a project id is kept in the name of its directory. -/
def isSafe (c : Char) : Bool := c.isAlphanum || c = '.' || c = '-' || c = '_'

/-- The directory of a project in the staging tree. -/
def stagingDirectory (staging : Path) (project : String) : Path :=
  staging.join (.ofText (String.ofList (project.toList.map fun c => if isSafe c then c else '_')))

/-- Whether there is a copy of a length at a path. -/
def hasCopy (d : Disk) (copy : Path) (length : Nat) : Bool :=
  match d.find copy with
  | .ok (.file bytes) => bytes.size = length
  | _ => false

/-- Makes a copy: its directories, then the file in one step. -/
def makeCopy (d : Disk) (copy : Path) (bytes : ByteArray) : Disk × Option DiskFault :=
  match d.createDirectories (copy.parent?.getD (.ofText ".")) with
  | (d, some fault) => (d, some fault)
  | (d, none) =>
    match d.writeFile copy bytes with
    | .ok d => (d, none)
    | .error fault => (d, some fault)

/-- The name and the rules of the pack in a text. -/
def readPack (text : String) : Except ManifestFault (String × List Rule) :=
  match Manifest.ofText text with
  | .error fault => .error (.unloadable fault)
  | .ok manifest =>
    match manifest.rules.mapM RuleSpec.compile with
    | .error fault => .error (.rule fault)
    | .ok rules => .ok (manifest.name, rules)

/-- Reads an analyzer from its copy. -/
def readCopy (d : Disk) (source copy : Path) (fingerprint : String) :
    Except LoadFault Loaded :=
  match d.readText copy with
  | .error fault => .error (.copy source fault)
  | .ok text =>
    match readPack text with
    | .error fault => .error (.manifest source fault)
    | .ok (name, rules) => .ok ⟨source, copy, fingerprint, name, rules⟩

/-- Copies an analyzer into a project's directory, unless the copy is there, and loads it. -/
def loadAnalyzer (dir : Path) (d : Disk) (source : Path) : Disk × Except LoadFault Loaded :=
  match d.readBytes source with
  | .error .notFound => (d, .error (.missing source))
  | .error fault => (d, .error (.copy source fault))
  | .ok bytes =>
    match source.fileName? with
    | none => (d, .error (.missing source))
    | some name =>
      let fingerprint := Blake3.fingerprint bytes
      let copy := (dir.join (.ofText fingerprint)).join ⟨[name.text]⟩
      if hasCopy d copy bytes.size then (d, readCopy d source copy fingerprint)
      else match makeCopy d copy bytes with
        | (d, some fault) => (d, .error (.copy source fault))
        | (d, none) => (d, readCopy d source copy fingerprint)

/-- Loads the analyzers at paths into a directory, in order. -/
def loadInto (dir : Path) : Disk → List Path → Disk × LoadReport
  | d, [] => (d, .empty)
  | d, source :: sources =>
    let (d, outcome) := loadAnalyzer dir d source
    let (d, report) := loadInto dir d sources
    match outcome with
    | .ok a => (d, { report with loaded := a :: report.loaded })
    | .error fault => (d, { report with failures := fault :: report.failures })

/-- Loads the analyzers of a project. -/
def load (staging : Path) (d : Disk) (project : String) (sources : List Path) :
    Disk × LoadReport :=
  loadInto (stagingDirectory staging project) d sources

end Analyzer
end LintWorkspace
