/-
# Project definitions

A project is defined by a document:

```toml
name = "app"
sources = ["src/**/*.cs"]
ruleset = "default.toml"
analyzers = ["packs/demo.analyzer"]
```

All paths start from the directory of the definition.  Without a name the stem
of the definition's file name is the project's id.
-/

import LintWorkspace.Glob.Walk
import LintWorkspace.Ruleset.Document

namespace LintWorkspace
namespace Project

/-- What a definition says. -/
structure Definition where
  name : Option String
  sources : List String
  ruleset : Option String
  analyzers : List String
deriving DecidableEq, Repr

namespace Definition

/-- The definition a table says. -/
def ofFields (fields : List (String × Toml.Value)) : Except Toml.ShapeFault Definition :=
  fields.foldlM (fun d field =>
    if field.1 = "name" then do return { d with name := some (← field.2.string) }
    else if field.1 = "sources" then do
      return { d with sources := ← field.2.list Toml.Value.string }
    else if field.1 = "ruleset" then do return { d with ruleset := some (← field.2.string) }
    else if field.1 = "analyzers" then do
      return { d with analyzers := ← field.2.list Toml.Value.string }
    else do
      field.2.pass
      return d) ⟨none, [], none, []⟩

/-- The definition a text says. -/
def ofText (text : String) : Except Toml.LoadFault Definition := Toml.load ofFields text

/-- The id of the project that a definition at a path defines. -/
def id (path : Path) (d : Definition) : String :=
  d.name.getD ((path.fileName?.map Name.stem).getD "project")

end Definition

/-- Why a definition cannot be used. -/
inductive DefinitionFault where
  | unreadable (fault : DiskFault)
  | unloadable (fault : Toml.LoadFault)
deriving DecidableEq

/-- The wording of a fault. -/
def DefinitionFault.message : DefinitionFault → String
  | unreadable fault => fault.message
  | unloadable fault => fault.message

end Project

/-- Why an operation on a project fails as a whole. -/
inductive ProjectFault where
  | definition (path : Path) (cause : Project.DefinitionFault)
  | ruleset (fault : RulesetFault)
  | source (pattern : String) (cause : Glob.PatternFault)
  | unknownProject (id : String)
  | duplicate (id : String) (path : Path)
  | read (path : Path) (fault : DiskFault)
deriving DecidableEq

/-- The wording of a fault. -/
def ProjectFault.message : ProjectFault → String
  | definition path cause => s!"invalid project definition {path.text}: {cause.message}"
  | ruleset fault => fault.message
  | source pattern cause => s!"bad source pattern '{pattern}': {cause.message}"
  | unknownProject id => s!"unknown project: {id}"
  | duplicate id path => s!"project '{id}' is already loaded from {path.text}"
  | read path fault => s!"cannot read {path.text}: {fault.message}"

namespace Project

/-- Reads the definition at a path. -/
def Definition.read (d : Disk) (path : Path) : Except ProjectFault Definition :=
  match d.readText path with
  | .error fault => .error (.definition path (.unreadable fault))
  | .ok text =>
    match Definition.ofText text with
    | .error fault => .error (.definition path (.unloadable fault))
    | .ok definition => .ok definition

/-- The patterns of sources, below the directory of the definition. -/
def patternsBelow (dir : Path) (sources : List String) :
    Except ProjectFault (List Glob.Pattern) :=
  sources.mapM fun source =>
    match Glob.Pattern.ofText (dir.join (.ofText source)).text with
    | .ok p => .ok p
    | .error cause => .error (.source source cause)

/-- Locations in order, each once. -/
def inOrder (ls : List Location) : List Location :=
  (ls.mergeSort fun a b => !b.precedes a).foldr (fun l rest =>
    if rest.head? = some l then rest else l :: rest) []

/-- The files on a disk that the patterns find, in order. -/
def findSources (d : Disk) (patterns : List Glob.Pattern) :
    Except ProjectFault (List Location) := do
  let found ← patterns.mapM fun p =>
    match Glob.find d p.text with
    | .ok ls => Except.ok ls
    | .error cause => .error (ProjectFault.source p.text cause)
  return inOrder found.flatten

end Project
end LintWorkspace
