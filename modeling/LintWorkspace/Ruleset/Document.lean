/-
# Ruleset documents

A ruleset document names the documents it builds on and gives codes their
actions.

```toml
imports = ["base.toml"]

[[rules]]
code = "CA1021"
action = "warn"
```

Other fields are ignored, and a rule may also be written `["CA1021", "warn"]`.
An action is only read as a severity when the document is resolved.
-/

import LintWorkspace.Disk.Writing
import LintWorkspace.SortedMap
import LintWorkspace.Toml.Shape

namespace LintWorkspace
namespace Ruleset

/-- What a document asks for one code. -/
structure Rule where
  code : String
  action : String
deriving DecidableEq, Repr

/-- A ruleset document: what it builds on, and its own rules. -/
structure Document where
  imports : List String
  rules : List Rule
deriving DecidableEq, Repr

/-- The severity of every code that is mentioned. -/
abbrev Severities := SortedMap Severity

namespace Rule

/-- The rule a table says. -/
def ofFields (fields : List (String × Toml.Value)) : Except Toml.ShapeFault Rule := do
  let (code, action) ← fields.foldlM (fun (r : Option String × Option String) field =>
    if field.1 = "code" then do return (some (← field.2.string), r.2)
    else if field.1 = "action" then do return (r.1, some (← field.2.string))
    else do
      field.2.pass
      return r) (none, none)
  return ⟨← Toml.Value.require "code" code, ← Toml.Value.require "action" action⟩

/-- The rule a list of two words says; further elements are ignored. -/
def ofItems (items : List Toml.Value) : Except Toml.ShapeFault Rule :=
  let wanted := "struct RuleEntry with 2 elements"
  match items with
  | [] => .error (.tooShort 0 wanted)
  | code :: rest => do
    let code ← code.string
    match rest with
    | [] => .error (.tooShort 1 wanted)
    | action :: _ => return ⟨code, ← action.string⟩

/-- The rule a value says. -/
def ofValue : Toml.Value → Except Toml.ShapeFault Rule
  | .table fields => ofFields fields
  | .sequence items => ofItems items
  | .scalar .moment => ofFields []
  | v => .error (v.unlike "struct RuleEntry")

end Rule

namespace Document

/-- The document a table says. -/
def ofFields (fields : List (String × Toml.Value)) : Except Toml.ShapeFault Document :=
  fields.foldlM (fun doc field =>
    if field.1 = "imports" then do
      return { doc with imports := ← field.2.list Toml.Value.string }
    else if field.1 = "rules" then do
      return { doc with rules := ← field.2.list Rule.ofValue }
    else do
      field.2.pass
      return doc) ⟨[], []⟩

/-- The document a text says. -/
def ofText (text : String) : Except Toml.LoadFault Document := Toml.load ofFields text

end Document

/-- Why a document cannot be used. -/
inductive DocumentFault where
  | unreadable (fault : DiskFault)
  | unloadable (fault : Toml.LoadFault)
  | unknownAction (code : String) (fault : UnknownSeverity)
deriving DecidableEq

/-- The wording of a fault. -/
def DocumentFault.message : DocumentFault → String
  | unreadable fault => fault.message
  | unloadable fault => fault.message
  | unknownAction code fault => s!"rule '{code}': {fault.message}"

end Ruleset

/-- Why a ruleset cannot be resolved or edited. -/
inductive RulesetFault where
  /-- a document cannot be used -/
  | invalid (path : Path) (cause : Ruleset.DocumentFault)
  /-- the imports lead back to where they came from -/
  | cycle (chain : List Location)
  /-- the document to edit has no rule for a code -/
  | noRule (path : Path) (code : String)
  /-- the document to edit has no import at an index -/
  | noImport (path : Path) (index : Nat)
deriving DecidableEq

/-- The wording of a fault. -/
def RulesetFault.message : RulesetFault → String
  | invalid path cause => s!"invalid ruleset {path.text}: {cause.message}"
  | cycle chain => "ruleset import cycle: " ++ " -> ".intercalate (chain.map Location.text)
  | noRule path code => s!"ruleset {path.text} has no rule '{code}'"
  | noImport path index => s!"ruleset {path.text} has no import #{index}"

namespace Ruleset

/-- Reads the document at a location. -/
def Document.read (d : Disk) (l : Location) : Except RulesetFault Document :=
  match d.readText l.toPath with
  | .error fault => .error (.invalid l.toPath (.unreadable fault))
  | .ok text =>
    match Document.ofText text with
    | .error fault => .error (.invalid l.toPath (.unloadable fault))
    | .ok doc => .ok doc

end Ruleset
end LintWorkspace
