/-
# Analyzer packs

An analyzer is a pack of rules in a document:

```toml
name = "Demo.Analyzers"

[[rules]]
code = "IDE0060"
kind = "unused-parameter"
message = "Remove unused parameter '{name}'"

[[rules]]
code = "CA1021"
kind = "pattern"
pattern = "\\bout\\s+\\w+"
message = "Avoid out parameters"
default = "info"
```

A rule without a default has severity `warn`.
-/

import LintWorkspace.Toml.Shape

namespace LintWorkspace
namespace Analyzer

/-- What a rule looks for. -/
inductive Kind where
  /-- every match of a regular expression -/
  | pattern (text : String)
  /-- parameters that their function does not use -/
  | unusedParameter
deriving DecidableEq, Repr

/-- A rule of a pack as it is declared. -/
structure RuleSpec where
  code : String
  kind : Kind
  message : String
  default : Severity
deriving DecidableEq, Repr

/-- A pack as it is declared. -/
structure Manifest where
  name : String
  rules : List RuleSpec
deriving DecidableEq, Repr

open Toml (Value ShapeFault lookup?)

/-- The word for a kind of rule. -/
def kindWord : Value → Except ShapeFault String
  | .scalar (.string s) => .ok s
  | v => .error (v.unlike "variant identifier")

/-- What the table of a rule looks for. -/
def Kind.ofFields (fields : List (String × Value)) : Except ShapeFault Kind := do
  let word ← kindWord (← Value.require "kind" (lookup? "kind" fields))
  if word = "pattern" then
    return .pattern (← (← Value.require "pattern" (lookup? "pattern" fields)).string)
  else if word = "unused-parameter" then return .unusedParameter
  else .error (.unknownVariant word "`pattern` or `unused-parameter`")

/-- The rule a table says. -/
def RuleSpec.ofFields (fields : List (String × Value)) : Except ShapeFault RuleSpec := do
  let (code, message, default) ←
    fields.foldlM (fun (r : Option String × Option String × Option Severity) field =>
      if field.1 = "code" then do return (some (← field.2.string), r.2)
      else if field.1 = "message" then do return (r.1, some (← field.2.string), r.2.2)
      else if field.1 = "default" then do return (r.1, r.2.1, some (← field.2.severity))
      else do
        field.2.setAside
        return r) (none, none, none)
  let code ← Value.require "code" code
  let message ← Value.require "message" message
  return ⟨code, ← Kind.ofFields fields, message, default.getD .warn⟩

/-- The rule a value says. -/
def RuleSpec.ofValue : Value → Except ShapeFault RuleSpec
  | .table fields => ofFields fields
  | .scalar .moment => ofFields []
  | v => .error (v.unlike "struct AnalyzerRule")

/-- The pack a table says. -/
def Manifest.ofFields (fields : List (String × Value)) : Except ShapeFault Manifest := do
  let (name, rules) ← fields.foldlM (fun (r : Option String × List RuleSpec) field =>
    if field.1 = "name" then do return (some (← field.2.string), r.2)
    else if field.1 = "rules" then do return (r.1, ← field.2.list RuleSpec.ofValue)
    else do
      field.2.pass
      return r) (none, [])
  return ⟨← Value.require "name" name, rules⟩

/-- The pack a text says. -/
def Manifest.ofText (text : String) : Except Toml.LoadFault Manifest :=
  Toml.load Manifest.ofFields text

end Analyzer
end LintWorkspace
