/-
# The settings file

Settings are written in TOML or in YAML, every field optional:

| field | value |
| --- | --- |
| `staging` | the directory of the staging tree |
| `output` | how reports are written |
| `show_hidden` | whether reports list hidden findings |
| `analyzers.enabled` | whether analyzers are loaded |

A record may also be written as a list of its fields in this order.
-/

import LintWorkspace.Toml.Shape
import LintWorkspace.Yaml.Reader

namespace LintWorkspace
namespace Settings

/-- Whether analyzers are loaded. -/
structure Analyzers where
  enabled : Option Bool
deriving DecidableEq, Repr

/-- What a settings file says. -/
structure File where
  staging : Option String
  output : Option String
  showHidden : Option Bool
  analyzers : Option Analyzers
deriving DecidableEq, Repr

/-- The file that says nothing. -/
def File.empty : File := ⟨none, none, none, none⟩

open Toml (Value ShapeFault)

/-- The analyzers' settings a value says. -/
def Analyzers.ofValue : Value → Except ShapeFault Analyzers
  | .table fields =>
    fields.foldlM (fun a field =>
      if field.1 = "enabled" then do return { a with enabled := some (← field.2.boolean) }
      else do
        field.2.pass
        return a) ⟨none⟩
  | .scalar .moment => return ⟨none⟩
  | .sequence (v :: _) => do return ⟨some (← v.boolean)⟩
  | .sequence [] => .error (.tooShort 0 "a record with 1 element")
  | v => .error (v.unlike "a record")

/-- The settings a table says. -/
def File.ofFields (fields : List (String × Value)) : Except ShapeFault File :=
  fields.foldlM (fun f field =>
    if field.1 = "staging" then do return { f with staging := some (← field.2.string) }
    else if field.1 = "output" then do return { f with output := some (← field.2.string) }
    else if field.1 = "show_hidden" then do
      return { f with showHidden := some (← field.2.boolean) }
    else if field.1 = "analyzers" then do
      return { f with analyzers := some (← Analyzers.ofValue field.2) }
    else do
      field.2.pass
      return f) .empty

/-- The settings of a TOML text. -/
def File.ofToml? (text : String) : Option File := (Toml.load File.ofFields text).toOption

open Yaml (Node)

/-- The words for nothing. -/
def nullWords : List String := ["~", "null", "Null", "NULL"]

/-- The text of a scalar. -/
def textOf? : Node → Option String
  | .scalar t _ => some t
  | _ => none

/-- The truth value a node says. -/
def booleanOf? : Node → Option Bool
  | .scalar _ .quoted => none
  | .scalar t _ =>
    if t = "true" ∨ t = "True" ∨ t = "TRUE" then some true
    else if t = "false" ∨ t = "False" ∨ t = "FALSE" then some false
    else none
  | _ => none

/-- A node that may say nothing. -/
def optional? {α : Type} (read : Node → Option α) (n : Node) : Option (Option α) :=
  match n with
  | .scalar t .plain => if t = "" || nullWords.contains t then some none else (read n).map some
  | .scalar t .nothing => if nullWords.contains t then some none else none
  | _ => (read n).map some

/-- The value of a field; nothing if the field is there twice. -/
def field? (name : String) (entries : List (String × Node)) : Option (Option Node) :=
  match entries.filter fun e => e.1 = name with
  | [] => some none
  | [e] => some (some e.2)
  | _ => none

/-- A field that may be missing and may say nothing. -/
def optionalField? {α : Type} (read : Node → Option α) (name : String)
    (entries : List (String × Node)) : Option (Option α) := do
  match ← field? name entries with
  | none => some none
  | some n => optional? read n

/-- The entries of a mapping whose keys are scalars. -/
def namedEntries? (entries : List (Node × Node)) : Option (List (String × Node)) :=
  entries.mapM fun e => (textOf? e.1).map fun k => (k, e.2)

/-- The analyzers' settings a node says. -/
def Analyzers.ofNode? : Node → Option Analyzers
  | .mapping entries => do some ⟨← optionalField? booleanOf? "enabled" (← namedEntries? entries)⟩
  | .sequence [n] => do some ⟨← optional? booleanOf? n⟩
  | _ => none

/-- The settings a node says. -/
def File.ofNode? : Node → Option File
  | .mapping entries => do
    let entries ← namedEntries? entries
    some ⟨← optionalField? textOf? "staging" entries, ← optionalField? textOf? "output" entries,
      ← optionalField? booleanOf? "show_hidden" entries,
      ← optionalField? Analyzers.ofNode? "analyzers" entries⟩
  | .sequence (staging :: output :: hidden :: rest) => do
    let analyzers ← match rest with
      | [] => some none
      | [n] => optional? Analyzers.ofNode? n
      | _ => none
    some ⟨← optional? textOf? staging, ← optional? textOf? output, ← optional? booleanOf? hidden,
      analyzers⟩
  | _ => none

/-- The settings of a YAML text; an empty document says nothing. -/
def File.ofYaml? (text : String) : Option File :=
  match Yaml.Node.ofText? text with
  | none => none
  | some none => some .empty
  | some (some n) => File.ofNode? n

end Settings
end LintWorkspace
