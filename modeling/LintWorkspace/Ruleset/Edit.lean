/-
# Editing ruleset documents in place

Two edits change a document and leave everything else in it as it is written:
`setSeverity` gives every rule of one code another action, `redirectImport` points
one import elsewhere.

A value that is there keeps its place and the gaps around it.  A rule without an
action gets one after its other entries.  An action that is written as a table
gives way to the plain one.  Rules are found as `[[rules]]` sections or as inline
tables in a list.

An edit that fails leaves the disk alone.  The edited text has plain line breaks
outside of its values, and ends each of its lines with one.
-/

import LintWorkspace.Ruleset.Document
import LintWorkspace.Toml.Quoting

namespace LintWorkspace
namespace Toml

/-- The value that writes a string. -/
def Node.ofString (s : String) : Node := .scalar (quote s.toList) (.string s)

/-- Whether a value is a given string. -/
def Node.isString (s : String) : Node → Bool
  | .scalar _ (.string t) => t = s
  | _ => false

/-- Whether a key leads below a name. -/
def Key.isBelow (name : String) (k : Key) : Bool := k.length ≠ 1 && k.names.head? = some name

/-- A key of one name, with gaps around it. -/
def Key.plain (before : List Char) (name : String) (after : List Char) : Key :=
  [⟨before, name.toList, after, name⟩]

end Toml

namespace Ruleset

open Toml (Node Key Entry Section Spaced)

/-- Whether a key with its value gives a rule its code. -/
def givesCode (code : String) (key : Key) (value : Spaced Node) : Bool :=
  key.names = ["code"] && value.value.isString code

/-- The entries of a `[[rules]]` section with the action set. -/
def entriesWithAction (action : String) (entries : List Entry) : List Entry :=
  let node := Node.ofString action
  let added : Entry := ⟨[], .plain [] "action" [' '], [' '], node, []⟩
  if entries.any fun e => e.key.names = ["action"] then
    entries.map fun e =>
      if e.key.names = ["action"] then { e with value := { e.value with value := node } } else e
  else if entries.any fun e => e.key.isBelow "action" then
    let first := entries.takeWhile fun e => !e.key.isBelow "action"
    let rest := entries.dropWhile fun e => !e.key.isBelow "action"
    first ++ added :: rest.filter fun e => !e.key.isBelow "action"
  else entries ++ [added]

/-- The fields of an inline table with the action set. -/
def fieldsWithAction (action : String) (fields : List (Key × Spaced Node)) :
    List (Key × Spaced Node) :=
  let node := Node.ofString action
  let added (before : List Char) (last : Bool) : Key × Spaced Node :=
    (.plain before "action" [' '], ⟨[' '], node, if last then [' '] else []⟩)
  if fields.any fun f => f.1.names = ["action"] then
    fields.map fun f =>
      if f.1.names = ["action"] then (f.1, { f.2 with value := node }) else f
  else if fields.any fun f => f.1.isBelow "action" then
    let first := fields.takeWhile fun f => !f.1.isBelow "action"
    let rest := fields.dropWhile fun f => !f.1.isBelow "action"
    let kept := rest.filter fun f => !f.1.isBelow "action"
    let before := ((rest.head?.bind fun f => f.1.head?).map Toml.KeyPart.before).getD [' ']
    first ++ added before kept.isEmpty :: kept
  else fields ++ [added [' '] true]

/-- The sections of a document with the action of every rule of a code set.  The flag says
whether the rule that the sections add to has the code. -/
def sectionsWithAction (code action : String) : Bool → List Section → List Section
  | _, [] => []
  | inside, s :: sections =>
    if s.ofArray && s.key.names = ["rules"] then
      let hit := s.entries.any fun e => givesCode code e.key e.value
      let plain := s.entries.any fun e => e.key.names = ["action"]
      let s := if hit then { s with entries := entriesWithAction action s.entries } else s
      s :: sectionsWithAction code action (hit && !plain) sections
    else if inside && ["rules", "action"].isPrefixOf s.key.names then
      sectionsWithAction code action inside sections
    else s :: sectionsWithAction code action inside sections

/-- Whether a section is a rule of a code. -/
def isRuleSection (code : String) (s : Section) : Bool :=
  s.ofArray && s.key.names = ["rules"] && s.entries.any fun e => givesCode code e.key e.value

/-- Whether a value is an inline table that is a rule of a code. -/
def isRuleNode (code : String) : Node → Bool
  | .table fields _ _ => fields.any fun f => givesCode code f.1 f.2
  | _ => false

/-- A rule that is an inline table, with the action set. -/
def nodeWithAction (action : String) : Node → Node
  | .table fields comma tail => .table (fieldsWithAction action fields) comma tail
  | node => node

/-- A list of rules with the action of every rule of a code set; nothing if there is none. -/
def listWithAction? (code action : String) : Node → Option Node
  | .array items comma tail =>
    if items.any fun i => isRuleNode code i.value then
      some (.array (items.map fun i =>
        if isRuleNode code i.value then { i with value := nodeWithAction action i.value } else i)
        comma tail)
    else none
  | _ => none

/-- The entries with the value under a top-level name changed; nothing if the name is not
there or its value cannot be changed. -/
def changeValue? (name : String) (change : Node → Option Node) (entries : List Entry) :
    Option (List Entry) := do
  let e ← entries.find? fun e => e.key.names = [name]
  let node ← change e.value.value
  some (entries.map fun e =>
    if e.key.names = [name] then { e with value := { e.value with value := node } } else e)

/-- The document with the action of every rule of a code set; nothing if there is none. -/
def withAction? (code : String) (s : Severity) (doc : Toml.Document) : Option Toml.Document :=
  if doc.sections.any (isRuleSection code) then
    some { doc with sections := sectionsWithAction code s.text false doc.sections }
  else (changeValue? "rules" (listWithAction? code s.text) doc.entries).map fun entries =>
    { doc with entries }

/-- A list with one element set to a string; nothing if it is too short. -/
def withElement? (index : Nat) (text : String) : Node → Option Node
  | .array items comma tail =>
    if index < items.length then
      some (.array (items.modify index fun i => { i with value := .ofString text }) comma tail)
    else none
  | _ => none

/-- The document with one import set; nothing if there is none at the index. -/
def withImport? (index : Nat) (target : String) (doc : Toml.Document) : Option Toml.Document :=
  (changeValue? "imports" (withElement? index target) doc.entries).map fun entries =>
    { doc with entries }

/-- Reads the document at a path for editing. -/
def readForEdit (d : Disk) (path : Path) : Except RulesetFault Toml.Document :=
  match d.readText path with
  | .error fault => .error (.invalid path (.unreadable fault))
  | .ok text =>
    match (Toml.Document.ofText? .oneLine text.toList).filter fun doc => doc.fields?.isSome with
    | some doc => .ok doc
    | none => .error (.invalid path (.unloadable .malformed))

/-- Edits the document at a path; the fault is for an edit that finds nothing to change. -/
def edit (d : Disk) (path : Path) (fault : RulesetFault)
    (change : Toml.Document → Option Toml.Document) : Except RulesetFault Disk := do
  let doc ← readForEdit d path
  match change doc with
  | none => .error fault
  | some doc =>
    match d.writeFile path (String.ofList doc.unixText).toUTF8 with
    | .ok d => .ok d
    | .error fault => .error (.invalid path (.unreadable fault))

/-- Gives every rule of a code in the document at a path another action. -/
def setSeverity (d : Disk) (path : Path) (code : String) (s : Severity) :
    Except RulesetFault Disk :=
  edit d path (.noRule path code) (withAction? code s)

/-- Points the import at an index of the document at a path elsewhere. -/
def redirectImport (d : Disk) (path : Path) (index : Nat) (target : String) :
    Except RulesetFault Disk :=
  edit d path (.noImport path index) (withImport? index target)

end Ruleset
end LintWorkspace
