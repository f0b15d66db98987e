/-
# Running rules over a text

Every hit of every rule becomes one diagnostic.  Its severity is the one the
ruleset gives to the code, or else the default of the rule.  Diagnostics are
ordered by place and then by code; those that agree in both keep the order of
the rules and of the hits.
-/

import LintWorkspace.Analyzer.Rule
import LintWorkspace.Diagnostic.Basic
import LintWorkspace.Diagnostic.Position
import LintWorkspace.SortedMap

namespace LintWorkspace
namespace Diagnostic

open Analyzer (Rule)

/-- A text with every occurrence of a part replaced, from the left without overlap.  The
number bounds the steps. -/
def replaceFrom (part value : List Char) : Nat → List Char → List Char
  | 0, cs => cs
  | _ + 1, [] => []
  | n + 1, c :: cs =>
    if part.isPrefixOf (c :: cs) then value ++ replaceFrom part value n ((c :: cs).drop part.length)
    else c :: replaceFrom part value n cs

/-- The message of a rule for a hit: `{name}` stands for the text of the hit. -/
def fillName (template : String) (name : List Char) : String :=
  let cs := template.toList
  String.ofList (replaceFrom "\x7bname\x7d".toList name cs.length cs)

/-- The diagnostic for a hit of a rule. -/
def ofHit (file : String) (cs : List Char) (severities : SortedMap Severity) (r : Rule)
    (h : Hit) : Diagnostic :=
  let p := positionAt cs h.offset
  ⟨r.code, (severities.find? r.code).getD r.default, file, p.line, p.column,
    fillName r.message h.text⟩

/-- Whether a diagnostic may stand before another: by line, column and code. -/
def inOrder (a b : Diagnostic) : Bool :=
  if a.line ≠ b.line then a.line < b.line
  else if a.column ≠ b.column then a.column < b.column
  else decide (a.code ≤ b.code)

/-- The diagnostics of rules in their own order. -/
def collect (file : String) (cs : List Char) (severities : SortedMap Severity)
    (rules : List Rule) : List Diagnostic :=
  rules.flatMap fun r => (r.matcher.hits cs).map (ofHit file cs severities r)

/-- The diagnostics of rules for a text, in the order of a report. -/
def analyze (file : String) (text : String) (severities : SortedMap Severity)
    (rules : List Rule) : List Diagnostic :=
  (collect file text.toList severities rules).mergeSort inOrder

end Diagnostic
end LintWorkspace
