/-
# Rules that are ready to run

A rule is ready once the regular expression of its pattern is compiled.
-/

import LintWorkspace.Analyzer.Manifest
import LintWorkspace.Diagnostic.Parameter
import LintWorkspace.Regex.Search

namespace LintWorkspace
namespace Analyzer

/-- What finds the places a rule reports. -/
inductive Matcher where
  | pattern (text : String) (program : Regex.Program)
  | unusedParameter

/-- A rule that is ready to run. -/
structure Rule where
  code : String
  matcher : Matcher
  message : String
  default : Severity

/-- A rule whose pattern cannot be compiled. -/
structure RuleFault where
  code : String
  cause : Regex.PatternFault
deriving DecidableEq

/-- The wording of a fault. -/
def RuleFault.message (f : RuleFault) : String := s!"rule '{f.code}': {f.cause.message}"

/-- Makes a rule ready. -/
def RuleSpec.compile (r : RuleSpec) : Except RuleFault Rule :=
  match r.kind with
  | .unusedParameter => .ok ⟨r.code, .unusedParameter, r.message, r.default⟩
  | .pattern text =>
    match Regex.compile text with
    | .ok program => .ok ⟨r.code, .pattern text program, r.message, r.default⟩
    | .error cause => .error ⟨r.code, cause⟩

open Diagnostic (Hit)

/-- The places in a text that a matcher finds, in order. -/
def Matcher.hits (cs : List Char) : Matcher → List Hit
  | pattern _ program =>
    (Regex.findAll program cs).map fun s => ⟨s.start, (cs.drop s.start).take (s.stop - s.start)⟩
  | unusedParameter => Diagnostic.unusedHits cs

end Analyzer
end LintWorkspace
