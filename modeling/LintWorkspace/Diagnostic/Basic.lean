/-
# Diagnostics

What an analysis reports: a code with its severity, at a place in a file.
-/

import LintWorkspace.Severity

namespace LintWorkspace

/-- One finding.  Lines and columns count from one. -/
structure Diagnostic where
  code : String
  severity : Severity
  file : String
  line : Nat
  column : Nat
  message : String
deriving DecidableEq, Repr

end LintWorkspace
