/-
# The report on a ruleset

A resolved ruleset is shown as the severity of every code, in order of the codes,
and the documents it was read from.
-/

import LintWorkspace.Json
import LintWorkspace.Path.Display
import LintWorkspace.Report.Style
import LintWorkspace.Ruleset.Resolution

namespace LintWorkspace
namespace Ruleset
namespace Resolved

open Report (Format styled bracketed)

/-- The report as an object. -/
def json (r : Resolved) : Json :=
  .object [("severities", .object (r.severities.entries.map fun e => (e.1, .string e.2.text))),
    ("documents", .array (r.documents.map fun l => .string l.text))]

/-- The lines for people: one for each code, then one for each document. -/
def lines (cwd : Location) (color : Bool) (r : Resolved) : List String :=
  r.severities.entries.map (fun e => bracketed color e.2 ++ " " ++ e.1) ++
    r.documents.map fun l =>
      styled color [.gray] ("document: " ++ l.toPath.shownFrom cwd)

/-- The text of the report. -/
def text (cwd : Location) (color : Bool) (format : Format) (r : Resolved) : String :=
  match format with
  | .json => r.json.pretty ++ "\n"
  | .human => String.join ((r.lines cwd color).map (· ++ "\n"))

end Resolved
end Ruleset
end LintWorkspace
