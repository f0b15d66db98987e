/-
# The report on a check

A check of a project lists the findings and counts them by severity.  Hidden
findings are listed only on request; they are always counted.

| report | hidden findings |
| --- | --- |
| the object | are filtered out before the list is written |
| the lines | are skipped on the way |
| the summary of both | are counted like all others |
-/

import LintWorkspace.Diagnostic.Basic
import LintWorkspace.Json
import LintWorkspace.Path.Display
import LintWorkspace.Report.Style

namespace LintWorkspace
namespace Report

/-- The counts of a report. -/
structure Summary where
  errors : Nat
  warnings : Nat
  infos : Nat
  hidden : Nat
  files : Nat
deriving DecidableEq, Repr

namespace Summary

/-- Counts one more finding. -/
def add (s : Summary) (d : Diagnostic) : Summary :=
  match d.severity with
  | .error => { s with errors := s.errors + 1 }
  | .warn => { s with warnings := s.warnings + 1 }
  | .info => { s with infos := s.infos + 1 }
  | .hidden => { s with hidden := s.hidden + 1 }

/-- Counts findings in so many files, one after the other. -/
def tally (files : Nat) (ds : List Diagnostic) : Summary := ds.foldl add ⟨0, 0, 0, 0, files⟩

/-- A summary as an object. -/
def json (s : Summary) : Json :=
  .object [("errors", .number s.errors), ("warnings", .number s.warnings),
    ("infos", .number s.infos), ("hidden", .number s.hidden), ("files", .number s.files)]

end Summary

/-- What a check of a project found in so many files. -/
structure Check where
  project : String
  diagnostics : List Diagnostic
  files : Nat
deriving DecidableEq, Repr

namespace Check

/-- The summary of a check. -/
def summary (c : Check) : Summary := .tally c.files c.diagnostics

/-- A finding as an object. -/
def diagnosticJson (d : Diagnostic) : Json :=
  .object [("code", .string d.code), ("severity", .string d.severity.text),
    ("file", .string d.file), ("line", .number d.line), ("column", .number d.column),
    ("message", .string d.message)]

/-- The report as an object. -/
def json (c : Check) (showHidden : Bool) : Json :=
  .object [("project", .string c.project),
    ("diagnostics", .array
      ((c.diagnostics.filter fun d => showHidden || d.severity ≠ .hidden).map diagnosticJson)),
    ("summary", c.summary.json)]

/-- A finding on a line. -/
def diagnosticLine (cwd : Location) (color : Bool) (d : Diagnostic) : String :=
  let place := s!"{(Path.ofText d.file).shownFrom cwd}:{d.line}:{d.column}"
  severityMark d.severity ++ " " ++ bracketed color d.severity ++ " " ++
    styled color [.bold] place ++ " ❲" ++ d.code ++ "❳ — " ++ d.message

/-- The findings on lines; a hidden one is skipped unless hidden ones are to be shown. -/
def diagnosticLines (cwd : Location) (color showHidden : Bool) : List Diagnostic → List String
  | [] => []
  | d :: ds =>
    if d.severity = .hidden ∧ !showHidden then diagnosticLines cwd color showHidden ds
    else diagnosticLine cwd color d :: diagnosticLines cwd color showHidden ds

/-- The counts on a line. -/
def summaryLine (color : Bool) (c : Check) : String :=
  let s := c.summary
  styled color [.bold]
    (s!"— Summary — project={c.project} errors={s.errors} warnings={s.warnings} " ++
      s!"infos={s.infos} hidden={s.hidden} files={s.files}")

/-- The lines for people: the findings, then the counts. -/
def lines (cwd : Location) (color showHidden : Bool) (c : Check) : List String :=
  diagnosticLines cwd color showHidden c.diagnostics ++ [summaryLine color c]

/-- The text of the report. -/
def text (cwd : Location) (color : Bool) (format : Format) (showHidden : Bool) (c : Check) :
    String :=
  match format with
  | .json => (c.json showHidden).pretty ++ "\n"
  | .human => String.join ((c.lines cwd color showHidden).map (· ++ "\n"))

end Check
end Report
end LintWorkspace
