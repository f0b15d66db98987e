/-
# Running a command

A command reads the disk, and a check also copies analyzers into the staging tree.
It ends with an exit status:

| status | says |
| --- | --- |
| 0 | done |
| 1 | a check found an error |
| 2 | the ruleset, the project or a file cannot be used |
-/

import LintWorkspace.CommandLine.Command
import LintWorkspace.Report.Ruleset
import LintWorkspace.Settings.Effective
import LintWorkspace.Workspace.Basic

namespace LintWorkspace
namespace CommandLine

/-- How a command ended: its exit status, what it printed, and what it said beside that. -/
structure Ending where
  status : Nat
  printed : String
  said : String
deriving DecidableEq, Repr

/-- The name and the version of the program. -/
def programName : String := "reanalyze"

@[inherit_doc programName]
def programVersion : String := "0.1.0"

/-- A line that says why a command failed. -/
def errorLine (color : Bool) (message : String) : String :=
  Report.errorLabel color ++ " " ++ message ++ "\n"

/-- A line that says something by the way. -/
def noteLine (color : Bool) (message : String) : String :=
  Report.noteLabel color ++ " " ++ message ++ "\n"

/-- Resolves a ruleset and prints it. -/
def runRuleset (d : Disk) (color : Bool) (path : String) (root output : Option String) :
    Ending :=
  let settings := Settings.resolve d ⟨root, output, none, none⟩
  match (Ruleset.resolve d ((Path.ofText path).normalize d.cwd)).1 with
  | .ok r => ⟨0, r.text d.cwd color (.ofText settings.output), ""⟩
  | .error fault => ⟨2, "", errorLine color fault.message⟩

/-- The settings of a check. -/
def CheckCommand.settings (d : Disk) (c : CheckCommand) : Settings.Effective :=
  Settings.resolve d
    ⟨c.root, c.output, if c.showHidden then some true else none,
      if c.noAnalyzers then some true else none⟩

/-- The note on missing settings. -/
def settingsNote (d : Disk) (color : Bool) (settings : Settings.Effective) : String :=
  if (Settings.load? d settings.root).isNone && settings.output ≠ "json" then
    noteLine color "No reanalyze.toml found; using defaults."
  else ""

/-- The status of a check that was done. -/
def checkStatus (c : Report.Check) : Nat := if c.summary.errors > 0 then 1 else 0

/-- Checks a project that is open and prints the report. -/
def runCheckOn (w : Workspace) (color : Bool) (settings : Settings.Effective) (id : String)
    (files : List String) : Ending :=
  match w.check id (files.map Path.ofText) with
  | .error fault => ⟨2, "", errorLine color fault.message⟩
  | .ok c =>
    ⟨checkStatus c, c.text w.disk.cwd color (.ofText settings.output) settings.showHidden, ""⟩

/-- Opens a project, checks it and prints the report. -/
def runCheck (d : Disk) (color : Bool) (c : CheckCommand) : Disk × Ending :=
  let settings := c.settings d
  let note := settingsNote d color settings
  match (Workspace.empty ⟨settings.staging, settings.analyzersEnabled⟩ d).addProject
      (.ofText c.project) with
  | (w, .error fault) => (w.disk, ⟨2, "", note ++ errorLine color fault.message⟩)
  | (w, .ok u) =>
    let failures := match w.snapshot u.project with
      | .ok s => String.join (s.failures.map fun f => noteLine color f.message)
      | .error _ => ""
    let ending := runCheckOn w color settings u.project c.files
    (w.disk, { ending with said := note ++ failures ++ ending.said })

/-- Runs a command. -/
def run (d : Disk) (color : Bool) : Command → Disk × Ending
  | .program => (d, ⟨0, programName ++ " " ++ programVersion ++ "\n", ""⟩)
  | .version => (d, ⟨0, programVersion ++ "\n", ""⟩)
  | .ruleset path root output => (d, runRuleset d color path root output)
  | .check command => runCheck d color command

end CommandLine
end LintWorkspace
