/-
# The two reports on a check agree

A check is reported as an object and as lines for people, and it decides how the command ends.
All three say the same of the findings:

| what | says |
| --- | --- |
| the object | reads back as project, listed findings and summary (`ofJson?_json`) |
| the lines | one for each listed finding, in order, and one for the summary (`lines_eq`) |
| the status | 1 if the summary counts an error (`checkStatus_eq_one_iff`) |

The object filters the findings and the lines skip some of them on the way; both list the same
ones (`Check.listed`).  The summary is counted finding by finding (`Summary.tally`), over all of
them, so that it does not depend on whether hidden ones are listed.
-/

import LintWorkspace.CommandLine.Run

namespace LintWorkspace

namespace Report

/-! ### The summary -/

namespace Summary

/-- The count of a severity. -/
def countOf (s : Summary) : Severity → Nat
  | .error => s.errors
  | .warn => s.warnings
  | .info => s.infos
  | .hidden => s.hidden

/-- The findings that are counted. -/
def total (s : Summary) : Nat := s.errors + s.warnings + s.infos + s.hidden

/-- The counts on a line. -/
def line (color : Bool) (project : String) (s : Summary) : String :=
  styled color [.bold]
    (s!"— Summary — project={project} errors={s.errors} warnings={s.warnings} " ++
      s!"infos={s.infos} hidden={s.hidden} files={s.files}")

variable {s : Summary} {d : Diagnostic} {ds : List Diagnostic} {files : Nat}

theorem countOf_add (s : Summary) (d : Diagnostic) (severity : Severity) :
    (s.add d).countOf severity = s.countOf severity + if d.severity = severity then 1 else 0 := by
  unfold add
  cases d.severity <;> cases severity <;> rfl

theorem total_add (s : Summary) (d : Diagnostic) : (s.add d).total = s.total + 1 := by
  unfold add total
  cases d.severity <;> simp only <;> omega

theorem files_add (s : Summary) (d : Diagnostic) : (s.add d).files = s.files := by
  unfold add
  cases d.severity <;> rfl

/-- A run of counting adds the number of findings of every severity. -/
theorem countOf_foldl_add (s : Summary) (ds : List Diagnostic) (severity : Severity) :
    (ds.foldl add s).countOf severity =
      s.countOf severity + ds.countP fun d => d.severity = severity := by
  induction ds generalizing s with
  | nil => rfl
  | cons d ds ih =>
    rw [List.foldl_cons, ih, countOf_add, List.countP_cons]
    simp only [decide_eq_true_eq]
    omega

theorem total_foldl_add (s : Summary) (ds : List Diagnostic) :
    (ds.foldl add s).total = s.total + ds.length := by
  induction ds generalizing s with
  | nil => rfl
  | cons d ds ih =>
    rw [List.foldl_cons, ih, total_add, List.length_cons]
    omega

theorem files_foldl_add (s : Summary) (ds : List Diagnostic) :
    (ds.foldl add s).files = s.files := by
  induction ds generalizing s with
  | nil => rfl
  | cons d ds ih => rw [List.foldl_cons, ih, files_add]

/-- The counts are the numbers of findings of each severity. -/
theorem countOf_tally (files : Nat) (ds : List Diagnostic) (severity : Severity) :
    (tally files ds).countOf severity = ds.countP fun d => d.severity = severity := by
  rw [tally, countOf_foldl_add]
  cases severity <;> exact Nat.zero_add _

/-- The counts add up to the number of findings. -/
theorem total_tally (files : Nat) (ds : List Diagnostic) : (tally files ds).total = ds.length := by
  rw [tally, total_foldl_add]
  exact Nat.zero_add _

theorem files_tally (files : Nat) (ds : List Diagnostic) : (tally files ds).files = files :=
  files_foldl_add _ ds

end Summary

/-! ### Reading a report -/

/-- What a report says. -/
structure Reported where
  project : String
  diagnostics : List Diagnostic
  summary : Summary
deriving DecidableEq, Repr

/-- The lines of a report: one for each finding that it lists, then the summary. -/
def Reported.lines (cwd : Location) (color : Bool) (r : Reported) : List String :=
  r.diagnostics.map (Check.diagnosticLine cwd color) ++ [r.summary.line color r.project]

/-- The value of a field of an object. -/
def field? (name : String) : Json → Option Json
  | .object fields => (fields.find? fun f => f.1 = name).map Prod.snd
  | _ => none

/-- A text in a field. -/
def textAt? (name : String) (j : Json) : Option String :=
  match field? name j with
  | some (.string s) => some s
  | _ => none

/-- A number in a field that counts something. -/
def countAt? (name : String) (j : Json) : Option Nat :=
  match field? name j with
  | some (.number n) => n.toNat?
  | _ => none

/-- The elements of a list in a field. -/
def itemsAt? (name : String) (j : Json) : Option (List Json) :=
  match field? name j with
  | some (.array items) => some items
  | _ => none

/-- Reads a finding. -/
def diagnosticOfJson? (j : Json) : Option Diagnostic := do
  let severity ← (Severity.ofText (← textAt? "severity" j)).toOption
  return ⟨← textAt? "code" j, severity, ← textAt? "file" j, ← countAt? "line" j,
    ← countAt? "column" j, ← textAt? "message" j⟩

/-- Reads a summary. -/
def Summary.ofJson? (j : Json) : Option Summary := do
  return ⟨← countAt? "errors" j, ← countAt? "warnings" j, ← countAt? "infos" j,
    ← countAt? "hidden" j, ← countAt? "files" j⟩

/-- Reads a report. -/
def Reported.ofJson? (j : Json) : Option Reported := do
  let items ← itemsAt? "diagnostics" j
  return ⟨← textAt? "project" j, ← items.mapM diagnosticOfJson?,
    ← Summary.ofJson? (← field? "summary" j)⟩

namespace Check

/-- The findings that a report lists. -/
def listed (c : Check) (showHidden : Bool) : List Diagnostic :=
  c.diagnostics.filter fun d => showHidden || d.severity ≠ .hidden

/-- **Skipping on the way** leaves the findings that are listed. -/
theorem diagnosticLines_eq (cwd : Location) (color showHidden : Bool) (c : Check) :
    diagnosticLines cwd color showHidden c.diagnostics =
      (c.listed showHidden).map (diagnosticLine cwd color) := by
  rw [listed]
  induction c.diagnostics with
  | nil => rfl
  | cons d ds ih =>
    rw [diagnosticLines, ih, List.filter_cons]
    cases showHidden <;> cases hd : d.severity <;> simp

/-- The report on a check. -/
def reported (c : Check) (showHidden : Bool) : Reported :=
  { project := c.project
    diagnostics := if showHidden then c.diagnostics
      else c.diagnostics.filter fun d => d.severity ≠ .hidden
    summary := c.summary }

theorem listed_eq (c : Check) (showHidden : Bool) :
    c.listed showHidden = (c.reported showHidden).diagnostics := by
  cases showHidden
  · simp [listed, reported]
  · simp [listed, reported]

/-- A finding is read back from its object. -/
theorem diagnosticOfJson?_json (d : Diagnostic) :
    diagnosticOfJson? (diagnosticJson d) = some d := by
  have hseverity : textAt? "severity" (diagnosticJson d) = some d.severity.text := rfl
  have hread : (Severity.ofText d.severity.text).toOption = some d.severity := by
    rw [Severity.ofText_text]
    rfl
  unfold diagnosticOfJson?
  rw [hseverity, Option.bind_eq_bind, Option.bind_some, hread]
  rfl

theorem mapM_diagnosticOfJson? (ds : List Diagnostic) :
    (ds.map diagnosticJson).mapM diagnosticOfJson? = some ds := by
  induction ds with
  | nil => rfl
  | cons d ds ih => rw [List.map_cons, List.mapM_cons, diagnosticOfJson?_json, ih]; rfl

/-- **The report is read back from its object.** -/
theorem ofJson?_json (c : Check) (showHidden : Bool) :
    Reported.ofJson? (c.json showHidden) = some (c.reported showHidden) := by
  have hitems : itemsAt? "diagnostics" (c.json showHidden) =
      some ((c.reported showHidden).diagnostics.map diagnosticJson) := by
    rw [← listed_eq]
    rfl
  unfold Reported.ofJson?
  rw [hitems, Option.bind_eq_bind, Option.bind_some, mapM_diagnosticOfJson?, reported]
  rfl

/-- **The lines for people are those of the same report.** -/
theorem lines_eq (c : Check) (cwd : Location) (color showHidden : Bool) :
    c.lines cwd color showHidden = (c.reported showHidden).lines cwd color := by
  rw [lines, diagnosticLines_eq, listed_eq, Reported.lines]
  rfl

end Check

end Report

/-! ### The status -/

namespace CommandLine

open Report

/-- The status of a check says whether its summary counts an error. -/
theorem checkStatus_eq_one_iff (c : Check) :
    checkStatus c = 1 ↔ ∃ d ∈ c.diagnostics, d.severity = .error := by
  have hcount : c.summary.errors = _ := Summary.countOf_tally c.files c.diagnostics .error
  rw [checkStatus, hcount]
  split
  · rename_i hpos
    simpa using hpos
  · rename_i hpos
    simpa using hpos

/-- The report of a check command, if it comes to one. -/
def checked? (d : Disk) (c : CheckCommand) : Option Check :=
  let settings := c.settings d
  match (Workspace.empty ⟨settings.staging, settings.analyzersEnabled⟩ d).addProject
      (.ofText c.project) with
  | (_, .error _) => none
  | (w, .ok u) => (w.check u.project (c.files.map Path.ofText)).toOption

/-- A project is opened in the working directory of the disk. -/
theorem cwd_addProject (w : Workspace) (path : Path) :
    (w.addProject path).1.disk.cwd = w.disk.cwd := by
  unfold Workspace.addProject
  dsimp only
  split
  · rfl
  · split <;> rfl

/-- **A check command prints the report it makes and ends with its status**; without a report it
prints nothing and ends with status 2. -/
theorem runCheck_eq (d : Disk) (color : Bool) (command : CheckCommand) :
    (runCheck d color command).2.status = (checked? d command).elim 2 checkStatus ∧
      (runCheck d color command).2.printed = (checked? d command).elim "" fun c =>
        c.text d.cwd color (.ofText (command.settings d).output)
          (command.settings d).showHidden := by
  have hcwd := cwd_addProject
    (Workspace.empty ⟨(command.settings d).staging, (command.settings d).analyzersEnabled⟩ d)
    (.ofText command.project)
  unfold runCheck checked?
  dsimp only
  generalize Workspace.addProject _ _ = opened at hcwd ⊢
  obtain ⟨w, fault | u⟩ := opened
  · exact ⟨rfl, rfl⟩
  · have hw : w.disk.cwd = d.cwd := hcwd
    dsimp only [runCheckOn]
    rw [← hw]
    cases w.check u.project (command.files.map Path.ofText) with
    | error fault => exact ⟨rfl, rfl⟩
    | ok c => exact ⟨rfl, rfl⟩

end CommandLine

namespace Report

open CommandLine (checked? runCheck checkStatus CheckCommand)

/-- **The two reports and the status agree.** Both reports on a check say the same: they list
all findings in their order, or all that are not hidden, and give the same summary, which counts
all findings by severity whether hidden ones are listed or not.  The check command prints the
report that it makes, and ends with status 1 if a finding of it, listed or not, is an error. -/
theorem reports_agree (c : Check) :
    (∀ showHidden, Reported.ofJson? (c.json showHidden) = some (c.reported showHidden) ∧
      ∀ cwd color, c.text cwd color .human showHidden =
        String.join (((c.reported showHidden).lines cwd color).map (· ++ "\n"))) ∧
    (c.reported true).diagnostics = c.diagnostics ∧
    (c.reported false).diagnostics = c.diagnostics.filter (fun x => x.severity ≠ .hidden) ∧
    (∀ showHidden, (c.reported showHidden).project = c.project ∧
      (∀ severity, (c.reported showHidden).summary.countOf severity =
        c.diagnostics.countP fun x => x.severity = severity) ∧
      (c.reported showHidden).summary.total = c.diagnostics.length ∧
      (c.reported showHidden).summary.files = c.files) ∧
    (checkStatus c = 1 ↔ ∃ x ∈ c.diagnostics, x.severity = .error) ∧
    ∀ (d : Disk) (color : Bool) (command : CheckCommand),
      ((runCheck d color command).2.status = 1 ↔
        ∃ made, checked? d command = some made ∧ ∃ x ∈ made.diagnostics, x.severity = .error) ∧
      (runCheck d color command).2.printed = (checked? d command).elim "" fun made =>
        made.text d.cwd color (.ofText (command.settings d).output)
          (command.settings d).showHidden := by
  refine ⟨fun showHidden => ⟨Check.ofJson?_json c showHidden, fun cwd color => ?_⟩, rfl, rfl,
    fun showHidden => ⟨rfl, Summary.countOf_tally c.files c.diagnostics,
      Summary.total_tally c.files c.diagnostics, Summary.files_tally c.files c.diagnostics⟩,
    CommandLine.checkStatus_eq_one_iff c, fun d color command => ?_⟩
  · rw [Check.text, Check.lines_eq]
  · obtain ⟨hstatus, hprinted⟩ := CommandLine.runCheck_eq d color command
    refine ⟨?_, hprinted⟩
    rw [hstatus]
    cases checked? d command with
    | none => simp
    | some made => simp [CommandLine.checkStatus_eq_one_iff]

end Report
end LintWorkspace
