/-
# Workspaces

A workspace holds open projects over a disk.  This module has the steps that a
workspace is made of, each of which runs to its end at once:

| step | does |
| --- | --- |
| `addProject` | builds a project and takes it in, if there is none of its id |
| `affected` | finds the projects that changes matter to, with the work they ask for |
| `enqueue` | takes work into the queue of a project |
| `start` | starts on the pending work of a project |
| `finish` | builds, and publishes the snapshot or marks the project degraded |

`LintWorkspace.Workspace.Session` puts them together.  The diagnostics of a file
are always computed from one snapshot and the file as it is on the disk.
-/

import LintWorkspace.Diagnostic.Analysis
import LintWorkspace.Report.Check
import LintWorkspace.Workspace.OpenProject

namespace LintWorkspace

/-- Open projects over a disk. -/
structure Workspace where
  options : Project.Options
  disk : Disk
  /-- the open projects, by their ids -/
  projects : SortedMap OpenProject

namespace Workspace

/-- The workspace without projects. -/
def empty (options : Project.Options) (disk : Disk) : Workspace := ⟨options, disk, .empty⟩

/-- The project of an id. -/
def project (w : Workspace) (id : String) : Except ProjectFault OpenProject :=
  match w.projects.find? id with
  | some p => .ok p
  | none => .error (.unknownProject id)

/-- The current snapshot of a project. -/
def snapshot (w : Workspace) (id : String) : Except ProjectFault Project.Snapshot :=
  (w.project id).map OpenProject.snapshot

/-- The same workspace with one project set. -/
def put (w : Workspace) (id : String) (p : OpenProject) : Workspace :=
  { w with projects := w.projects.insert id p }

/-- The same workspace over changed entries of the disk; the working directory stays. -/
def overDisk (w : Workspace) (d : Disk) : Workspace :=
  { w with disk := { d with cwd := w.disk.cwd } }

/-- Opens the project that a definition defines; answers its first update. -/
def addProject (w : Workspace) (path : Path) : Workspace × Except ProjectFault Update :=
  let definition := path.normalize w.disk.cwd
  match Project.build w.options w.disk none definition with
  | (d, .error fault) => (w.overDisk d, .error fault.cause)
  | (d, .ok s) =>
    let w := w.overDisk d
    match w.projects.find? s.id with
    | some p => (w, .error (.duplicate s.id p.snapshot.definition.toPath))
    | none =>
      let p := OpenProject.first s
      (w.put s.id p, .ok p.update)

/-- The projects that changes matter to, in order of their ids, with the work that the
changes ask for. -/
def affected (w : Workspace) (changes : List Change) : List (String × Scope) :=
  let changes := changes.map fun c => (c.path.normalize w.disk.cwd, c.kind)
  (w.projects.entries.map fun e => (e.1, e.2.workForAll changes)).filter fun e => !e.2.isEmpty

/-- Takes work into the queue of a project; answers whether the caller has to drain it. -/
def enqueue (w : Workspace) (id : String) (scope : Scope) : Workspace × Bool :=
  match w.projects.find? id with
  | none => (w, false)
  | some p =>
    let (p, drain) := p.enqueue scope
    (w.put id p, drain)

/-- Starts on the pending work of a project, if there is any; answers the scope of the
reload. -/
def start (w : Workspace) (id : String) : Workspace × Option Scope :=
  match w.projects.find? id with
  | none => (w, none)
  | some p =>
    let (p, scope) := p.start
    (w.put id p, scope)

/-- Builds a project again and settles the reload of a scope; answers the update. -/
def finish (w : Workspace) (id : String) (scope : Scope) : Workspace × Option Update :=
  match w.projects.find? id with
  | none => (w, none)
  | some p =>
    let (d, result) := Project.rebuild w.options w.disk p.snapshot scope
    let p := p.settle scope result
    ((w.overDisk d).put id p, some p.update)

/-- The diagnostics of a snapshot for the file at a path. -/
def analyze (d : Disk) (s : Project.Snapshot) (file : Path) :
    Except ProjectFault (List Diagnostic) :=
  match d.readText file with
  | .error fault => .error (.read file fault)
  | .ok text => .ok (Diagnostic.analyze file.text text s.severities s.rules)

/-- The diagnostics of a project for the file at a path. -/
def diagnostics (w : Workspace) (id : String) (file : Path) :
    Except ProjectFault (List Diagnostic) := do
  analyze w.disk (← w.snapshot id) file

/-- Checks files of a project, or without files all its sources, by one snapshot. -/
def check (w : Workspace) (id : String) (files : List Path) :
    Except ProjectFault Report.Check := do
  let s ← w.snapshot id
  let targets := if files.isEmpty then s.sources else files.map (·.normalize w.disk.cwd)
  let found ← targets.mapM fun l => analyze w.disk s l.toPath
  return ⟨id, found.flatten, targets.length⟩

@[simp] theorem overDisk_projects (w : Workspace) (d : Disk) :
    (w.overDisk d).projects = w.projects := rfl

/-- Setting a project changes no other. -/
theorem find?_put (w : Workspace) (id other : String) (p : OpenProject) :
    (w.put id p).projects.find? other = if id = other then some p else w.projects.find? other :=
  SortedMap.find?_insert w.projects id other p

theorem find?_enqueue (w : Workspace) (i id : String) (scope : Scope) :
    (w.enqueue i scope).1.projects.find? id =
      (w.projects.find? id).map fun p => if i = id then (p.enqueue scope).1 else p := by
  unfold enqueue
  by_cases hi : i = id
  · subst hi
    cases hp : w.projects.find? i <;> simp [hp, find?_put]
  · cases hq : w.projects.find? i <;> simp [hi, find?_put]

theorem find?_start (w : Workspace) (i id : String) :
    (w.start i).1.projects.find? id =
      (w.projects.find? id).map fun p => if i = id then p.start.1 else p := by
  unfold start
  by_cases hi : i = id
  · subst hi
    cases hp : w.projects.find? i <;> simp [hp, find?_put]
  · cases hq : w.projects.find? i <;> simp [hi, find?_put]

theorem find?_finish (w : Workspace) (i id : String) (scope : Scope) :
    (w.finish i scope).1.projects.find? id = (w.projects.find? id).map fun p =>
      if i = id then p.settle scope (Project.rebuild w.options w.disk p.snapshot scope).2
      else p := by
  unfold finish
  by_cases hi : i = id
  · subst hi
    cases hp : w.projects.find? i <;> simp [hp, find?_put]
  · cases hq : w.projects.find? i <;> simp [hi, find?_put]

theorem find?_of_project {w : Workspace} {id : String} {p : OpenProject}
    (h : w.project id = .ok p) : w.projects.find? id = some p := by
  unfold project at h
  split at h
  · rename_i q hq
    rw [hq, Except.ok.inj h]
  · simp at h

/-- The projects that changes affect are the open ones of which they ask something. -/
theorem mem_affected {w : Workspace} {changes : List Change} {id : String} {scope : Scope} :
    (id, scope) ∈ w.affected changes ↔ scope.isEmpty = false ∧
      ∃ p, w.projects.find? id = some p ∧ scope = p.workForAll
        (changes.map fun c => (c.path.normalize w.disk.cwd, c.kind)) := by
  simp only [affected, List.mem_filter, List.mem_map, Prod.mk.injEq, Bool.not_eq_true',
    Prod.exists, SortedMap.mem_entries_iff]
  constructor
  · rintro ⟨⟨i, p, hp, rfl, rfl⟩, hne⟩
    exact ⟨hne, p, hp, rfl⟩
  · rintro ⟨hne, p, hp, rfl⟩
    exact ⟨⟨id, p, hp, rfl, rfl⟩, hne⟩

/-- **What opening a project does:** nothing to the projects if it fails, and otherwise the first
snapshot is kept under an id that is new. -/
theorem addProject_cases (w : Workspace) (path : Path) :
    (∃ fault, (w.addProject path).2 = .error fault ∧
      (w.addProject path).1.projects = w.projects) ∨
    ∃ s, (Project.build w.options w.disk none (path.normalize w.disk.cwd)).2 = .ok s ∧
      w.projects.find? s.id = none ∧ (w.addProject path).2 = .ok (OpenProject.first s).update ∧
      ∀ id, (w.addProject path).1.projects.find? id =
        if s.id = id then some (.first s) else w.projects.find? id := by
  unfold addProject
  rcases hb : Project.build w.options w.disk none (path.normalize w.disk.cwd) with ⟨d, fault | s⟩
  · exact .inl ⟨fault.cause, by simp [hb]⟩
  · cases hs : w.projects.find? s.id with
    | some q => exact .inl ⟨_, by simp [hb, hs]; rfl⟩
    | none => exact .inr ⟨s, rfl, hs, by simp [hb, hs, find?_put]⟩

/-- Opening a project leaves every other one as it was. -/
theorem find?_addProject (w : Workspace) (path : Path) {id : String} {p : OpenProject}
    (hp : w.projects.find? id = some p) : (w.addProject path).1.projects.find? id = some p := by
  rcases w.addProject_cases path with ⟨fault, -, hsame⟩ | ⟨s, -, hnew, -, hfind⟩
  · rw [hsame, hp]
  · have hid : s.id ≠ id := by
      rintro rfl
      simp [hnew] at hp
    rw [hfind, if_neg hid, hp]

/-- A project that was not open before has its first snapshot. -/
theorem eq_first_of_addProject {w : Workspace} {path : Path} {id : String} {p : OpenProject}
    (hnone : w.projects.find? id = none)
    (hp : (w.addProject path).1.projects.find? id = some p) :
    ∃ s, (Project.build w.options w.disk none (path.normalize w.disk.cwd)).2 = .ok s ∧
      s.id = id ∧ p = OpenProject.first s ∧ (w.addProject path).2 = .ok p.update := by
  rcases w.addProject_cases path with ⟨fault, -, hsame⟩ | ⟨s, hs, -, hupdate, hfind⟩
  · simp [hsame, hnone] at hp
  · rw [hfind, hnone] at hp
    split at hp
    · obtain rfl := Option.some.inj hp
      exact ⟨s, hs, ‹_›, rfl, hupdate⟩
    · simp at hp

/-- A project that is opened was not open before. -/
theorem find?_of_addProject {w : Workspace} {path : Path} {u : Update}
    (h : (w.addProject path).2 = .ok u) :
    w.projects.find? u.project = none ∧
      ∃ p, (w.addProject path).1.projects.find? u.project = some p := by
  rcases w.addProject_cases path with ⟨fault, herror, -⟩ | ⟨s, -, hnew, hupdate, hfind⟩
  · simp [herror] at h
  · obtain rfl : (OpenProject.first s).update = u := Except.ok.inj (hupdate.symm.trans h)
    exact ⟨hnew, _, (hfind _).trans (if_pos rfl)⟩

/-- A project that cannot be opened leaves all projects as they were. -/
theorem projects_addProject_of_error {w : Workspace} {path : Path} {fault : ProjectFault}
    (h : (w.addProject path).2 = .error fault) :
    (w.addProject path).1.projects = w.projects := by
  rcases w.addProject_cases path with ⟨-, -, hsame⟩ | ⟨s, -, -, hupdate, -⟩
  · exact hsame
  · simp [hupdate] at h

end Workspace
end LintWorkspace
