/-
# Open projects

An open project has a current snapshot, a queue of work, and what it remembers of
a reload that failed: the scope of that reload, which every later reload takes on
as well, and the documents that an attempt to resolve the ruleset reached, which
are watched for a repair.

| a change at | asks for |
| --- | --- |
| the definition | everything |
| a document of the ruleset, or one an attempt reached | the ruleset |
| a declared analyzer, or a directory above one | the analyzers |
| a path that the patterns match, unless it was only modified | the sources |
| any other path | nothing |

The first line that fits decides.

A reload that succeeds publishes the next version of the snapshot.  One that
fails keeps the snapshot, and the project is degraded until a reload succeeds.
-/

import LintWorkspace.Project.Build
import LintWorkspace.Update.Basic
import LintWorkspace.Workspace.Queue

namespace LintWorkspace

/-- What happened to a file. -/
inductive Change.Kind where
  | added
  | modified
  | deleted
  | renamed
deriving DecidableEq, Repr

/-- The report that something happened to the file at a path. -/
structure Change where
  path : Path
  kind : Change.Kind
deriving DecidableEq, Repr

/-- How a project stands. -/
inductive Status where
  | idle
  | reloading
  /-- the last reload failed; the last good snapshot is still the current one -/
  | degraded (fault : ProjectFault)
deriving DecidableEq

/-- Whether the last reload failed. -/
def Status.isFaulty : Status → Bool
  | degraded _ => true
  | _ => false

/-- A project that is open in a workspace. -/
structure OpenProject where
  snapshot : Project.Snapshot
  queue : Queue
  status : Status
  /-- the documents reached by the last resolution that failed -/
  attempted : List Location
  /-- the work still owed: the scope of the last reload, if it failed -/
  owed : Scope
  /-- the number of updates so far -/
  sequence : Nat

namespace OpenProject

/-- A project that was just opened with its first snapshot. -/
def first (s : Project.Snapshot) : OpenProject :=
  { snapshot := { s with version := 1 }
    queue := .empty
    status := .idle
    attempted := []
    owed := .none
    sequence := 1 }

/-- What a change at a location asks for. -/
def workFor (p : OpenProject) (l : Location) (kind : Change.Kind) : Scope :=
  let s := p.snapshot
  if l = s.definition then .full
  else if s.hasDocument l.toPath || p.attempted.contains l then .rulesetOnly
  else if s.hasAnalyzer l.toPath || s.analyzerPaths.any (fun a => a.isWithin l) then
    .analyzersOnly
  else if kind ≠ .modified && s.admits l.toPath then .sourcesOnly
  else .none

/-- What a batch of changes asks for. -/
def workForAll (p : OpenProject) (changes : List (Location × Change.Kind)) : Scope :=
  changes.foldl (fun scope c => scope.merge (p.workFor c.1 c.2)) .none

/-- Takes work into the queue; answers whether the caller has to drain it. -/
def enqueue (p : OpenProject) (scope : Scope) : OpenProject × Bool :=
  let (queue, drain) := p.queue.enqueue scope
  ({ p with queue }, drain)

/-- Starts on the pending work, if there is any; answers the scope of the reload, which
takes on the work that failed before. -/
def start (p : OpenProject) : OpenProject × Option Scope :=
  match p.queue.next with
  | (queue, none) => ({ p with queue }, none)
  | (queue, some scope) => ({ p with queue, status := .reloading }, some (scope.merge p.owed))

/-- The project after a reload of a scope that made a snapshot. -/
def publish (p : OpenProject) (scope : Scope) (s : Project.Snapshot) : OpenProject :=
  { p with
    snapshot := { s with version := p.snapshot.version + 1 }
    status := .idle
    attempted := if scope.ruleset then [] else p.attempted
    owed := .none
    sequence := p.sequence + 1 }

/-- The project after a reload of a scope that failed. -/
def degrade (p : OpenProject) (scope : Scope) (fault : Project.BuildFault) : OpenProject :=
  { p with
    status := .degraded fault.cause
    attempted := fault.reached.getD p.attempted
    owed := scope
    sequence := p.sequence + 1 }

/-- The project after a reload of a scope that ended with a result. -/
def settle (p : OpenProject) (scope : Scope) :
    Except Project.BuildFault Project.Snapshot → OpenProject
  | .ok s => p.publish scope s
  | .error fault => p.degrade scope fault

/-- How the last reload ended, as it is announced. -/
def outcome (p : OpenProject) : Outcome :=
  match p.status with
  | .degraded fault => .degraded p.snapshot.version fault.message
  | _ => .published p.snapshot.version

/-- The announcement of the last reload. -/
def update (p : OpenProject) : Update := ⟨p.snapshot.id, p.sequence, p.outcome⟩

@[simp] theorem snapshot_enqueue (p : OpenProject) (scope : Scope) :
    (p.enqueue scope).1.snapshot = p.snapshot := rfl

@[simp] theorem status_enqueue (p : OpenProject) (scope : Scope) :
    (p.enqueue scope).1.status = p.status := rfl

@[simp] theorem attempted_enqueue (p : OpenProject) (scope : Scope) :
    (p.enqueue scope).1.attempted = p.attempted := rfl

@[simp] theorem owed_enqueue (p : OpenProject) (scope : Scope) :
    (p.enqueue scope).1.owed = p.owed := rfl

@[simp] theorem sequence_enqueue (p : OpenProject) (scope : Scope) :
    (p.enqueue scope).1.sequence = p.sequence := rfl

/-- Work in the queue is worked on. -/
@[simp] theorem running_enqueue (p : OpenProject) (scope : Scope) :
    (p.enqueue scope).1.queue.running = true := rfl

/-- Whoever finds nobody at work has to drain the queue. -/
theorem drains_enqueue (p : OpenProject) (scope : Scope) :
    (p.enqueue scope).2 = !p.queue.running := rfl

/-- What waits in a queue after work was taken in covers that work and what waited before. -/
theorem pending_enqueue (p : OpenProject) (scope : Scope) :
    ∃ e, (p.enqueue scope).1.queue.pending = some e ∧ e.covers scope = true ∧
      ∀ q, p.queue.pending = some q → e.covers q = true := by
  cases h : p.queue.pending with
  | none => exact ⟨scope, by simp [enqueue, Queue.enqueue, h], by simp [Scope.covers_iff], by simp⟩
  | some q =>
    refine ⟨q.merge scope, by simp [enqueue, Queue.enqueue, h], Scope.covers_merge_right q scope,
      ?_⟩
    rintro q' ⟨⟩
    exact Scope.covers_merge_left q scope

/-- A change at the definition asks for everything. -/
theorem workFor_definition (p : OpenProject) (kind : Change.Kind) :
    p.workFor p.snapshot.definition kind = .full := if_pos rfl

/-- A change at a watched document asks for the ruleset at least. -/
theorem covers_workFor {p : OpenProject} {l : Location}
    (h : l ∈ p.snapshot.documents ∨ l ∈ p.attempted) (kind : Change.Kind) :
    (p.workFor l kind).covers .rulesetOnly = true := by
  have hwatched : (p.snapshot.hasDocument l.toPath || p.attempted.contains l) = true := by
    rw [Bool.or_eq_true]
    exact h.imp Project.Snapshot.hasDocument_of_mem (fun h => by simpa using h)
  simp only [workFor, hwatched, if_true]
  split <;> rfl

/-- A change at a document that is not the definition asks for the ruleset alone. -/
theorem workFor_document {p : OpenProject} {l : Location} (hl : l ∈ p.snapshot.documents)
    (hdef : l ≠ p.snapshot.definition) (kind : Change.Kind) :
    p.workFor l kind = .rulesetOnly := by
  have hdoc : p.snapshot.hasDocument l.toPath = true := Project.Snapshot.hasDocument_of_mem hl
  simp [workFor, hdef, hdoc]

/-- A batch asks for what each of its changes asks for. -/
theorem covers_workForAll (p : OpenProject) {changes : List (Location × Change.Kind)}
    {c : Location × Change.Kind} (hc : c ∈ changes) :
    (p.workForAll changes).covers (p.workFor c.1 c.2) = true := by
  have h := Scope.covers_foldl_merge_of_mem (fun c => p.workFor c.1 c.2) hc .none
  rwa [workForAll]

theorem start_of_pending_eq_none {p : OpenProject} (h : p.queue.pending = none) :
    p.start = ({ p with queue := .empty }, none) := by
  simp [start, Queue.next, h, Queue.empty]

/-- A reload takes on the work that waited and the work owed. -/
theorem start_of_pending_eq_some {p : OpenProject} {scope : Scope}
    (h : p.queue.pending = some scope) :
    p.start = ({ p with queue := ⟨none, p.queue.running⟩, status := .reloading },
      some (scope.merge p.owed)) := by
  simp [start, Queue.next, h]

@[simp] theorem snapshot_start (p : OpenProject) : p.start.1.snapshot = p.snapshot := by
  unfold start
  split <;> rfl

@[simp] theorem outcome_publish (p : OpenProject) (scope : Scope) (s : Project.Snapshot) :
    (p.publish scope s).outcome = .published (p.snapshot.version + 1) := rfl

@[simp] theorem outcome_degrade (p : OpenProject) (scope : Scope) (fault : Project.BuildFault) :
    (p.degrade scope fault).outcome = .degraded p.snapshot.version fault.cause.message := rfl

/-- A reload that fails keeps the snapshot. -/
@[simp] theorem snapshot_degrade (p : OpenProject) (scope : Scope) (fault : Project.BuildFault) :
    (p.degrade scope fault).snapshot = p.snapshot := rfl

/-- However a reload ends, the work that came meanwhile stays in the queue. -/
@[simp] theorem queue_settle (p : OpenProject) (scope : Scope)
    (result : Except Project.BuildFault Project.Snapshot) :
    (p.settle scope result).queue = p.queue := by
  cases result <;> rfl

/-- Every reload is one more update. -/
@[simp] theorem sequence_settle (p : OpenProject) (scope : Scope)
    (result : Except Project.BuildFault Project.Snapshot) :
    (p.settle scope result).sequence = p.sequence + 1 := by
  cases result <;> rfl

end OpenProject
end LintWorkspace
