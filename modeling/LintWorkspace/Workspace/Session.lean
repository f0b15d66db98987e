/-
# Sessions: callers, reloads and a listener

A session is a workspace at work.  A listener hears every update at once and may
ask for more before the reload that is being announced counts as over, so work
may come for a project whose queue is being drained.

What is left to do stands on an agenda, the next task first.  A task is replaced
by the tasks it leads to:

| task | leads to |
| --- | --- |
| a notification | scheduling every affected project, in any order |
| scheduling | draining the queue, unless someone drains it already |
| draining | nothing on an empty queue; otherwise finishing one reload, then draining |
| finishing | what the listener asks for when it hears the update |

The projects that a notification affects are reloaded side by side, so nothing is
said about their order: a step takes it as an argument (`stepIn`).

The listener has a memory of its own, in which it keeps the answers it is told.
Anything that happens outside the workspace between two tasks, such as an edit of
a file, is a visit: it sees the whole workspace and may change the disk.
-/

import LintWorkspace.Workspace.Basic

namespace LintWorkspace
namespace Session

/-- What may be asked of a workspace.  Each request is told its answer. -/
inductive Request (μ : Type) where
  | addProject (path : Path) (told : Except ProjectFault String → μ → μ)
  | notify (changes : List Change) (told : μ → μ)
  /-- the packages of a project have been restored: everything is to be built again -/
  | restored (id : String) (told : Except ProjectFault Unit → μ → μ)
  | visit (act : Workspace → μ → Disk × μ)

/-- What is left to do. -/
inductive Task (μ : Type) where
  | answer (request : Request μ)
  | tell (told : μ → μ)
  | schedule (id : String) (scope : Scope)
  | drain (id : String)
  | finish (id : String) (scope : Scope)

/-- What a listener asks for when it hears an update. -/
abbrev Listener (μ : Type) := Update → μ → List (Request μ) × μ

/-- The listener that asks for nothing and keeps the updates in order. -/
def recorder : Listener (List Update) := fun u heard => ([], heard ++ [u])

/-- An order in which work that is to be done side by side comes. -/
structure Order where
  arrange : List (String × Scope) → List (String × Scope)
  perm : ∀ work, (arrange work).Perm work

/-- The order in which the work is given: that of the ids. -/
def Order.byId : Order := ⟨id, fun _ => .refl _⟩

theorem Order.mem_arrange (order : Order) {work : List (String × Scope)} {e : String × Scope} :
    e ∈ order.arrange work ↔ e ∈ work := (order.perm work).mem_iff

/-- Every project comes once, whatever the order. -/
theorem Order.nodup_arrange (order : Order) {work : List (String × Scope)}
    (h : (work.map Prod.fst).Nodup) : ((order.arrange work).map Prod.fst).Nodup :=
  ((order.perm work).map Prod.fst).nodup_iff.2 h

end Session

/-- A workspace at work, with the memory of its listener. -/
structure Session (μ : Type) where
  workspace : Workspace
  memory : μ
  agenda : List (Session.Task μ)

namespace Session

variable {μ : Type}

/-- Nothing is left to do. -/
def isDone (s : Session μ) : Bool := s.agenda.isEmpty

/-- Puts tasks before all others. -/
def push (s : Session μ) (tasks : List (Task μ)) : Session μ :=
  { s with agenda := tasks ++ s.agenda }

/-- Tells the listener's memory something. -/
def tell (s : Session μ) (told : μ → μ) : Session μ := { s with memory := told s.memory }

/-- Lets the listener hear an update; what it asks for comes before all others. -/
def announce (listen : Listener μ) (s : Session μ) (u : Update) : Session μ :=
  let (requests, memory) := listen u s.memory
  { s with memory }.push (requests.map .answer)

/-- Answers a request; affected projects are scheduled in some order. -/
def answer (listen : Listener μ) (s : Session μ) (order : Order) : Request μ → Session μ
  | .addProject path told =>
    match s.workspace.addProject path with
    | (workspace, .error fault) => { s with workspace }.tell (told (.error fault))
    | (workspace, .ok u) =>
      announce listen ({ s with workspace }.push [.tell (told (.ok u.project))]) u
  | .notify changes told =>
    let work := order.arrange (s.workspace.affected changes)
    s.push (work.map (fun e => .schedule e.1 e.2) ++ [.tell told])
  | .restored id told =>
    match s.workspace.project id with
    | .error fault => s.tell (told (.error fault))
    | .ok _ => s.push [.schedule id .full, .tell (told (.ok ()))]
  | .visit act =>
    let (disk, memory) := act s.workspace s.memory
    { s with workspace := s.workspace.overDisk disk, memory }

/-- Does one task. -/
def perform (listen : Listener μ) (s : Session μ) (order : Order) : Task μ → Session μ
  | .answer request => s.answer listen order request
  | .tell told => s.tell told
  | .schedule id scope =>
    match s.workspace.enqueue id scope with
    | (workspace, true) => { s with workspace }.push [.drain id]
    | (workspace, false) => { s with workspace }
  | .drain id =>
    match s.workspace.start id with
    | (workspace, some scope) => { s with workspace }.push [.finish id scope, .drain id]
    | (workspace, none) => { s with workspace }
  | .finish id scope =>
    match s.workspace.finish id scope with
    | (workspace, some u) => announce listen { s with workspace } u
    | (workspace, none) => { s with workspace }

/-- Does the next task; a session that is done stays as it is. -/
def stepIn (listen : Listener μ) (s : Session μ) (order : Order) : Session μ :=
  match s.agenda with
  | [] => s
  | task :: rest => { s with agenda := rest }.perform listen order task

/-- Does the next task, with affected projects in order of their ids. -/
def step (listen : Listener μ) (s : Session μ) : Session μ := s.stepIn listen .byId

/-- Does tasks until none is left, in order of the ids.  The number bounds the tasks: a
listener that keeps asking for more can keep a session at work for ever. -/
def run (listen : Listener μ) : Nat → Session μ → Session μ
  | 0, s => s
  | n + 1, s => if s.isDone then s else run listen n (s.step listen)

/-- A run that is long enough to end is not changed by a longer one. -/
theorem run_of_isDone (listen : Listener μ) (n : Nat) {s : Session μ} (h : s.isDone = true) :
    s.run listen n = s := by
  cases n with
  | zero => rfl
  | succ n => simp [run, h]

theorem run_add (listen : Listener μ) (m n : Nat) (s : Session μ) :
    s.run listen (m + n) = (s.run listen m).run listen n := by
  induction m generalizing s with
  | zero => simp [run]
  | succ m ih =>
    rw [Nat.succ_add, run, run]
    by_cases h : s.isDone = true
    · simp [h, run_of_isDone listen n h]
    · simp [h, ih]

/-- All runs that are long enough end alike. -/
theorem run_eq_of_isDone (listen : Listener μ) {m n : Nat} {s : Session μ}
    (hm : (s.run listen m).isDone = true) (hn : (s.run listen n).isDone = true) :
    s.run listen m = s.run listen n := by
  rw [← run_of_isDone listen n hm, ← run_add, Nat.add_comm, run_add, run_of_isDone listen m hn]

end Session
end LintWorkspace
