/-
# The queue of a project

A queue holds one pending scope and says whether someone works on it.  Work that
arrives while a reload runs is merged into the pending scope.  Who enqueues while
nobody works on the queue has to drain it: to take the pending scope again and
again until there is none.
-/

import LintWorkspace.Workspace.Scope

namespace LintWorkspace

/-- The pending work of a project, and whether someone works on it. -/
structure Queue where
  pending : Option Scope
  running : Bool
deriving DecidableEq, Repr

namespace Queue

/-- The queue without work. -/
def empty : Queue := ⟨none, false⟩

/-- Merges work into the queue; answers whether the caller has to drain it. -/
def enqueue (q : Queue) (s : Scope) : Queue × Bool :=
  let pending := match q.pending with
    | some p => p.merge s
    | none => s
  (⟨some pending, true⟩, !q.running)

/-- Takes the pending work; a queue without work is no longer worked on. -/
def next (q : Queue) : Queue × Option Scope :=
  match q.pending with
  | some s => (⟨none, q.running⟩, some s)
  | none => (⟨none, false⟩, none)

end Queue
end LintWorkspace
