/-
# Projects in order

At every moment of a run the queue, the status and the agenda of an open project
fit together (`orderly`): somebody drains a queue that is worked on, a project is
being reloaded exactly while the end of its reload comes next, and a reload takes
on all the work that is owed.
-/

import LintWorkspace.Proofs.Build
import LintWorkspace.Proofs.Run

namespace LintWorkspace

/-- A project in the middle of a reload of a scope. -/
structure OpenProject.InReload (p : OpenProject) (scope : Scope) : Prop where
  running : p.queue.running = true
  status : p.status = .reloading
  covers_owed : scope.covers p.owed = true
  not_isEmpty : scope.isEmpty = false
  ruleset_of_definition : scope.definition = true → scope.ruleset = true

namespace Session
namespace Run

variable {μ : Type} {r : Run μ} {n : Nat} {id : String} {p : OpenProject} {scope : Scope}

/-- How the queue, the status and the agenda of a project fit together. -/
structure Orderly (r : Run μ) (id : String) (n : Nat) (p : OpenProject) : Prop where
  id_eq : p.snapshot.id = id
  pending : ∀ e, p.queue.pending = some e → p.queue.running = true ∧ e.isEmpty = false
  drain_mem : p.queue.running = true → Task.drain id ∈ (r.state n).agenda
  task_eq : p.status = .reloading → ∃ e, r.task n = some (.finish id e)
  inReload : ∀ e, r.task n = some (.finish id e) → p.InReload e

/-- The reload that is started is the next task. -/
theorem finish_of_started (h : r.task n = some (.drain id))
    (hs : ((r.world n).start id).2 = some scope) :
    r.task (n + 1) = some (.finish id scope) := by
  obtain ⟨rest, he⟩ := List.head?_eq_some_iff.1 h
  obtain ⟨requests, hquiet, hnext⟩ := agenda_step r.listen (r.order n) he
  obtain rfl := hquiet rfl
  rw [task, state_succ_of_cons he, hnext]
  simp only [Task.spawns]
  rw [show (r.state n).workspace = r.world n from rfl, hs]
  rfl

theorem start_world (hp : r.project n id = some p) :
    ((r.world n).start id).2 = p.start.2 := by
  unfold project at hp
  simp [Workspace.start, hp]

theorem enqueue_world (hp : r.project n id = some p) :
    ((r.world n).enqueue id scope).2 = !p.queue.running := by
  unfold project at hp
  simp [Workspace.enqueue, hp, OpenProject.drains_enqueue]

/-- Only draining its queue brings a project into a reload. -/
theorem not_finish_succ {t : Task μ} (ht : r.task n = some t) (hne : t ≠ .drain id) (e : Scope) :
    r.task (n + 1) ≠ some (.finish id e) := by
  intro h
  rw [(started_of_finish h).1, Option.some.injEq] at ht
  exact hne ht.symm

/-! ### What a moment keeps -/

/-- A project that was just opened is in order. -/
theorem orderly_first {path : Path} {told : Except ProjectFault String → μ → μ}
    {s : Project.Snapshot} (ht : r.task n = some (.answer (.addProject path told)))
    (hid : s.id = id) : Orderly r id (n + 1) (.first s) where
  id_eq := hid
  pending := by simp [OpenProject.first, Queue.empty]
  drain_mem := by simp [OpenProject.first, Queue.empty]
  task_eq := by simp [OpenProject.first]
  inReload e he := absurd he (not_finish_succ ht (by simp) e)

namespace Orderly

/-- A task that works on no part of the project keeps it in order. -/
theorem keep (h : Orderly r id n p) (ht : ∀ t, r.task n = some t → t.project? ≠ some id) :
    Orderly r id (n + 1) p :=
  have hnot : ∀ t : Task μ, t.project? = some id → r.task n ≠ some t :=
    fun t hid he => ht t he hid
  { id_eq := h.id_eq
    pending := h.pending
    drain_mem := fun hrun => mem_agenda_succ_of_ne (h.drain_mem hrun) (hnot _ rfl)
    task_eq := fun hs => by
      obtain ⟨e, he⟩ := h.task_eq hs
      exact absurd he (hnot _ rfl)
    inReload := fun e he => absurd (started_of_finish he).1 (hnot _ rfl) }

/-- Work that is taken in finds somebody who drains the queue. -/
theorem enqueue (h : Orderly r id n p) (hp : r.project n id = some p)
    (ht : r.task n = some (.schedule id scope)) : Orderly r id (n + 1) (p.enqueue scope).1 where
  id_eq := h.id_eq
  pending e he := by
    obtain ⟨e', he', hcov, -⟩ := p.pending_enqueue scope
    obtain rfl : e' = e := Option.some.inj (he'.symm.trans he)
    exact ⟨rfl, Scope.not_isEmpty_of_covers hcov
      (not_isEmpty_of_schedule_mem (List.mem_of_mem_head? ht))⟩
  drain_mem _ := by
    by_cases hrun : p.queue.running = true
    · exact mem_agenda_succ_of_ne (h.drain_mem hrun) (by simp [ht])
    · refine mem_agenda_succ_of_spawns ht ?_
      simp [Task.spawns, enqueue_world hp, hrun]
  task_eq hs := by
    obtain ⟨e, he⟩ := h.task_eq hs
    simp [ht] at he
  inReload e he := absurd he (not_finish_succ ht (by simp) e)

/-- A queue in which nothing waits is put to rest. -/
theorem start_of_pending_eq_none (h : Orderly r id n p) (hp : r.project n id = some p)
    (ht : r.task n = some (.drain id)) (hq : p.queue.pending = none) :
    Orderly r id (n + 1) p.start.1 := by
  have hstart : ((r.world n).start id).2 = none := by
    rw [start_world hp, OpenProject.start_of_pending_eq_none hq]
  rw [OpenProject.start_of_pending_eq_none hq]
  exact {
    id_eq := h.id_eq
    pending := by simp [Queue.empty]
    drain_mem := by simp [Queue.empty]
    task_eq := fun hs => by
      obtain ⟨e, he⟩ := h.task_eq hs
      simp [ht] at he
    inReload := fun e he => by
      rw [(started_of_finish he).2] at hstart
      simp at hstart }

/-- What waits in a queue is taken on together with what is owed. -/
theorem start_of_pending_eq_some {q : Scope} (h : Orderly r id n p)
    (hp : r.project n id = some p) (ht : r.task n = some (.drain id))
    (hq : p.queue.pending = some q) : Orderly r id (n + 1) p.start.1 := by
  have hstart : ((r.world n).start id).2 = some (q.merge p.owed) := by
    rw [start_world hp, OpenProject.start_of_pending_eq_some hq]
  have hnext := finish_of_started ht hstart
  obtain ⟨hrunning, hq'⟩ := h.pending q hq
  rw [OpenProject.start_of_pending_eq_some hq]
  exact {
    id_eq := h.id_eq
    pending := by simp
    drain_mem := fun _ => mem_agenda_succ_of_spawns ht (by simp [Task.spawns, hstart])
    task_eq := fun _ => ⟨_, hnext⟩
    inReload := fun e he => by
      obtain rfl : q.merge p.owed = e := by simpa [hnext] using he
      exact {
        running := hrunning
        status := rfl
        covers_owed := Scope.covers_merge_right q p.owed
        not_isEmpty := Scope.not_isEmpty_of_covers (Scope.covers_merge_left q p.owed) hq'
        ruleset_of_definition := Scope.ruleset_merge_of_definition } }

/-- Starting a reload, or finding nothing to reload, keeps a project in order. -/
theorem start (h : Orderly r id n p) (hp : r.project n id = some p)
    (ht : r.task n = some (.drain id)) : Orderly r id (n + 1) p.start.1 := by
  cases hq : p.queue.pending with
  | none => exact h.start_of_pending_eq_none hp ht hq
  | some q => exact h.start_of_pending_eq_some hp ht hq

/-- The end of a reload, however it went, leaves the queue as it was. -/
theorem settle (h : Orderly r id n p) (ht : r.task n = some (.finish id scope)) :
    Orderly r id (n + 1) (p.settle scope
      (Project.rebuild (r.world n).options (r.world n).disk p.snapshot scope).2) := by
  generalize hres : (Project.rebuild (r.world n).options (r.world n).disk p.snapshot scope).2
    = result
  exact {
    id_eq := by
      cases result with
      | error fault => exact h.id_eq
      | ok s => exact (Project.rebuild_eq_ok hres).1.trans h.id_eq
    pending := by simpa using h.pending
    drain_mem := fun hrun => mem_agenda_succ_of_ne (h.drain_mem (by simpa using hrun))
      (by simp [ht])
    task_eq := by cases result <;> simp [OpenProject.settle, OpenProject.publish,
      OpenProject.degrade]
    inReload := fun e he => absurd he (not_finish_succ ht (by simp) e) }

end Orderly

/-- **Every project is in order at every moment.** -/
theorem orderly (hp : r.project n id = some p) : Orderly r id n p :=
  induct_project (motive := Orderly r id)
    (fun _ _ _ _ ht _ hid _ _ => orderly_first ht hid)
    (fun _ _ _ ih ht => ih.keep ht)
    (fun _ _ _ hp ih ht => ih.enqueue hp ht)
    (fun _ _ hp ih ht => ih.start hp ht)
    (fun _ _ _ _ ih ht => ih.settle ht) hp

end Run
end Session
end LintWorkspace
