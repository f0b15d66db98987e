/-
# What one task does

A step of a session is opened here once and for all.  A task leaves tasks of its
own behind (`Task.spawns`), lets the listener hear an update (`Task.heard`), and
changes the projects (`Task.turn`):

| task | leaves to do | makes of its project |
| --- | --- | --- |
| a notification | scheduling every affected project, in some order | |
| scheduling | draining, unless someone drains already | the work is in the queue |
| draining | finishing a reload and draining, if there is work | the reload is started |
| finishing | | the reload is settled |

`agenda_step` and `find?_step` say that a step does exactly this.
-/

import LintWorkspace.Workspace.Session

namespace LintWorkspace
namespace Session

variable {μ : Type} {order : Order}

/-- What a task leaves to do, besides what the listener asks for. -/
def Task.spawns (order : Order) (w : Workspace) : Task μ → List (Task μ)
  | .answer (.addProject path told) =>
    match (w.addProject path).2 with
    | .error _ => []
    | .ok u => [.tell (told (.ok u.project))]
  | .answer (.notify changes told) =>
    (order.arrange (w.affected changes)).map (fun e => .schedule e.1 e.2) ++ [.tell told]
  | .answer (.restored id told) =>
    match w.project id with
    | .error _ => []
    | .ok _ => [.schedule id .full, .tell (told (.ok ()))]
  | .answer (.visit _) => []
  | .tell _ => []
  | .schedule id scope => if (w.enqueue id scope).2 then [.drain id] else []
  | .drain id =>
    match (w.start id).2 with
    | some scope => [.finish id scope, .drain id]
    | none => []
  | .finish _ _ => []

/-- What a task makes of the project of an id. -/
def Task.turn (w : Workspace) (id : String) (p : OpenProject) : Task μ → OpenProject
  | .schedule i scope => if i = id then (p.enqueue scope).1 else p
  | .drain i => if i = id then p.start.1 else p
  | .finish i scope =>
    if i = id then p.settle scope (Project.rebuild w.options w.disk p.snapshot scope).2 else p
  | .answer _ => p
  | .tell _ => p

/-- The update that a task lets the listener hear. -/
def Task.heard (w : Workspace) : Task μ → Option Update
  | .answer (.addProject path _) => (w.addProject path).2.toOption
  | .finish id scope => (w.finish id scope).2
  | _ => none

/-- **One task leaves its own tasks behind, after what the listener asks for.**  The
listener asks for something only when it hears an update. -/
theorem agenda_step (listen : Listener μ) (order : Order) {s : Session μ} {t : Task μ}
    {rest : List (Task μ)} (h : s.agenda = t :: rest) :
    ∃ requests : List (Request μ), (t.heard s.workspace = none → requests = []) ∧
      (s.stepIn listen order).agenda =
        requests.map .answer ++ (t.spawns order s.workspace ++ rest) := by
  simp only [stepIn, h]
  cases t with
  | answer request =>
    cases request with
    | addProject path told =>
      simp only [perform, answer, Task.spawns, Task.heard]
      rcases s.workspace.addProject path with ⟨w, fault | u⟩
      · exact ⟨[], fun _ => rfl, rfl⟩
      · exact ⟨_, fun h => by simp [Except.toOption] at h, rfl⟩
    | notify changes told => exact ⟨[], fun _ => rfl, by simp [perform, answer, Task.spawns, push]⟩
    | restored id told =>
      simp only [perform, answer, Task.spawns]
      cases s.workspace.project id with
      | error fault => exact ⟨[], fun _ => rfl, rfl⟩
      | ok p => exact ⟨[], fun _ => rfl, rfl⟩
    | visit act => exact ⟨[], fun _ => rfl, rfl⟩
  | tell told => exact ⟨[], fun _ => rfl, rfl⟩
  | schedule id scope =>
    simp only [perform, Task.spawns]
    rcases s.workspace.enqueue id scope with ⟨w, _ | _⟩
    · exact ⟨[], fun _ => rfl, rfl⟩
    · exact ⟨[], fun _ => rfl, rfl⟩
  | drain id =>
    simp only [perform, Task.spawns]
    rcases s.workspace.start id with ⟨w, _ | scope⟩
    · exact ⟨[], fun _ => rfl, rfl⟩
    · exact ⟨[], fun _ => rfl, rfl⟩
  | finish id scope =>
    simp only [perform, Task.spawns, Task.heard]
    rcases s.workspace.finish id scope with ⟨w, _ | u⟩
    · exact ⟨[], fun _ => rfl, rfl⟩
    · exact ⟨_, fun h => by simp at h, rfl⟩

/-- Only an answer depends on an order. -/
theorem step_order (listen : Listener μ) {s : Session μ} {t : Task μ} {rest : List (Task μ)}
    (h : s.agenda = t :: rest) (ht : ∀ request, t ≠ .answer request) (order order' : Order) :
    s.stepIn listen order = s.stepIn listen order' := by
  simp only [stepIn, h]
  cases t with
  | answer request => exact absurd rfl (ht request)
  | tell told => rfl
  | schedule id scope => rfl
  | drain id => rfl
  | finish id scope => rfl

/-- Announcing an update leaves the workspace as it is. -/
@[simp] theorem workspace_announce (listen : Listener μ) (s : Session μ) (u : Update) :
    (announce listen s u).workspace = s.workspace := rfl

theorem workspace_addProject (listen : Listener μ) (s : Session μ) (path : Path)
    (told : Except ProjectFault String → μ → μ) :
    (s.perform listen order (.answer (.addProject path told))).workspace =
      (s.workspace.addProject path).1 := by
  simp only [perform, answer]
  rcases s.workspace.addProject path with ⟨w, fault | u⟩ <;> rfl

theorem workspace_schedule (listen : Listener μ) (s : Session μ) (id : String) (scope : Scope) :
    (s.perform listen order (.schedule id scope)).workspace = (s.workspace.enqueue id scope).1 := by
  simp only [perform]
  rcases s.workspace.enqueue id scope with ⟨w, _ | _⟩ <;> rfl

theorem workspace_drain (listen : Listener μ) (s : Session μ) (id : String) :
    (s.perform listen order (.drain id)).workspace = (s.workspace.start id).1 := by
  simp only [perform]
  rcases s.workspace.start id with ⟨w, _ | scope⟩ <;> rfl

theorem workspace_finish (listen : Listener μ) (s : Session μ) (id : String) (scope : Scope) :
    (s.perform listen order (.finish id scope)).workspace = (s.workspace.finish id scope).1 := by
  simp only [perform]
  rcases s.workspace.finish id scope with ⟨w, _ | u⟩ <;> rfl

/-- **What one task does to a project.**  Only the tasks of a project change it, and only
opening makes a new one. -/
theorem find?_step (listen : Listener μ) (order : Order) {s : Session μ} {t : Task μ}
    {rest : List (Task μ)} (h : s.agenda = t :: rest)
    (ht : ∀ path told, t ≠ .answer (.addProject path told)) (id : String) :
    (s.stepIn listen order).workspace.projects.find? id =
      (s.workspace.projects.find? id).map (t.turn s.workspace id) := by
  have hsame : s.workspace.projects.find? id =
      (s.workspace.projects.find? id).map fun p => p := by simp
  simp only [stepIn, h]
  cases t with
  | answer request =>
    cases request with
    | addProject path told => exact absurd rfl (ht path told)
    | notify changes told => exact hsame
    | restored i told =>
      simp only [perform, answer]
      cases s.workspace.project i with
      | error fault => exact hsame
      | ok q => exact hsame
    | visit act => exact hsame
  | tell told => exact hsame
  | schedule i scope =>
    rw [workspace_schedule]
    exact s.workspace.find?_enqueue i id scope
  | drain i =>
    rw [workspace_drain]
    exact s.workspace.find?_start i id
  | finish i scope =>
    rw [workspace_finish]
    exact s.workspace.find?_finish i id scope

/-- The project that a task works on, if it works on one. -/
def Task.project? : Task μ → Option String
  | .schedule id _ => some id
  | .drain id => some id
  | .finish id _ => some id
  | .answer _ => none
  | .tell _ => none

/-- A task leaves nothing to answer behind. -/
theorem Task.answer_not_mem_spawns (order : Order) (w : Workspace) (t : Task μ)
    (request : Request μ) : Task.answer request ∉ t.spawns order w := by
  intro hmem
  cases t with
  | answer asked =>
    cases asked with
    | addProject path told =>
      simp only [Task.spawns] at hmem
      split at hmem <;> simp at hmem
    | notify changes told => simp [Task.spawns] at hmem
    | restored id told =>
      simp only [Task.spawns] at hmem
      split at hmem <;> simp at hmem
    | visit act => simp [Task.spawns] at hmem
  | tell told => simp [Task.spawns] at hmem
  | schedule id scope =>
    simp only [Task.spawns] at hmem
    split at hmem <;> simp at hmem
  | drain id =>
    simp only [Task.spawns] at hmem
    split at hmem <;> simp at hmem
  | finish id scope => simp [Task.spawns] at hmem

/-- The end of a reload is left to do only by its start. -/
theorem Task.eq_drain_of_finish_mem {w : Workspace} {t : Task μ} {id : String} {scope : Scope}
    (h : Task.finish id scope ∈ t.spawns order w) :
    t = .drain id ∧ (w.start id).2 = some scope := by
  cases t with
  | answer request =>
    cases request with
    | addProject path told => simp only [spawns] at h; split at h <;> simp at h
    | notify changes told => simp [spawns] at h
    | restored i told => simp only [spawns] at h; split at h <;> simp at h
    | visit act => simp [spawns] at h
  | tell told => simp [spawns] at h
  | schedule i e => simp only [spawns] at h; split at h <;> simp at h
  | drain i =>
    simp only [spawns] at h
    split at h
    · rename_i e he
      simp only [List.mem_cons, Task.finish.injEq, reduceCtorEq, List.not_mem_nil, or_false] at h
      obtain ⟨rfl, rfl⟩ := h
      exact ⟨rfl, he⟩
    · simp at h
  | finish i e => simp [spawns] at h

/-- The end of a reload is done right after its start. -/
theorem Task.finish_not_mem_tail_spawns (order : Order) (w : Workspace) (t : Task μ) (id : String)
    (scope : Scope) : Task.finish id scope ∉ (t.spawns order w).tail := by
  intro h
  obtain ⟨rfl, hs⟩ := eq_drain_of_finish_mem (List.mem_of_mem_tail h)
  simp [spawns, hs] at h

/-- What schedules work, and for whom. -/
theorem Task.schedule_mem_spawns {w : Workspace} {t : Task μ} {id : String} {scope : Scope}
    (h : Task.schedule id scope ∈ t.spawns order w) :
    (∃ changes told, t = .answer (.notify changes told) ∧ (id, scope) ∈ w.affected changes) ∨
      ∃ told p, t = .answer (.restored id told) ∧ w.project id = .ok p ∧ scope = .full := by
  cases t with
  | answer request =>
    cases request with
    | addProject path told => simp only [spawns] at h; split at h <;> simp at h
    | notify changes told =>
      simp only [spawns, List.mem_append, List.mem_map, Task.schedule.injEq, List.mem_singleton,
        reduceCtorEq, or_false] at h
      obtain ⟨e, he, rfl, rfl⟩ := h
      exact Or.inl ⟨changes, told, rfl, order.mem_arrange.1 he⟩
    | restored i told =>
      simp only [spawns] at h
      split at h
      · simp at h
      · rename_i p hp
        simp only [List.mem_cons, Task.schedule.injEq, reduceCtorEq, List.not_mem_nil,
          or_false] at h
        obtain ⟨rfl, rfl⟩ := h
        exact Or.inr ⟨told, p, rfl, hp, rfl⟩
    | visit act => simp [spawns] at h
  | tell told => simp [spawns] at h
  | schedule i e => simp only [spawns] at h; split at h <;> simp at h
  | drain i => simp only [spawns] at h; split at h <;> simp at h
  | finish i e => simp [spawns] at h

/-- What is scheduled is never empty. -/
theorem Task.not_isEmpty_of_schedule_mem {w : Workspace} {t : Task μ} {id : String} {scope : Scope}
    (h : Task.schedule id scope ∈ t.spawns order w) : scope.isEmpty = false := by
  rcases schedule_mem_spawns h with ⟨changes, told, -, he⟩ | ⟨told, p, -, -, rfl⟩
  · exact (Workspace.mem_affected.1 he).1
  · rfl

/-- Work is scheduled only for projects that are open. -/
theorem Task.exists_project_of_schedule_mem {w : Workspace} {t : Task μ} {id : String}
    {scope : Scope} (h : Task.schedule id scope ∈ t.spawns order w) :
    ∃ p, w.projects.find? id = some p := by
  rcases schedule_mem_spawns h with ⟨changes, told, -, he⟩ | ⟨told, p, -, hp, -⟩
  · obtain ⟨-, p, hp, -⟩ := Workspace.mem_affected.1 he
    exact ⟨p, hp⟩
  · exact ⟨p, Workspace.find?_of_project hp⟩

end Session
end LintWorkspace
