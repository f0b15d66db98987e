/-
# When the listener asks for nothing

A notification leaves one task for each affected project, in some order.  While the listener
asks for nothing (`Quiet`), a task leads to its own tasks only (`agenda_succ`), so the projects
are reloaded one after the other.  A project that nobody works on is done after four tasks:

| moment | task | afterwards |
| --- | --- | --- |
| `k` | scheduling | the work is in the queue |
| `k + 1` | draining | the reload is started, with the work that was owed |
| `k + 2` | finishing | the reload is settled |
| `k + 3` | draining | nothing waits |

So it ends as its snapshot is rebuilt on the disk of moment `k + 2` (`exists_reload`), which
the projects before it may have changed.  After the last one the run is at rest again, at a
moment that only the number of projects decides (`exists_rest_of_notify`).  With the notification
answered nothing else is to be answered (`Calm`), so what is done until then no longer depends
on an order (`step_of_calm`).
-/

import LintWorkspace.Proofs.Freshness

namespace LintWorkspace
namespace Session

variable {μ : Type}

/-- A listener that asks for nothing leaves a task with its own tasks. -/
theorem agenda_step_of_quiet {listen : Listener μ} {s : Session μ} {t : Task μ}
    {rest : List (Task μ)} (order : Order) (hquiet : ∀ u, (listen u s.memory).1 = [])
    (h : s.agenda = t :: rest) :
    (s.stepIn listen order).agenda = t.spawns order s.workspace ++ rest := by
  simp only [stepIn, h]
  cases t with
  | answer request =>
    cases request with
    | addProject path told =>
      simp only [perform, answer, Task.spawns]
      rcases s.workspace.addProject path with ⟨w, fault | u⟩
      · rfl
      · simp [announce, push, hquiet]
    | notify changes told => simp [perform, answer, Task.spawns, push]
    | restored id told =>
      simp only [perform, answer, Task.spawns]
      cases s.workspace.project id <;> rfl
    | visit act => rfl
  | tell told => rfl
  | schedule id scope =>
    simp only [perform, Task.spawns]
    rcases s.workspace.enqueue id scope with ⟨w, _ | _⟩ <;> rfl
  | drain id =>
    simp only [perform, Task.spawns]
    rcases s.workspace.start id with ⟨w, _ | scope⟩ <;> rfl
  | finish id scope =>
    simp only [perform, Task.spawns]
    rcases s.workspace.finish id scope with ⟨w, _ | u⟩
    · rfl
    · simp [announce, push, hquiet]

/-- The same listener, but that it asks for nothing. -/
def Listener.hushed (listen : Listener μ) : Listener μ := fun u m => ([], (listen u m).2)

theorem Listener.hushed_eq {listen : Listener μ} (hquiet : ∀ u m, (listen u m).1 = []) :
    listen.hushed = listen := funext fun u => funext fun m => by rw [hushed, ← hquiet u m]

/-- A listener that asks for nothing may as well be hushed. -/
theorem step_hushed {listen : Listener μ} {s : Session μ} (order : Order)
    (hquiet : ∀ u, (listen u s.memory).1 = []) :
    s.stepIn listen.hushed order = s.stepIn listen order := by
  have hannounce : ∀ (s' : Session μ) u, s'.memory = s.memory →
      announce listen.hushed s' u = announce listen s' u := fun s' u h => by
    simp only [announce, Listener.hushed, h, hquiet u]
  unfold stepIn
  split
  · rfl
  · rename_i t rest _
    cases t with
    | answer request =>
      cases request with
      | addProject path told =>
        simp only [perform, answer]
        rcases s.workspace.addProject path with ⟨w, fault | u⟩
        · rfl
        · exact hannounce _ u rfl
      | notify changes told => rfl
      | restored id told => rfl
      | visit act => rfl
    | tell told => rfl
    | schedule id scope => rfl
    | drain id => rfl
    | finish id scope =>
      simp only [perform]
      rcases s.workspace.finish id scope with ⟨w, _ | u⟩
      · rfl
      · exact hannounce _ u rfl

namespace Run

variable {r : Run μ} {n k : Nat} {id : String} {p : OpenProject} {scope : Scope}
  {t : Task μ} {rest : List (Task μ)}

/-- The listener asks for nothing from a moment on. -/
def Quiet (r : Run μ) (n : Nat) : Prop := ∀ i ≥ n, ∀ u, (r.listen u (r.state i).memory).1 = []

theorem Quiet.mono (h : r.Quiet n) (hle : n ≤ k) : r.Quiet k := fun i hi => h i (by omega)

theorem agenda_succ (hquiet : r.Quiet n) (h : (r.state n).agenda = t :: rest) :
    (r.state (n + 1)).agenda = t.spawns (r.order n) (r.world n) ++ rest := by
  rw [state_succ_of_cons h]
  exact agenda_step_of_quiet (r.order n) (hquiet n (by omega)) h

theorem task_of_agenda (h : (r.state n).agenda = t :: rest) : r.task n = some t := by
  rw [task, h, List.head?_cons]

/-- What the task of a moment makes of a project. -/
theorem project_of_agenda (h : (r.state n).agenda = t :: rest) (hp : r.project n id = some p) :
    r.project (n + 1) id = some (t.turn (r.world n) id p) := by
  rw [project_succ hp, task_of_agenda h]
  rfl

theorem isDone_of_agenda (h : (r.state n).agenda = t :: rest) : (r.state n).isDone = false := by
  simp [isDone, h]

/-- Nothing that was asked for is left to answer. -/
def Calm (r : Run μ) (n : Nat) : Prop := ∀ request, Task.answer request ∉ (r.state n).agenda

/-- While the listener asks for nothing, nothing to answer comes up before the run rests. -/
theorem calm_of_quiet {i : Nat} (hquiet : r.Quiet k) (hcalm : r.Calm k) (hki : k ≤ i)
    (hbusy : ∀ j, k ≤ j → j < i → (r.state j).isDone = false) : r.Calm i := by
  induction i, hki using Nat.le_induction with
  | base => exact hcalm
  | succ i hki ih =>
    have hcalm := ih fun j hkj hji => hbusy j hkj (by omega)
    cases hagenda : (r.state i).agenda with
    | nil =>
      have hdone := hbusy i hki (by omega)
      simp [isDone, hagenda] at hdone
    | cons t rest =>
      intro request hmem
      rw [agenda_succ (hquiet.mono hki) hagenda] at hmem
      rcases List.mem_append.1 hmem with hmem | hmem
      · exact Task.answer_not_mem_spawns _ _ t request hmem
      · exact hcalm request (by rw [hagenda]; exact List.mem_cons_of_mem _ hmem)

/-- With nothing to answer, a step is that of a hushed listener in whatever order. -/
theorem step_of_calm (hquiet : r.Quiet n) (hcalm : r.Calm n) (order : Order) :
    (r.state n).stepIn r.listen (r.order n) = (r.state n).stepIn r.listen.hushed order := by
  rw [step_hushed order (hquiet n (Nat.le_refl n))]
  cases hagenda : (r.state n).agenda with
  | nil => simp only [stepIn, hagenda]
  | cons t rest =>
    refine step_order r.listen hagenda (fun request h => ?_) _ _
    exact hcalm request (by rw [hagenda, h]; exact List.mem_cons_self)

/-! ### One project -/

/-- A project after a reload of a scope in a workspace. -/
def reloaded (w : Workspace) (p : OpenProject) (scope : Scope) : OpenProject :=
  p.settle scope (Project.rebuild w.options w.disk p.snapshot scope).2

/-- A project is reloaded from one moment on, and nothing else happens. -/
structure Reload (r : Run μ) (k : Nat) (id : String) (scope : Scope) (p : OpenProject)
    (rest : List (Task μ)) : Prop where
  agenda_eq : (r.state (k + 4)).agenda = rest
  busy : ∀ i, k ≤ i → i < k + 4 → (r.state i).isDone = false
  task_eq : r.task (k + 2) = some (.finish id (scope.merge p.owed))
  project_eq : r.project (k + 4) id = some (reloaded (r.world (k + 2)) p (scope.merge p.owed))
  others : ∀ other q, other ≠ id → r.project k other = some q → r.project (k + 4) other = some q

/-- **A project that nobody works on is reloaded in four tasks.** -/
theorem exists_reload (hquiet : r.Quiet k)
    (hagenda : (r.state k).agenda = .schedule id scope :: rest) (hp : r.project k id = some p)
    (hempty : p.queue = .empty) : Reload r k id scope p rest := by
  -- the work is taken into the queue
  have hagenda₁ : (r.state (k + 1)).agenda = .drain id :: rest := by
    rw [agenda_succ hquiet hagenda, Task.spawns, if_pos]
    · rfl
    · rw [enqueue_world hp, hempty]
      rfl
  have hp₁ : r.project (k + 1) id = some { p with queue := ⟨some scope, true⟩ } := by
    rw [project_of_agenda hagenda hp, Task.turn, if_pos rfl]
    simp [OpenProject.enqueue, Queue.enqueue, hempty, Queue.empty]
  -- the reload is started
  have hstart : ((r.world (k + 1)).start id).2 = some (scope.merge p.owed) := by
    rw [start_world hp₁]
    rfl
  have hagenda₂ : (r.state (k + 2)).agenda =
      .finish id (scope.merge p.owed) :: .drain id :: rest := by
    rw [agenda_succ (hquiet.mono (by omega)) hagenda₁, Task.spawns, hstart]
    rfl
  have hp₂ : r.project (k + 2) id =
      some { p with queue := ⟨none, true⟩, status := .reloading } := by
    rw [project_of_agenda hagenda₁ hp₁, Task.turn, if_pos rfl]
    rfl
  -- and settled
  have hagenda₃ : (r.state (k + 3)).agenda = .drain id :: rest := by
    rw [agenda_succ (hquiet.mono (by omega)) hagenda₂, Task.spawns]
    rfl
  have hp₃ : r.project (k + 3) id = some { reloaded (r.world (k + 2)) p (scope.merge p.owed) with
      queue := ⟨none, true⟩ } := by
    rw [project_of_agenda hagenda₂ hp₂, Task.turn, if_pos rfl, reloaded]
    dsimp only
    cases (Project.rebuild (r.world (k + 2)).options (r.world (k + 2)).disk p.snapshot
      (scope.merge p.owed)).2 <;> rfl
  have hagenda₄ : (r.state (k + 4)).agenda = rest := by
    rw [agenda_succ (hquiet.mono (by omega)) hagenda₃, Task.spawns, start_world hp₃]
    rfl
  have hp₄ : r.project (k + 4) id = some (reloaded (r.world (k + 2)) p (scope.merge p.owed)) := by
    have hqueue : (reloaded (r.world (k + 2)) p (scope.merge p.owed)).queue = .empty := by
      rw [reloaded, OpenProject.queue_settle, hempty]
    rw [project_of_agenda hagenda₃ hp₃, Task.turn, if_pos rfl,
      OpenProject.start_of_pending_eq_none rfl]
    dsimp only
    rw [← hqueue]
  refine ⟨hagenda₄, fun i hki hik => ?_, task_of_agenda hagenda₂, hp₄, fun other q hne hq => ?_⟩
  · obtain rfl | rfl | rfl | rfl : i = k ∨ i = k + 1 ∨ i = k + 2 ∨ i = k + 3 := by omega
    · exact isDone_of_agenda hagenda
    · exact isDone_of_agenda hagenda₁
    · exact isDone_of_agenda hagenda₂
    · exact isDone_of_agenda hagenda₃
  · have hq₁ := project_of_agenda hagenda hq
    have hq₂ := project_of_agenda hagenda₁ hq₁
    have hq₃ := project_of_agenda hagenda₂ hq₂
    have hq₄ := project_of_agenda hagenda₃ hq₃
    simpa [Task.turn, Ne.symm hne] using hq₄

/-! ### One notification -/

/-- Several projects are reloaded between two moments, and nothing else happens. -/
structure Reloads (r : Run μ) (k m : Nat) (work : List (String × Scope)) (rest : List (Task μ)) :
    Prop where
  agenda_eq : (r.state m).agenda = rest
  busy : ∀ i, k ≤ i → i < m → (r.state i).isDone = false
  project_eq : ∀ id p, r.project k id = some p → ∀ scope, (id, scope) ∈ work →
    ∃ i, k ≤ i ∧ i < m ∧ r.task i = some (.finish id (scope.merge p.owed)) ∧
      r.project m id = some (reloaded (r.world i) p (scope.merge p.owed))
  others : ∀ id p, r.project k id = some p → (∀ e ∈ work, e.1 ≠ id) → r.project m id = some p

/-- **Projects that nobody works on are reloaded one after the other.** -/
theorem reloads_of_agenda {work : List (String × Scope)} (hquiet : r.Quiet k)
    (hagenda : (r.state k).agenda = work.map (fun e => .schedule e.1 e.2) ++ rest)
    (hopen : ∀ e ∈ work, ∃ p, r.project k e.1 = some p ∧ p.queue = .empty)
    (hnodup : (work.map Prod.fst).Nodup) : Reloads r k (k + 4 * work.length) work rest := by
  induction work generalizing k with
  | nil =>
    exact ⟨by simpa using hagenda, fun i hki hik => by simp at hik; omega,
      fun id p hp scope h => absurd h (by simp), fun id p hp _ => hp⟩
  | cons e work ih =>
    rw [List.map_cons, List.nodup_cons] at hnodup
    obtain ⟨⟨q, hq, hempty⟩, hopen⟩ := List.forall_mem_cons.1 hopen
    have hfirst := exists_reload hquiet hagenda hq hempty
    have hne : ∀ e' ∈ work, e'.1 ≠ e.1 := fun e' he' h =>
      hnodup.1 (h ▸ List.mem_map_of_mem he')
    have hmore := ih (hquiet.mono (by omega)) hfirst.agenda_eq
      (fun e' he' => by
        obtain ⟨p, hp, hqueue⟩ := hopen e' he'
        exact ⟨p, hfirst.others e'.1 p (hne e' he') hp, hqueue⟩) hnodup.2
    rw [List.length_cons, show k + 4 * (work.length + 1) = k + 4 + 4 * work.length by omega]
    refine ⟨hmore.agenda_eq, fun i hki him => ?_, fun id p hp scope hmem => ?_,
      fun id p hp hother => ?_⟩
    · rcases Nat.lt_or_ge i (k + 4) with hlt | hge
      · exact hfirst.busy i hki hlt
      · exact hmore.busy i hge him
    · rcases List.mem_cons.1 hmem with rfl | hmem
      · obtain rfl : q = p := Option.some.inj (hq.symm.trans hp)
        refine ⟨k + 2, by omega, by omega, hfirst.task_eq, ?_⟩
        exact hmore.others _ _ hfirst.project_eq hne
      · have hid : id ≠ e.1 := hne (id, scope) hmem
        obtain ⟨i, hki, him, htask, hproject⟩ :=
          hmore.project_eq id p (hfirst.others id p hid hp) scope hmem
        exact ⟨i, by omega, him, htask, hproject⟩
    · obtain ⟨hid, hother⟩ := List.forall_mem_cons.1 hother
      exact hmore.others id p (hfirst.others id p (Ne.symm hid) hp) hother

/-- At rest nothing waits in the queue of a project. -/
theorem queue_eq_empty (hp : r.project n id = some p) (hdone : (r.state n).isDone = true) :
    p.queue = .empty := by
  have hrunning := (atRest_of_isDone hp hdone).not_running
  have hpending : p.queue.pending = none := Option.eq_none_iff_forall_ne_some.2 fun e he => by
    simp [((orderly hp).pending e he).1] at hrunning
  cases hq : p.queue with
  | mk pending running =>
    obtain rfl : pending = none := by simpa [hq] using hpending
    obtain rfl : running = false := by simpa [hq] using hrunning
    rfl

/-- Every affected project is named once. -/
theorem nodup_affected (w : Workspace) (changes : List Change) :
    ((w.affected changes).map Prod.fst).Nodup := by
  have hkeys : (w.affected changes).Pairwise fun e f => e.1 < f.1 :=
    List.Pairwise.filter _ (List.pairwise_map.2 w.projects.sorted)
  exact List.pairwise_map.2 (hkeys.imp fun h => String.ne_of_lt h)

/-- The next moment, from one on, at which nothing is left to do. -/
structure RestsNext (r : Run μ) (k m : Nat) : Prop where
  le : k ≤ m
  busy : ∀ i, k ≤ i → i < m → (r.state i).isDone = false
  rest : (r.state m).isDone = true

theorem RestsNext.succ (h : RestsNext r k m) (hbusy : (r.state k).isDone = false) :
    RestsNext r (k + 1) m where
  le := by
    rcases Nat.eq_or_lt_of_le h.le with rfl | hlt
    · simp [h.rest] at hbusy
    · exact hlt
  busy i hki := h.busy i (by omega)
  rest := h.rest

/-- A run comes to rest as the session of a moment does, if their steps are the same until
then. -/
theorem RestsNext.state_eq {listen : Listener μ} {N : Nat} (h : RestsNext r k (k + N))
    (hstep : ∀ i, k ≤ i → i < k + N →
      (r.state i).stepIn r.listen (r.order i) = (r.state i).step listen) :
    r.state (k + N) = (r.state k).run listen N := by
  induction N generalizing k with
  | zero => rfl
  | succ N ih =>
    have hbusy := h.busy k (Nat.le_refl k) (by omega)
    have hnext : r.state (k + 1) = (r.state k).step listen := by
      rw [← hstep k (Nat.le_refl k) (by omega)]
      simp [state, hbusy]
    rw [Session.run, if_neg (by simp [hbusy]), ← hnext]
    rw [show k + (N + 1) = k + 1 + N by omega] at h hstep ⊢
    exact ih (h.succ hbusy) fun i hi => hstep i (by omega)

theorem state_succ_of_call {request : Request μ} (hdone : (r.state n).isDone = true)
    (hcall : r.calls n = some request) : r.state (n + 1) = (r.state n).push [.answer request] := by
  simp only [state, hdone, if_true, hcall]

theorem agenda_of_call {request : Request μ} (hdone : (r.state n).isDone = true)
    (hcall : r.calls n = some request) : (r.state (n + 1)).agenda = [.answer request] := by
  have hnil : (r.state n).agenda = [] := by simpa [isDone] using hdone
  rw [state_succ_of_call hdone hcall, push, hnil]
  rfl

theorem world_of_call {request : Request μ} (hdone : (r.state n).isDone = true)
    (hcall : r.calls n = some request) : r.world (n + 1) = r.world n := by
  rw [world, state_succ_of_call hdone hcall]
  rfl

/-- A visit is answered at once, and all it changes in the workspace is the disk. -/
theorem state_of_visit {act : Workspace → μ → Disk × μ} (hdone : (r.state n).isDone = true)
    (hcall : r.calls n = some (.visit act)) : (r.state (n + 2)).isDone = true ∧
      r.world (n + 2) = (r.world n).overDisk (act (r.world n) (r.state n).memory).1 := by
  have hnil : (r.state n).agenda = [] := by simpa [isDone] using hdone
  have hstep := state_succ_of_cons (agenda_of_call hdone hcall)
  rw [state_succ_of_call hdone hcall, push, hnil] at hstep
  rw [world, hstep]
  exact ⟨rfl, rfl⟩

/-- When a notification has been answered, nothing is left to answer. -/
theorem calm_of_notify {changes : List Change} {told : μ → μ}
    (hdone : (r.state n).isDone = true) (hcall : r.calls n = some (.notify changes told)) :
    r.Calm (n + 2) := fun request hmem => by
  have hagenda := agenda_of_call hdone hcall
  rw [state_succ_of_cons hagenda, stepIn, hagenda] at hmem
  simp [perform, answer, push] at hmem

/-- **A notification reloads every affected project once,** and leaves all others alone. -/
theorem exists_rest_of_notify {changes : List Change} {told : μ → μ} (hquiet : r.Quiet n)
    (hdone : (r.state n).isDone = true) (hcall : r.calls n = some (.notify changes told)) :
    ∃ m, m = n + 3 + 4 * ((r.world n).affected changes).length ∧ RestsNext r (n + 1) m ∧
      (∀ id p scope, r.project n id = some p → (id, scope) ∈ (r.world n).affected changes →
        ∃ i, n + 1 ≤ i ∧ i < m ∧ r.task i = some (.finish id (scope.merge p.owed)) ∧
          r.project m id = some (reloaded (r.world i) p (scope.merge p.owed))) ∧
      ∀ id p, r.project n id = some p → (∀ e ∈ (r.world n).affected changes, e.1 ≠ id) →
        r.project m id = some p := by
  have hagenda₁ := agenda_of_call hdone hcall
  have hworld := world_of_call hdone hcall
  -- the notification is answered
  have hagenda₂ := agenda_succ (hquiet.mono (by omega)) hagenda₁
  rw [Task.spawns, List.append_nil, hworld] at hagenda₂
  have hstays : ∀ id p, r.project n id = some p → r.project (n + 2) id = some p :=
    fun id p hp => by
      have hp₁ : r.project (n + 1) id = some p := by rw [project, hworld, ← project, hp]
      simpa [Task.turn] using project_of_agenda hagenda₁ hp₁
  -- its projects are reloaded
  have hlength := ((r.order (n + 1)).perm ((r.world n).affected changes)).length_eq
  have hm := reloads_of_agenda (hquiet.mono (by omega)) hagenda₂
    (fun e he => by
      obtain ⟨-, p, hp, -⟩ := Workspace.mem_affected.1 ((r.order (n + 1)).mem_arrange.1 he)
      exact ⟨p, hstays e.1 p hp, queue_eq_empty hp hdone⟩)
    ((r.order (n + 1)).nodup_arrange (nodup_affected (r.world n) changes))
  rw [hlength] at hm
  generalize hend : n + 2 + 4 * ((r.world n).affected changes).length = m at hm
  -- and the caller is told
  have hagenda₃ := agenda_succ (hquiet.mono (by omega)) hm.agenda_eq
  have htold : ∀ {id q}, r.project m id = some q → r.project (m + 1) id = some q := fun hq => by
    simpa [Task.turn] using project_of_agenda hm.agenda_eq hq
  refine ⟨m + 1, by omega, ⟨by omega, fun i hi him => ?_, ?_⟩, fun id p scope hp hmem => ?_,
    fun id p hp hother => htold (hm.others id p (hstays id p hp) fun e he =>
      hother e ((r.order (n + 1)).mem_arrange.1 he))⟩
  · obtain rfl | rfl | hlt : i = n + 1 ∨ i = m ∨ n + 2 ≤ i ∧ i < m := by omega
    · exact isDone_of_agenda hagenda₁
    · exact isDone_of_agenda hm.agenda_eq
    · exact hm.busy i hlt.1 hlt.2
  · simp [isDone, hagenda₃, Task.spawns]
  · obtain ⟨i, hi, him, htask, hproject⟩ := hm.project_eq id p (hstays id p hp) scope
      ((r.order (n + 1)).mem_arrange.2 hmem)
    exact ⟨i, by omega, by omega, htask, htold hproject⟩

end Run
end Session
end LintWorkspace
