/-
# Runs of a workspace

A run is everything that ever happens in a workspace, one moment after another.
At every moment the next task is done; when none is left, a caller may ask for
something.  So callers come one after another, and in between only what the
listener asks for is answered.

Two inductions go along a run.  What the opening of a project brings about and every
turn keeps is true at every moment (`induct_turn`).  A turn either leaves the project
alone or takes work in, starts a reload or settles it, so it is enough that these keep
it (`induct_project`).
-/

import LintWorkspace.Proofs.Task

namespace LintWorkspace
namespace Session

variable {μ : Type}

/-- Everything that ever happens in a workspace.  The listener and the callers may do as
they like. -/
structure Run (μ : Type) where
  options : Project.Options
  /-- the disk at the start -/
  disk : Disk
  memory : μ
  listen : Listener μ
  /-- what a caller asks for at a moment, if nothing is left to do then -/
  calls : Nat → Option (Request μ)
  /-- the order in which the projects come that a notification of a moment affects -/
  order : Nat → Order := fun _ => .byId

namespace Run

/-- The session at a moment. -/
def state (r : Run μ) : Nat → Session μ
  | 0 => ⟨.empty r.options r.disk, r.memory, []⟩
  | n + 1 =>
    if (r.state n).isDone then
      match r.calls n with
      | some request => (r.state n).push [.answer request]
      | none => r.state n
    else (r.state n).stepIn r.listen (r.order n)

/-- The workspace at a moment. -/
def world (r : Run μ) (n : Nat) : Workspace := (r.state n).workspace

/-- The project of an id at a moment, if it is open. -/
def project (r : Run μ) (n : Nat) (id : String) : Option OpenProject :=
  (r.world n).projects.find? id

/-- The task that is done at a moment. -/
def task (r : Run μ) (n : Nat) : Option (Task μ) := (r.state n).agenda.head?

/-- The update that the listener hears at a moment. -/
def heard (r : Run μ) (n : Nat) : Option Update := (r.task n).bind (Task.heard (r.world n))

/-- The updates of a project before a moment, in order. -/
def updates (r : Run μ) (n : Nat) (id : String) : List Update :=
  ((List.range n).filterMap r.heard).filter fun u => u.project = id

variable {r : Run μ} {n : Nat} {id : String} {p : OpenProject} {scope : Scope}

theorem state_succ_of_nil (h : (r.state n).agenda = []) :
    (r.state (n + 1)).workspace = (r.state n).workspace ∧
      ∀ t ∈ (r.state (n + 1)).agenda, ∃ request, t = .answer request := by
  have hdone : (r.state n).isDone = true := by simp [isDone, h]
  simp only [state, hdone, if_true]
  cases r.calls n with
  | none => simp [h]
  | some request => exact ⟨rfl, fun t ht => ⟨request, by simpa [push, h] using ht⟩⟩

theorem state_succ_of_cons {t : Task μ} {rest : List (Task μ)}
    (h : (r.state n).agenda = t :: rest) :
    r.state (n + 1) = (r.state n).stepIn r.listen (r.order n) := by
  have hdone : (r.state n).isDone = false := by simp [isDone, h]
  simp [state, hdone]

/-- What stands on the agenda at the next moment: what the task of this moment leaves to
do, and what stood behind it. -/
theorem mem_agenda_succ {t : Task μ} (ht : t ∈ (r.state (n + 1)).agenda)
    (hq : ∀ request, t ≠ .answer request) :
    (∃ s, r.task n = some s ∧ t ∈ s.spawns (r.order n) (r.world n)) ∨
      t ∈ (r.state n).agenda.tail := by
  cases h : (r.state n).agenda with
  | nil =>
    obtain ⟨request, rfl⟩ := (state_succ_of_nil h).2 t ht
    exact absurd rfl (hq request)
  | cons s rest =>
    obtain ⟨requests, -, he⟩ := agenda_step r.listen (r.order n) h
    rw [state_succ_of_cons h, he, List.mem_append, List.mem_append, List.mem_map] at ht
    rcases ht with ⟨request, -, rfl⟩ | ht | ht
    · exact absurd rfl (hq request)
    · exact Or.inl ⟨s, by simp [task, h], ht⟩
    · exact Or.inr (by simpa using ht)

/-- Nothing on the agenda is forgotten: what is not done at a moment stands there at the
next one, and so does what the task leaves to do. -/
theorem mem_agenda_succ_of_tail {t : Task μ} (ht : t ∈ (r.state n).agenda.tail) :
    t ∈ (r.state (n + 1)).agenda := by
  cases h : (r.state n).agenda with
  | nil => simp [h] at ht
  | cons s rest =>
    obtain ⟨requests, -, he⟩ := agenda_step r.listen (r.order n) h
    rw [h, List.tail_cons] at ht
    rw [state_succ_of_cons h, he]
    exact List.mem_append_right _ (List.mem_append_right _ ht)

theorem mem_agenda_succ_of_spawns {s t : Task μ} (hs : r.task n = some s)
    (ht : t ∈ s.spawns (r.order n) (r.world n)) : t ∈ (r.state (n + 1)).agenda := by
  obtain ⟨rest, h⟩ := List.head?_eq_some_iff.1 hs
  obtain ⟨requests, -, he⟩ := agenda_step r.listen (r.order n) h
  rw [state_succ_of_cons h, he]
  exact List.mem_append_right _ (List.mem_append_left _ ht)

/-- A task that is on the agenda and not done now will be there. -/
theorem mem_agenda_succ_of_ne {t : Task μ} (ht : t ∈ (r.state n).agenda)
    (hne : r.task n ≠ some t) : t ∈ (r.state (n + 1)).agenda := by
  refine mem_agenda_succ_of_tail ?_
  cases h : (r.state n).agenda with
  | nil => simp [h] at ht
  | cons s rest =>
    rw [h] at ht
    rcases List.mem_cons.1 ht with rfl | ht
    · exact absurd (by simp [task, h]) hne
    · exact ht

/-! ### How a project changes -/

/-- From one moment to the next an open project changes by the task that is done. -/
theorem project_succ (hp : r.project n id = some p) :
    r.project (n + 1) id = some ((r.task n).elim p (Task.turn (r.world n) id p)) := by
  cases h : (r.state n).agenda with
  | nil =>
    simp only [project, world, task, h] at hp ⊢
    rw [(state_succ_of_nil h).1, hp]
    rfl
  | cons t rest =>
    simp only [project, world, task, h] at hp ⊢
    rw [state_succ_of_cons h]
    by_cases ht : ∃ path told, t = .answer (.addProject path told)
    · obtain ⟨path, told, rfl⟩ := ht
      simp only [stepIn, h]
      rw [workspace_addProject]
      exact Workspace.find?_addProject _ path hp
    · rw [find?_step r.listen (r.order n) h (fun path told e => ht ⟨path, told, e⟩) id, hp]
      rfl

/-- A project that is open at a moment was opened or was open at the moment before. -/
theorem exists_opening (hnone : r.project n id = none) (hp : r.project (n + 1) id = some p) :
    ∃ path told s, r.task n = some (.answer (.addProject path told)) ∧
      (Project.build (r.world n).options (r.world n).disk none
        (path.normalize (r.world n).disk.cwd)).2 = .ok s ∧
      s.id = id ∧ p = .first s ∧ r.heard n = some p.update := by
  cases h : (r.state n).agenda with
  | nil =>
    simp only [project, world] at hnone hp
    rw [(state_succ_of_nil h).1, hnone] at hp
    simp at hp
  | cons t rest =>
    simp only [project, world] at hnone hp
    rw [state_succ_of_cons h] at hp
    by_cases ht : ∃ path told, t = .answer (.addProject path told)
    · obtain ⟨path, told, rfl⟩ := ht
      simp only [stepIn, h] at hp
      rw [workspace_addProject] at hp
      obtain ⟨s, hs, hid, rfl, hu⟩ := Workspace.eq_first_of_addProject hnone hp
      refine ⟨path, told, s, by simp [task, h], hs, hid, rfl, ?_⟩
      simp only [heard, task, h, List.head?_cons, Option.bind_some, Task.heard, world]
      rw [hu]
      rfl
    · rw [find?_step r.listen (r.order n) h (fun path told e => ht ⟨path, told, e⟩) id, hnone] at hp
      simp at hp

/-- What one moment makes of an open project, by the task that is done. -/
inductive Turn (r : Run μ) (n : Nat) (id : String) (p : OpenProject) : OpenProject → Prop
  | kept (ht : ∀ t, r.task n = some t → t.project? ≠ some id) : Turn r n id p p
  | enqueued (scope : Scope) (ht : r.task n = some (.schedule id scope)) :
    Turn r n id p (p.enqueue scope).1
  | started (ht : r.task n = some (.drain id)) : Turn r n id p p.start.1
  | settled (scope : Scope) (ht : r.task n = some (.finish id scope)) :
    Turn r n id p (p.settle scope
      (Project.rebuild (r.world n).options (r.world n).disk p.snapshot scope).2)

/-- A project that is open stays open. -/
theorem exists_turn (hp : r.project n id = some p) :
    ∃ q, r.project (n + 1) id = some q ∧ Turn r n id p q := by
  refine ⟨_, project_succ hp, ?_⟩
  cases ht : r.task n with
  | none => exact .kept (by simp [ht])
  | some t =>
    by_cases hid : t.project? = some id
    · cases t with
      | answer request => simp [Task.project?] at hid
      | tell told => simp [Task.project?] at hid
      | schedule i scope =>
        obtain rfl := Option.some.inj hid
        simpa [Task.turn] using Turn.enqueued scope ht
      | drain i =>
        obtain rfl := Option.some.inj hid
        simpa [Task.turn] using Turn.started ht
      | finish i scope =>
        obtain rfl := Option.some.inj hid
        simpa [Task.turn] using Turn.settled scope ht
    · have hturn : Task.turn (r.world n) id p t = p := by
        cases t with
        | answer request => rfl
        | tell told => rfl
        | schedule i scope => simp [Task.turn, show i ≠ id from fun e => hid (by rw [e]; rfl)]
        | drain i => simp [Task.turn, show i ≠ id from fun e => hid (by rw [e]; rfl)]
        | finish i scope => simp [Task.turn, show i ≠ id from fun e => hid (by rw [e]; rfl)]
      rw [Option.elim_some, hturn]
      refine .kept fun t' ht' => ?_
      rw [ht, Option.some.injEq] at ht'
      exact ht' ▸ hid

/-- How an open project came from what it was a moment before. -/
theorem turn_of_succ {q : OpenProject} (hp : r.project n id = some p)
    (hq : r.project (n + 1) id = some q) : Turn r n id p q := by
  obtain ⟨q', hq', hturn⟩ := exists_turn hp
  rw [hq, Option.some.injEq] at hq'
  exact hq' ▸ hturn

theorem exists_project_of_le {m : Nat} (hp : r.project n id = some p) (hle : n ≤ m) :
    ∃ q, r.project m id = some q := by
  induction hle with
  | refl => exact ⟨p, hp⟩
  | step _ ih =>
    obtain ⟨q, hq⟩ := ih
    obtain ⟨q', hq', -⟩ := exists_turn hq
    exact ⟨q', hq'⟩

/-- What is true of a project from its opening on, if every turn keeps it. -/
theorem induct_turn {motive : Nat → OpenProject → Prop}
    (opened : ∀ n path told s, r.task n = some (.answer (.addProject path told)) →
      (Project.build (r.world n).options (r.world n).disk none
        (path.normalize (r.world n).disk.cwd)).2 = .ok s →
      s.id = id → r.project n id = none → r.heard n = some (OpenProject.first s).update →
      r.project (n + 1) id = some (.first s) → motive (n + 1) (.first s))
    (turned : ∀ n p q, r.project n id = some p → r.project (n + 1) id = some q →
      Turn r n id p q → motive n p → motive (n + 1) q)
    (hp : r.project n id = some p) : motive n p := by
  induction n generalizing p with
  | zero => simp [project, world, state, Workspace.empty] at hp
  | succ n ih =>
    cases hq : r.project n id with
    | none =>
      obtain ⟨path, told, s, ht, hs, hid, rfl, hu⟩ := exists_opening hq hp
      exact opened n path told s ht hs hid hq hu hp
    | some q => exact turned n q p hq hp (turn_of_succ hq hp) (ih hq)

/-- **What is true of a project from its opening on.**  It has to be true of its first
snapshot, and every moment has to keep it: one whose task works on no part of the project,
and the three that take work in, start a reload and settle one. -/
theorem induct_project {motive : Nat → OpenProject → Prop}
    (opened : ∀ n path told s, r.task n = some (.answer (.addProject path told)) →
      (Project.build (r.world n).options (r.world n).disk none
        (path.normalize (r.world n).disk.cwd)).2 = .ok s →
      s.id = id → r.project n id = none → r.heard n = some (OpenProject.first s).update →
      motive (n + 1) (.first s))
    (kept : ∀ n p, r.project n id = some p → motive n p →
      (∀ t, r.task n = some t → t.project? ≠ some id) → motive (n + 1) p)
    (enqueued : ∀ n p scope, r.project n id = some p → motive n p →
      r.task n = some (.schedule id scope) → motive (n + 1) (p.enqueue scope).1)
    (started : ∀ n p, r.project n id = some p → motive n p →
      r.task n = some (.drain id) → motive (n + 1) p.start.1)
    (settled : ∀ n p scope, r.project n id = some p → motive n p →
      r.task n = some (.finish id scope) → motive (n + 1) (p.settle scope
        (Project.rebuild (r.world n).options (r.world n).disk p.snapshot scope).2))
    (hp : r.project n id = some p) : motive n p := by
  refine induct_turn (fun n path told s ht hs hid hnone hu _ => opened n path told s ht hs hid
    hnone hu) (fun n p q hp _ hturn ih => ?_) hp
  cases hturn with
  | kept ht => exact kept n p hp ih ht
  | enqueued scope ht => exact enqueued n p scope hp ih ht
  | started ht => exact started n p hp ih ht
  | settled scope ht => exact settled n p scope hp ih ht

/-! ### The order of the tasks -/

/-- The end of a reload is never put off. -/
theorem finish_not_mem_tail (r : Run μ) (n : Nat) (id : String) (scope : Scope) :
    Task.finish id scope ∉ (r.state n).agenda.tail := by
  induction n with
  | zero => simp [state]
  | succ n ih =>
    intro hmem
    cases h : (r.state n).agenda with
    | nil =>
      obtain ⟨request, he⟩ := (state_succ_of_nil h).2 _ (List.mem_of_mem_tail hmem)
      simp at he
    | cons t rest =>
      obtain ⟨requests, hquiet, he⟩ := agenda_step r.listen (r.order n) h
      rw [state_succ_of_cons h, he] at hmem
      rw [h, List.tail_cons] at ih
      by_cases hspawn : Task.finish id scope ∈ t.spawns (r.order n) (r.state n).workspace
      · have ht := (Task.eq_drain_of_finish_mem hspawn).1
        obtain rfl := hquiet (by rw [ht]; rfl)
        obtain ⟨u, us, hus⟩ := List.exists_cons_of_ne_nil (List.ne_nil_of_mem hspawn)
        rw [List.map_nil, List.nil_append, hus, List.cons_append, List.tail_cons,
          List.mem_append] at hmem
        rcases hmem with hmem | hmem
        · exact Task.finish_not_mem_tail_spawns (r.order n) (r.state n).workspace t id scope (by
            rw [hus]; exact hmem)
        · exact ih hmem
      · have hmem := List.mem_of_mem_tail hmem
        rw [List.mem_append, List.mem_append] at hmem
        rcases hmem with hmem | hmem | hmem
        · simp at hmem
        · exact hspawn hmem
        · exact ih hmem

/-- The end of a reload is done right after its start. -/
theorem started_of_finish (h : r.task (n + 1) = some (.finish id scope)) :
    r.task n = some (.drain id) ∧ ((r.world n).start id).2 = some scope := by
  have hmem : Task.finish id scope ∈ (r.state (n + 1)).agenda := List.mem_of_mem_head? h
  rcases mem_agenda_succ hmem (by simp) with ⟨t, ht, hspawn⟩ | htail
  · obtain ⟨rfl, hs⟩ := Task.eq_drain_of_finish_mem hspawn
    exact ⟨ht, hs⟩
  · exact absurd htail (finish_not_mem_tail r n id scope)

/-- Work on the agenda is never empty. -/
theorem not_isEmpty_of_schedule_mem (h : Task.schedule id scope ∈ (r.state n).agenda) :
    scope.isEmpty = false := by
  induction n with
  | zero => simp [state] at h
  | succ n ih =>
    rcases mem_agenda_succ h (by simp) with ⟨t, -, hspawn⟩ | htail
    · exact Task.not_isEmpty_of_schedule_mem hspawn
    · exact ih (List.mem_of_mem_tail htail)

/-- Work is scheduled only for projects that are open. -/
theorem exists_project_of_schedule_mem (h : Task.schedule id scope ∈ (r.state n).agenda) :
    ∃ p, r.project n id = some p := by
  induction n with
  | zero => simp [state] at h
  | succ n ih =>
    have hp : ∃ p, r.project n id = some p := by
      rcases mem_agenda_succ h (by simp) with ⟨t, -, hspawn⟩ | htail
      · exact Task.exists_project_of_schedule_mem hspawn
      · exact ih (List.mem_of_mem_tail htail)
    obtain ⟨p, hp⟩ := hp
    exact exists_project_of_le hp (Nat.le_succ n)

/-! ### A run -/

/-- The document that breaks and is repaired. -/
def brokenDocument : Location := Path.normalize .root (.ofText "/w/r.toml")

/-- A visitor writes a text into the document. -/
def edit (text : String) : Request Unit :=
  .visit fun w m => (w.disk.put brokenDocument (.file text.toUTF8), m)

/-- A caller tells that the document was edited. -/
def tellEdit : Request Unit := .notify [⟨.ofText "/w/r.toml", .modified⟩] fun m => m

/-- A run in which the ruleset of a project is broken, at rest again at moment 12, and then
repaired, at rest again at moment 21. -/
def repaired : Run Unit where
  options := ⟨.ofText "/staging", true⟩
  disk := ⟨.root, [
    (Path.normalize .root (.ofText "/w"), .directory),
    (Path.normalize .root (.ofText "/w/a.toml"), .file "ruleset = \"r.toml\"".toUTF8),
    (brokenDocument, .file "rules = [[\"X\", \"warn\"]]".toUTF8)]⟩
  memory := ()
  listen := fun _ _ => ([], ())
  calls
    | 0 => some (.addProject (.ofText "/w/a.toml") fun _ m => m)
    | 3 => some (edit "rules = 1")
    | 5 => some tellEdit
    | 12 => some (edit "rules = []")
    | 14 => some tellEdit
    | _ => none

/-- A run in which a project is opened and nothing else happens.  It is open at moment 2 and the
run at rest at moment 3. -/
def opening (definition : String) (entries : List (String × DiskEntry)) : Run Unit where
  options := ⟨.ofText "/staging", true⟩
  disk := ⟨.root, (("/a.toml", .file definition.toUTF8) :: entries).map fun e =>
    (Path.normalize .root (.ofText e.1), e.2)⟩
  memory := ()
  listen := fun _ _ => ([], ())
  calls
    | 0 => some (.addProject (.ofText "/a.toml") fun _ m => m)
    | _ => none

end Run
end Session
end LintWorkspace
