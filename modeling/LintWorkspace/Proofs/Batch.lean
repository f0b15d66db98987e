/-
# What a batch of changes leads to

Merging scopes forgets how often and in which order they came: a batch asks for what some
change of it asks for (`workForAll_eq_gathered`).  So two batches that report the same kinds
of change at the same places affect the same projects with the same work (`affected_congr`).

While the listener asks for nothing, a project to which some change of the batch matters is
reloaded once, with one update, and every other project is left alone (`exists_dispatched`).
That there is no second reload is read off the updates: each reload is one more of them
(`updates_succ_of_finish`), and a project at rest is numbered as its last one is.

Two batches are compared in two runs that differ in what a caller tells at one moment, and in
the order in which the affected projects come then (`asking`).
-/

import LintWorkspace.Proofs.Quiet

namespace LintWorkspace

namespace Scope

/-- All that some scope of a list asks for; with a definition that is everything. -/
def gathered (scopes : List Scope) : Scope :=
  if scopes.any Scope.definition then full
  else ⟨scopes.any Scope.ruleset, scopes.any Scope.analyzers, scopes.any Scope.sources, false⟩

theorem gathered_concat (scopes : List Scope) (s : Scope) :
    gathered (scopes ++ [s]) = (gathered scopes).merge s := by
  unfold gathered merge
  cases hd : scopes.any Scope.definition <;> cases hs : s.definition <;> simp [full, hd, hs]

/-- Merging in one scope after the other gathers them. -/
theorem foldl_merge_gathered {α : Type} (f : α → Scope) (l : List α) (scopes : List Scope) :
    l.foldl (fun s a => s.merge (f a)) (gathered scopes) = gathered (scopes ++ l.map f) := by
  induction l generalizing scopes with
  | nil => simp
  | cons a l ih => rw [List.foldl_cons, ← gathered_concat, ih, List.map_cons, List.append_assoc,
      List.singleton_append]

theorem any_congr {scopes scopes' : List Scope} (h : ∀ s, s ∈ scopes ↔ s ∈ scopes')
    (part : Scope → Bool) : scopes.any part = scopes'.any part := by
  rw [Bool.eq_iff_iff, List.any_eq_true, List.any_eq_true]
  exact exists_congr fun s => and_congr_left' (h s)

/-- What is gathered depends only on which scopes there are. -/
theorem gathered_congr {scopes scopes' : List Scope} (h : ∀ s, s ∈ scopes ↔ s ∈ scopes') :
    gathered scopes = gathered scopes' := by
  simp only [gathered, any_congr h]

/-- Nothing is gathered only from scopes that ask for nothing. -/
theorem isEmpty_gathered (scopes : List Scope) :
    (gathered scopes).isEmpty = true ↔ ∀ s ∈ scopes, s.isEmpty = true := by
  have hparts : ∀ s : Scope, s.isEmpty = true ↔ s.ruleset = false ∧ s.analyzers = false ∧
      s.sources = false ∧ s.definition = false := fun s => by
    obtain ⟨r, a, src, d⟩ := s
    simp [isEmpty, none]
  simp only [hparts, forall_and, gathered]
  split
  · rename_i hany
    obtain ⟨s, hs, hd⟩ := List.any_eq_true.1 hany
    simp only [full, Bool.true_eq_false, false_and, false_iff]
    rintro ⟨-, -, -, hnone⟩
    rw [hnone s hs] at hd
    cases hd
  · rename_i hany
    simp only [List.any_eq_true, not_exists, not_and, Bool.not_eq_true] at hany
    simp only [List.any_eq_false, Bool.not_eq_true, and_true]
    constructor
    · rintro ⟨hr, ha, hs⟩
      exact ⟨hr, ha, hs, hany⟩
    · rintro ⟨hr, ha, hs, -⟩
      exact ⟨hr, ha, hs⟩

end Scope

/-- A batch asks for all that its changes ask for. -/
theorem OpenProject.workForAll_eq_gathered (p : OpenProject)
    (changes : List (Location × Change.Kind)) :
    p.workForAll changes = Scope.gathered (changes.map fun c => p.workFor c.1 c.2) :=
  Scope.foldl_merge_gathered (fun c : Location × Change.Kind => p.workFor c.1 c.2) changes []

namespace Workspace

variable {w : Workspace} {changes changes' : List Change} {id : String} {p : OpenProject}

/-- What a batch reports to a workspace: a kind of change at a place. -/
def Reports (w : Workspace) (changes : List Change) (l : Location) (kind : Change.Kind) : Prop :=
  (l, kind) ∈ changes.map fun c => (c.path.normalize w.disk.cwd, c.kind)

instance (w : Workspace) (changes : List Change) (l : Location) (kind : Change.Kind) :
    Decidable (w.Reports changes l kind) :=
  inferInstanceAs (Decidable ((l, kind) ∈ changes.map _))

/-- Whether a batch reports something that asks for work on a project. -/
def Concerns (w : Workspace) (changes : List Change) (p : OpenProject) : Prop :=
  ∃ l kind, w.Reports changes l kind ∧ (p.workFor l kind).isEmpty = false

/-- Two batches that report the same affect the same projects, with the same work. -/
theorem affected_congr (h : ∀ l kind, w.Reports changes l kind ↔ w.Reports changes' l kind) :
    w.affected changes = w.affected changes' := by
  have hwork : ∀ p : OpenProject,
      p.workForAll (changes.map fun c => (c.path.normalize w.disk.cwd, c.kind)) =
        p.workForAll (changes'.map fun c => (c.path.normalize w.disk.cwd, c.kind)) := by
    intro p
    rw [p.workForAll_eq_gathered, p.workForAll_eq_gathered]
    refine Scope.gathered_congr fun s => ?_
    simp only [List.mem_map (f := fun c : Location × Change.Kind => p.workFor c.1 c.2)]
    exact exists_congr fun c => and_congr_left' (h c.1 c.2)
  simp only [affected, hwork]

/-- A batch affects the open projects that it concerns. -/
theorem exists_mem_affected (hp : w.projects.find? id = some p) :
    (∃ scope, (id, scope) ∈ w.affected changes) ↔ w.Concerns changes p := by
  have hwork := Scope.isEmpty_gathered
    ((changes.map fun c => (c.path.normalize w.disk.cwd, c.kind)).map fun c => p.workFor c.1 c.2)
  rw [← p.workForAll_eq_gathered, List.forall_mem_map] at hwork
  constructor
  · rintro ⟨scope, hmem⟩
    obtain ⟨hne, q, hq, rfl⟩ := mem_affected.1 hmem
    obtain rfl : p = q := Option.some.inj (hp.symm.trans hq)
    rw [← Bool.not_eq_true, hwork] at hne
    push Not at hne
    obtain ⟨c, hc, hne⟩ := hne
    exact ⟨c.1, c.2, hc, by simpa using hne⟩
  · rintro ⟨l, kind, hreport, hne⟩
    refine ⟨_, mem_affected.2 ⟨?_, p, hp, rfl⟩⟩
    rw [← Bool.not_eq_true, hwork]
    intro hall
    rw [hall (l, kind) hreport] at hne
    cases hne

end Workspace

namespace Session
namespace Run

variable {μ : Type} {r : Run μ} {n m i : Nat} {id : String} {p : OpenProject} {scope : Scope}
  {changes changes' : List Change} {told : μ → μ}

/-! ### Counting updates -/

/-- Updates are never taken back. -/
theorem updates_mono (hle : n ≤ m) (id : String) : r.updates n id <+: r.updates m id := by
  induction hle with
  | refl => exact List.prefix_rfl
  | step _ ih =>
    rw [updates_succ]
    exact ih.trans (List.prefix_append _ _)

/-- The end of a reload is one more update. -/
theorem updates_succ_of_finish (hp : r.project n id = some p)
    (ht : r.task n = some (.finish id scope)) :
    (r.updates (n + 1) id).length = (r.updates n id).length + 1 := by
  have hsettled := project_succ hp
  rw [ht, Option.elim_some, Task.turn, if_pos rfl] at hsettled
  rw [updates_succ_of_heard (heard_of_finish hp ht) (orderly hsettled).id_eq, List.length_append,
    List.length_singleton]

/-- Outside a reload the last update about a project is about it as it is. -/
theorem getLast?_updates (hp : r.project n id = some p) (hstatus : p.status ≠ .reloading) :
    (r.updates n id).getLast? = some p.update := by
  refine induct_project (motive := fun n p => p.status ≠ .reloading →
    (r.updates n id).getLast? = some p.update) ?_ ?_ ?_ ?_ ?_ hp hstatus
  · intro n path told s _ _ hid _ hu _
    rw [updates_succ_of_heard hu hid, List.getLast?_concat]
  · intro n p hp ih ht hstatus
    rw [updates_succ_of_not_finish hp fun e he => ht _ he rfl, ih hstatus]
  · intro n p scope hp ih ht hstatus
    rw [updates_succ_of_not_finish hp (by simp [ht]), ih hstatus]
    rfl
  · intro n p hp ih ht hstatus
    rw [updates_succ_of_not_finish hp (by simp [ht])]
    cases hq : p.queue.pending with
    | none =>
      rw [OpenProject.start_of_pending_eq_none hq] at hstatus ⊢
      exact ih hstatus
    | some q =>
      rw [OpenProject.start_of_pending_eq_some hq] at hstatus
      exact absurd rfl hstatus
  · intro n p scope hp _ ht _
    have hsettled := project_succ hp
    rw [ht, Option.elim_some, Task.turn, if_pos rfl] at hsettled
    rw [updates_succ_of_heard (heard_of_finish hp ht) (orderly hsettled).id_eq,
      List.getLast?_concat]

/-! ### One notification and its projects -/

/-- Between two moments a project is reloaded once, for one update. -/
def ReloadedOnce (r : Run μ) (n m : Nat) (id : String) (p : OpenProject) : Prop :=
  ∃ (i : Nat) (scope : Scope), n ≤ i ∧ i < m ∧ r.task i = some (.finish id (scope.merge p.owed)) ∧
    (∀ j e, n ≤ j → j < m → r.task j = some (.finish id e) → j = i) ∧
    ∃ q, q = reloaded (r.world i) p (scope.merge p.owed) ∧ r.project m id = some q ∧
      r.updates m id = r.updates n id ++ [q.update]

/-- Between two moments nothing happens to a project. -/
structure LeftAlone (r : Run μ) (n m : Nat) (id : String) (p : OpenProject) : Prop where
  project_eq : r.project m id = some p
  not_finish : ∀ i e, n ≤ i → i < m → r.task i ≠ some (.finish id e)
  updates_eq : r.updates m id = r.updates n id

/-- What a batch of changes leads to until the run is at rest again. -/
structure Dispatched (r : Run μ) (n m : Nat) (changes : List Change) : Prop where
  restsNext : r.RestsNext (n + 1) m
  concerned : ∀ id p, r.project n id = some p → (r.world n).Concerns changes p →
    r.ReloadedOnce n m id p
  others : ∀ id p, r.project n id = some p → ¬ (r.world n).Concerns changes p →
    r.LeftAlone n m id p

/-- A project that is open at a moment is open whenever one of its reloads ends later. -/
theorem lt_updates_of_finish (hp : r.project n id = some p) (hn : n ≤ i) (him : i < m)
    (ht : r.task i = some (.finish id scope)) :
    (r.updates i id).length < (r.updates m id).length := by
  obtain ⟨q, hq⟩ := exists_project_of_le hp hn
  have hmore := updates_succ_of_finish hq ht
  have hle := (updates_mono (r := r) (show i + 1 ≤ m by omega) id).length_le
  omega

/-- A project whose number of updates stays the same is not reloaded. -/
theorem leftAlone_of_project (hp : r.project n id = some p) (hle : n ≤ m)
    (hproject : r.project m id = some p) : r.LeftAlone n m id p := by
  have hlength : (r.updates n id).length = (r.updates m id).length := by
    rw [← (accounted hp).sequence, ← (accounted hproject).sequence]
  refine ⟨hproject, fun i e hi him ht => ?_, ((updates_mono hle id).eq_of_length hlength).symm⟩
  have hlt := lt_updates_of_finish hp hi him ht
  have hbefore := (updates_mono (r := r) hi id).length_le
  omega

/-- A project with one more update was reloaded once. -/
theorem reloadedOnce_of_finish (hp : r.project n id = some p) (hn : n ≤ i) (him : i < m)
    (hdone : (r.state m).isDone = true) (ht : r.task i = some (.finish id (scope.merge p.owed)))
    (hproject : r.project m id = some (reloaded (r.world i) p (scope.merge p.owed))) :
    r.ReloadedOnce n m id p := by
  have hlength : (r.updates m id).length = (r.updates n id).length + 1 := by
    rw [← (accounted hproject).sequence, ← (accounted hp).sequence, reloaded,
      OpenProject.sequence_settle]
  have hstatus : (reloaded (r.world i) p (scope.merge p.owed)).status ≠ .reloading := fun hs => by
    obtain ⟨e, he⟩ := (orderly hproject).task_eq hs
    exact outside_of_isDone hdone id e he
  refine ⟨i, scope, hn, him, ht, fun j e hj hjm htask => ?_, _, rfl, hproject, ?_⟩
  · -- the earlier of two reloads has its update before the later one ends
    obtain hlt | rfl | hlt := Nat.lt_trichotomy i j
    · have hfirst := lt_updates_of_finish hp hn hlt ht
      have hsecond := lt_updates_of_finish hp hj hjm htask
      have hbefore := (updates_mono (r := r) hn id).length_le
      omega
    · rfl
    · have hfirst := lt_updates_of_finish hp hj hlt htask
      have hsecond := lt_updates_of_finish hp hn him ht
      have hbefore := (updates_mono (r := r) hj id).length_le
      omega
  · obtain ⟨more, hmore⟩ := updates_mono (r := r) (show n ≤ m by omega) id
    have hlast := getLast?_updates hproject hstatus
    rw [← hmore, List.length_append, Nat.add_left_cancel_iff] at hlength
    obtain ⟨u, rfl⟩ := List.length_eq_one_iff.1 hlength
    rw [← hmore, List.getLast?_concat, Option.some.injEq] at hlast
    rw [← hmore, hlast]

/-- **A notification reloads every project that it concerns once,** and no other. -/
theorem exists_dispatched (hquiet : r.Quiet n) (hdone : (r.state n).isDone = true)
    (hcall : r.calls n = some (.notify changes told)) :
    ∃ m, m = n + 3 + 4 * ((r.world n).affected changes).length ∧ r.Dispatched n m changes := by
  obtain ⟨m, hm, hrests, hreloads, hothers⟩ := exists_rest_of_notify hquiet hdone hcall
  have hle := hrests.le
  refine ⟨m, hm, hrests, fun id p hp hconcerns => ?_, fun id p hp hconcerns => ?_⟩
  · obtain ⟨scope, hmem⟩ := (Workspace.exists_mem_affected hp).2 hconcerns
    obtain ⟨i, hi, him, htask, hproject⟩ := hreloads id p scope hp hmem
    exact reloadedOnce_of_finish hp (by omega) him hrests.rest htask hproject
  · refine leftAlone_of_project hp (by omega) (hothers id p hp fun e he hid => ?_)
    subst hid
    exact hconcerns ((Workspace.exists_mem_affected hp).1 ⟨e.2, he⟩)

/-! ### Two notifications -/

/-- The same run, but that a caller asks for something at one moment, and the projects that it
affects come in some order. -/
def asking (r : Run μ) (n : Nat) (request : Request μ) (order : Order) : Run μ :=
  { r with
    calls := fun i => if i = n then some request else r.calls i
    order := fun i => if i = n + 1 then order else r.order i }

variable {request request' : Request μ} {order order' : Order}

theorem calls_asking : (r.asking n request order).calls n = some request := if_pos rfl

theorem order_asking : (r.asking n request order).order (n + 1) = order := if_pos rfl

/-- What is asked for changes nothing before. -/
theorem state_asking_of_le (hle : i ≤ n) : (r.asking n request order).state i = r.state i := by
  induction i with
  | zero => rfl
  | succ i ih =>
    have hcalls : (r.asking n request order).calls i = r.calls i := if_neg (by omega)
    have horder : (r.asking n request order).order i = r.order i := if_neg (by omega)
    simp only [state, ih (by omega), hcalls, horder]
    rfl

theorem state_asking : (r.asking n request order).state n = r.state n :=
  state_asking_of_le (Nat.le_refl n)

theorem world_asking : (r.asking n request order).world n = r.world n :=
  congrArg Session.workspace state_asking

theorem project_asking : (r.asking n request order).project n id = r.project n id := by
  rw [project, project, world_asking]

theorem concerns_asking :
    ((r.asking n request order).world n).Concerns changes p ↔ (r.world n).Concerns changes p := by
  rw [world_asking]

theorem isDone_asking (hdone : (r.state n).isDone = true) :
    ((r.asking n request order).state n).isDone = true := by
  rw [state_asking, hdone]

/-- Where two requests lead to the same state, the runs stay together. -/
theorem state_asking_congr (hlt : n + 1 < i)
    (hi : (r.asking n request order).state i = (r.asking n request' order').state i)
    (hle : i ≤ m) :
    (r.asking n request order).state m = (r.asking n request' order').state m := by
  induction hle with
  | refl => exact hi
  | @step k hik ih =>
    have hik : i ≤ k := hik
    have hcalls : ∀ request order, (r.asking n request order).calls k = r.calls k :=
      fun request order => if_neg (by omega)
    have horder : ∀ request order, (r.asking n request order).order k = r.order k :=
      fun request order => if_neg (by omega)
    simp only [state, ih, hcalls, horder]
    rfl

/-- A notification is answered by what it leads to: the work on the affected projects. -/
theorem state_of_notify (hdone : (r.state n).isDone = true)
    (hcall : r.calls n = some (.notify changes told)) :
    r.state (n + 2) = ⟨r.world n, (r.state n).memory,
      ((r.order (n + 1)).arrange ((r.world n).affected changes)).map
        (fun e => .schedule e.1 e.2) ++ [.tell told]⟩ := by
  have hnil : (r.state n).agenda = [] := by simpa [isDone] using hdone
  rw [state_succ_of_cons (agenda_of_call hdone hcall), stepIn, agenda_of_call hdone hcall,
    state_succ_of_call hdone hcall]
  simp [perform, answer, push, hnil, world]

end Run
end Session
end LintWorkspace
