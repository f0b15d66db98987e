/-
# The updates of a project

The updates of a project are a ledger (`Ledger`): they are numbered from one, the
versions they publish are numbered from one, and an update about a failure gives
the version that was published last.

At every moment outside a reload the project agrees with its ledger (`bookkept`):
the current version is the last one published, and the status is the one that the
last update announced.
-/

import LintWorkspace.Proofs.Orderly
import Mathlib.Tactic.ByContra

namespace LintWorkspace

/-- The updates of a project whose current version is `version`. -/
structure Ledger (updates : List Update) (version : Nat) : Prop where
  sequences : updates.map Update.sequence = List.range' 1 updates.length
  versions : updates.filterMap Update.published? = List.range' 1 version
  /-- after a failure the version that was published last is still the current one -/
  failures : ∀ before u after, updates = before ++ u :: after →
    ∀ v error, u.outcome = .degraded v error →
      (before.filterMap Update.published?).getLast? = some v

namespace Ledger

variable {updates : List Update} {version : Nat} {u : Update}

/-- Without updates there is no version. -/
theorem nil : Ledger [] 0 where
  sequences := rfl
  versions := rfl
  failures := by simp

theorem sequences_append (h : Ledger updates version) (hu : u.sequence = updates.length + 1) :
    (updates ++ [u]).map Update.sequence = List.range' 1 (updates ++ [u]).length := by
  rw [List.map_append, h.sequences, List.length_append, List.length_singleton,
    List.range'_concat, List.map_singleton, hu]
  simp [Nat.add_comm]

/-- A failure is one more update, or was there before. -/
theorem failures_append (h : Ledger updates version)
    (hu : ∀ v error, u.outcome = .degraded v error →
      (updates.filterMap Update.published?).getLast? = some v) :
    ∀ before w after, updates ++ [u] = before ++ w :: after →
      ∀ v error, w.outcome = .degraded v error →
        (before.filterMap Update.published?).getLast? = some v := by
  intro before w after heq v error hw
  rcases List.eq_nil_or_concat after with rfl | ⟨rest, z, rfl⟩
  · obtain ⟨rfl, hlast⟩ := List.append_inj' heq rfl
    obtain rfl := List.head_eq_of_cons_eq hlast
    exact hu v error hw
  · have heq' : updates ++ [u] = (before ++ w :: rest) ++ [z] := by simpa using heq
    obtain ⟨hup, -⟩ := List.append_inj' heq' rfl
    exact h.failures before w rest hup v error hw

/-- A ledger may go on with the next version. -/
theorem publish (h : Ledger updates version) (hseq : u.sequence = updates.length + 1)
    (hout : u.outcome = .published (version + 1)) : Ledger (updates ++ [u]) (version + 1) where
  sequences := h.sequences_append hseq
  versions := by
    rw [List.filterMap_append, h.versions, List.range'_concat]
    simp [Update.published?, hout, Nat.add_comm]
  failures := h.failures_append fun v error he => by simp [hout] at he

/-- A ledger with a version may go on with a failure. -/
theorem degrade (h : Ledger updates version) (hseq : u.sequence = updates.length + 1)
    (hpos : 0 < version) {error : String} (hout : u.outcome = .degraded version error) :
    Ledger (updates ++ [u]) version where
  sequences := h.sequences_append hseq
  versions := by
    rw [List.filterMap_append, h.versions]
    simp [Update.published?, hout]
  failures := h.failures_append fun v e he => by
    rw [hout, Outcome.degraded.injEq] at he
    rw [h.versions, List.getLast?_range', if_neg (by omega), ← he.1]
    congr 1
    omega

end Ledger

/-- A project that agrees with the updates about it. -/
structure Bookkept (updates : List Update) (p : OpenProject) : Prop
    extends Ledger updates p.snapshot.version where
  status : ∃ u, updates.getLast? = some u ∧
    match u.outcome with
    | .published _ => p.status = .idle
    | .degraded _ error => ∃ fault, p.status = .degraded fault ∧ fault.message = error
  owed : p.owed.isEmpty = true ↔ p.status = .idle
  attempted : p.status = .idle → p.attempted = []

namespace Session
namespace Run

variable {μ : Type} {r : Run μ} {n : Nat} {id : String} {p : OpenProject} {scope : Scope}

/-! ### What is heard about a project -/

/-- A reload that ends is announced with the project as it is then. -/
theorem heard_of_finish (hp : r.project n id = some p) (ht : r.task n = some (.finish id scope)) :
    r.heard n = some (p.settle scope
      (Project.rebuild (r.world n).options (r.world n).disk p.snapshot scope).2).update := by
  simp only [project] at hp
  simp only [heard, ht, Option.bind_some, Task.heard, Workspace.finish, hp]

/-- Whatever is heard is about the project whose reload ends, or about a new one. -/
theorem project_of_heard {u : Update} (h : r.heard n = some u) :
    (∃ e q, r.task n = some (.finish u.project e) ∧ r.project n u.project = some q) ∨
      r.project n u.project = none ∧ ∃ p, r.project (n + 1) u.project = some p := by
  cases ht : r.task n with
  | none => simp [heard, ht] at h
  | some t =>
    obtain ⟨rest, he⟩ := List.head?_eq_some_iff.1 ht
    have hu : t.heard (r.world n) = some u := by simpa [heard, ht] using h
    cases t with
    | answer request =>
      cases request with
      | addProject path told =>
        right
        have hok : ((r.world n).addProject path).2 = .ok u := toOption_eq_some_iff.1 hu
        obtain ⟨hnone, p, hp⟩ := Workspace.find?_of_addProject hok
        refine ⟨hnone, p, ?_⟩
        simp only [project, world]
        rw [state_succ_of_cons he]
        simp only [stepIn, he]
        rw [workspace_addProject]
        exact hp
      | notify changes told => simp [Task.heard] at hu
      | restored i told => simp [Task.heard] at hu
      | visit act => simp [Task.heard] at hu
    | tell told => simp [Task.heard] at hu
    | schedule i e => simp [Task.heard] at hu
    | drain i => simp [Task.heard] at hu
    | finish i e =>
      left
      cases hp : r.project n i with
      | none =>
        simp only [project] at hp
        simp [Task.heard, Workspace.finish, hp] at hu
      | some p =>
        have hid := (orderly (project_succ hp)).id_eq
        rw [heard_of_finish hp ht, Option.some.injEq] at h
        simp only [ht, Option.elim_some, Task.turn, if_true] at hid
        have hi : u.project = i := by rw [← h, OpenProject.update, hid]
        exact ⟨e, p, by rw [hi], by rw [hi, hp]⟩

theorem updates_succ (r : Run μ) (n : Nat) (id : String) :
    r.updates (n + 1) id =
      r.updates n id ++ (r.heard n).toList.filter fun u => u.project = id := by
  simp only [updates, List.range_succ, List.filterMap_append, List.filter_append]
  cases h : r.heard n <;> simp [h]

theorem updates_succ_of_heard {u : Update} (h : r.heard n = some u) (hu : u.project = id) :
    r.updates (n + 1) id = r.updates n id ++ [u] := by
  rw [updates_succ, h]
  simp [hu]

/-- A moment that neither ends a reload of an open project nor opens it says nothing about
it. -/
theorem updates_succ_of_not_finish (hp : r.project n id = some p)
    (ht : ∀ e, r.task n ≠ some (.finish id e)) : r.updates (n + 1) id = r.updates n id := by
  rw [updates_succ, List.filter_eq_nil_iff.2, List.append_nil]
  intro u hu
  simp only [Option.mem_toList] at hu
  simp only [decide_eq_true_eq]
  rintro rfl
  rcases project_of_heard hu with ⟨e, q, he, -⟩ | ⟨hnone, -⟩
  · exact ht e he
  · simp [hnone] at hp

/-- Nothing is said about a project before it is opened. -/
theorem updates_of_none (hnone : r.project n id = none) : r.updates n id = [] := by
  induction n with
  | zero => rfl
  | succ n ih =>
    have hbefore : r.project n id = none := by
      cases hp : r.project n id with
      | none => rfl
      | some p => simp [project_succ hp] at hnone
    rw [updates_succ, ih hbefore, List.nil_append, List.filter_eq_nil_iff]
    intro u hu
    simp only [Option.mem_toList] at hu
    simp only [decide_eq_true_eq]
    rintro rfl
    rcases project_of_heard hu with ⟨e, q, -, hq⟩ | ⟨-, p, hp⟩
    · simp [hbefore] at hq
    · simp [hp] at hnone

/-! ### The project and its ledger -/

/-- What a project and the updates about it have in common at every moment, also within a
reload: the status lags behind only then. -/
structure Accounted (r : Run μ) (id : String) (n : Nat) (p : OpenProject) : Prop where
  ledger : Ledger (r.updates n id) p.snapshot.version
  sequence : p.sequence = (r.updates n id).length
  version_pos : 0 < p.snapshot.version
  last : ∃ u, (r.updates n id).getLast? = some u ∧
    match u.outcome with
    | .published _ => p.owed.isEmpty = true ∧ (p.status = .idle ∨ p.status = .reloading)
    | .degraded _ error => p.owed.isEmpty = false ∧
        ((∃ fault, p.status = .degraded fault ∧ fault.message = error) ∨ p.status = .reloading)
  attempted : p.attempted ≠ [] → p.owed.ruleset = true

/-- Whatever happens to a project but the end of a reload keeps its account. -/
theorem Accounted.of_updates_eq {q : OpenProject} (h : Accounted r id n p)
    (hupdates : r.updates (n + 1) id = r.updates n id)
    (hsnapshot : q.snapshot = p.snapshot) (hsequence : q.sequence = p.sequence)
    (howed : q.owed = p.owed) (hattempted : q.attempted = p.attempted)
    (hstatus : q.status = p.status ∨ q.status = .reloading) : Accounted r id (n + 1) q where
  ledger := by rw [hupdates, hsnapshot]; exact h.ledger
  sequence := by rw [hupdates, hsequence, h.sequence]
  version_pos := by rw [hsnapshot]; exact h.version_pos
  last := by
    obtain ⟨u, hu, hout⟩ := h.last
    refine ⟨u, by rw [hupdates, hu], ?_⟩
    rw [howed]
    rcases hstatus with hs | hs
    · rw [hs]; exact hout
    · cases ho : u.outcome with
      | published v =>
        rw [ho] at hout
        exact ⟨hout.1, Or.inr hs⟩
      | degraded v error =>
        rw [ho] at hout
        exact ⟨hout.1, Or.inr hs⟩
  attempted := by rw [hattempted, howed]; exact h.attempted

/-- A project that was just opened is accounted for by its first update. -/
theorem accounted_first {s : Project.Snapshot} (hid : s.id = id) (hnone : r.project n id = none)
    (hheard : r.heard n = some (OpenProject.first s).update) :
    Accounted r id (n + 1) (.first s) := by
  have hupdates : r.updates (n + 1) id = [(OpenProject.first s).update] := by
    rw [updates_succ_of_heard hheard hid, updates_of_none hnone, List.nil_append]
  exact {
    ledger := by
      rw [hupdates]
      exact Ledger.nil.publish rfl rfl
    sequence := by rw [hupdates]; rfl
    version_pos := Nat.zero_lt_one
    last := ⟨(OpenProject.first s).update, by rw [hupdates]; rfl, rfl, Or.inl rfl⟩
    attempted := fun h => absurd rfl h }

/-- The account after a reload that went well. -/
theorem Accounted.publish {s : Project.Snapshot} (h : Accounted r id n p) (hin : p.InReload scope)
    (hupdates : r.updates (n + 1) id = r.updates n id ++ [(p.settle scope (.ok s)).update]) :
    Accounted r id (n + 1) (p.settle scope (.ok s)) where
  ledger := by
    rw [hupdates]
    exact h.ledger.publish (by rw [← h.sequence]; rfl) rfl
  sequence := by
    rw [hupdates, List.length_append, ← h.sequence]
    rfl
  version_pos := Nat.succ_pos _
  last := ⟨(p.settle scope (.ok s)).update, by rw [hupdates, List.getLast?_concat], rfl, Or.inl rfl⟩
  attempted hne := by
    -- documents are forgotten only when the ruleset was resolved, but then all were
    by_cases hr : scope.ruleset = true
    · simp [OpenProject.settle, OpenProject.publish, hr] at hne
    · have hold : p.attempted ≠ [] := by
        simpa [OpenProject.settle, OpenProject.publish, hr] using hne
      exact absurd ((Scope.covers_iff.1 hin.covers_owed).1 (h.attempted hold)) hr

/-- The account after a reload that failed, of which the documents it reached are kept. -/
theorem Accounted.degrade {fault : Project.BuildFault} (h : Accounted r id n p)
    (hin : p.InReload scope) (hreached : fault.reached ≠ none → scope.ruleset = true)
    (hupdates : r.updates (n + 1) id = r.updates n id ++ [(p.settle scope (.error fault)).update]) :
    Accounted r id (n + 1) (p.settle scope (.error fault)) where
  ledger := by
    rw [hupdates]
    exact h.ledger.degrade (by rw [← h.sequence]; rfl) h.version_pos rfl
  sequence := by
    rw [hupdates, List.length_append, ← h.sequence]
    rfl
  version_pos := h.version_pos
  last := ⟨(p.settle scope (.error fault)).update, by rw [hupdates, List.getLast?_concat],
    hin.not_isEmpty, Or.inl ⟨_, rfl, rfl⟩⟩
  attempted hne := by
    cases hf : fault.reached with
    | none =>
      have hold : p.attempted ≠ [] := by
        simpa [OpenProject.settle, OpenProject.degrade, hf] using hne
      exact (Scope.covers_iff.1 hin.covers_owed).1 (h.attempted hold)
    | some reached => exact hreached (by simp [hf])

/-- What is heard at the end of a reload is the next line of the account. -/
theorem Accounted.settle (h : Accounted r id n p) (hp : r.project n id = some p)
    (ht : r.task n = some (.finish id scope)) : Accounted r id (n + 1) (p.settle scope
      (Project.rebuild (r.world n).options (r.world n).disk p.snapshot scope).2) := by
  have hin := (orderly hp).inReload scope ht
  have hupdates := updates_succ_of_heard (heard_of_finish hp ht) ((orderly hp).settle ht).id_eq
  generalize hres : (Project.rebuild (r.world n).options (r.world n).disk p.snapshot scope).2
    = result at hupdates
  cases result with
  | ok s => exact h.publish hin hupdates
  | error fault =>
    refine h.degrade hin (fun hreached => ?_) hupdates
    rcases Project.ruleset_of_reached hres hreached with hdefinition | hruleset
    · exact hin.ruleset_of_definition hdefinition
    · exact hruleset

/-- **Every project is accounted for at every moment.** -/
theorem accounted (hp : r.project n id = some p) : Accounted r id n p := by
  refine induct_project (motive := Accounted r id)
    (fun n path told s _ _ hid hnone hheard => accounted_first hid hnone hheard) ?_ ?_ ?_
    (fun n p scope hp ih ht => ih.settle hp ht) hp
  · intro n p hp ih ht
    exact ih.of_updates_eq
      (updates_succ_of_not_finish hp fun e he => ht _ he rfl) rfl rfl rfl rfl (Or.inl rfl)
  · intro n p scope hp ih ht
    exact ih.of_updates_eq (updates_succ_of_not_finish hp (by simp [ht])) rfl rfl rfl rfl
      (Or.inl rfl)
  · intro n p hp ih ht
    have hupdates := updates_succ_of_not_finish hp (by simp [ht])
    cases hq : p.queue.pending with
    | none =>
      rw [OpenProject.start_of_pending_eq_none hq]
      exact ih.of_updates_eq hupdates rfl rfl rfl rfl (Or.inl rfl)
    | some q =>
      rw [OpenProject.start_of_pending_eq_some hq]
      exact ih.of_updates_eq hupdates rfl rfl rfl rfl (Or.inr rfl)

/-! ### What can be seen from outside -/

/-- Whether a moment is outside every reload: between its start and its end a reload lets
nobody look at the workspace. -/
def Outside (r : Run μ) (n : Nat) : Prop := ∀ id e, r.task n ≠ some (.finish id e)

/-- At rest nothing is being reloaded. -/
theorem outside_of_isDone (h : (r.state n).isDone = true) : r.Outside n := by
  intro id e he
  have hnil : (r.state n).agenda = [] := by simpa [isDone] using h
  simp [task, hnil] at he

/-- The listener hears an update outside every reload, and so it looks at the workspace and
asks for more. -/
theorem outside_of_heard {u : Update} (h : r.heard n = some u) : r.Outside (n + 1) := by
  intro id e he
  have ht := (started_of_finish he).1
  simp [heard, ht, Task.heard] at h

/-- **A project and the updates about it agree at every moment outside a reload**: at rest
(`outside_of_isDone`), and whenever the listener has heard an update (`outside_of_heard`). -/
theorem bookkept (hp : r.project n id = some p) (hout : r.Outside n) :
    Bookkept (r.updates n id) p := by
  have h := accounted hp
  have hstatus : p.status ≠ .reloading := fun hs => by
    obtain ⟨e, he⟩ := (orderly hp).task_eq hs
    exact hout id e he
  obtain ⟨u, hu, hlast⟩ := h.last
  cases ho : u.outcome with
  | published v =>
    rw [ho] at hlast
    have hs := hlast.2.resolve_right hstatus
    have howed : p.owed = .none := by simpa [Scope.isEmpty] using hlast.1
    exact {
      toLedger := h.ledger
      status := ⟨u, hu, by rw [ho]; exact hs⟩
      owed := iff_of_true hlast.1 hs
      attempted := fun _ => by
        by_contra hne
        simpa [howed, Scope.none] using h.attempted hne }
  | degraded v error =>
    rw [ho] at hlast
    obtain ⟨fault, hs, hmessage⟩ := hlast.2.resolve_right hstatus
    exact {
      toLedger := h.ledger
      status := ⟨u, hu, by rw [ho]; exact ⟨fault, hs, hmessage⟩⟩
      owed := iff_of_false (by simp [hlast.1]) (by simp [hs])
      attempted := fun hidle => by simp [hs] at hidle }

theorem bookkept_repaired :
    ∃ p q, repaired.project 12 "a" = some p ∧ repaired.project 21 "a" = some q ∧
      p.status.isFaulty = true ∧ q.status = .idle ∧
      Bookkept (repaired.updates 12 "a") p ∧ Bookkept (repaired.updates 21 "a") q := by
  have hp : (repaired.project 12 "a").any (·.status.isFaulty) = true := by decide +kernel
  have hq : (repaired.project 21 "a").any (·.status = .idle) = true := by decide +kernel
  obtain ⟨p, hp, hfaulty⟩ := (Option.any_eq_true _ _).1 hp
  obtain ⟨q, hq, hidle⟩ := (Option.any_eq_true _ _).1 hq
  exact ⟨p, q, hp, hq, hfaulty, by simpa using hidle,
    bookkept hp (outside_of_isDone (by decide +kernel)),
    bookkept hq (outside_of_isDone (by decide +kernel))⟩

end Run
end Session
end LintWorkspace
