/-
# No work is lost

Work that was taken into the queue of a project is in hand (`InHand`) until a
reload that does it ends: it waits in the queue, merged with other work, or it is
part of the reload that ends next.  If that reload fails, the work is owed, and
every later reload takes on all that is owed.

So when nobody drains the queue any more, a reload has done the work and was
published, or the project is degraded and owes it (`served_or_owed`).
-/

import LintWorkspace.Proofs.Ledger
import Mathlib.Data.Nat.Init

namespace LintWorkspace
namespace Session
namespace Run

variable {μ : Type} {r : Run μ} {i n : Nat} {id : String} {p q : OpenProject} {need : Scope}

/-- Work is in hand: it is pending, or part of the reload that ends next. -/
inductive InHand (r : Run μ) (id : String) (n : Nat) (p : OpenProject) (need : Scope) : Prop
  | pending (e : Scope) (he : p.queue.pending = some e) (hcov : e.covers need = true)
  | finishing (e : Scope) (he : r.task n = some (.finish id e)) (hcov : e.covers need = true)

/-- Work that is taken in is in hand. -/
theorem inHand_of_schedule {e : Scope} (hp : r.project n id = some p)
    (ht : r.task n = some (.schedule id e)) (hcov : e.covers need = true)
    (hq : r.project (n + 1) id = some q) : InHand r id (n + 1) q need := by
  cases turn_of_succ hp hq with
  | kept hother => exact absurd rfl (hother _ ht)
  | enqueued scope ht' =>
    obtain ⟨e', he', hcov', -⟩ := p.pending_enqueue scope
    rw [ht, Option.some.injEq, Task.schedule.injEq] at ht'
    exact .pending e' he' (Scope.covers_trans (ht'.2 ▸ hcov') hcov)
  | started ht' => simp [ht] at ht'
  | settled scope ht' => simp [ht] at ht'

/-- **Work stays in hand until a reload that does it ends.** -/
theorem inHand_succ (hp : r.project n id = some p) (h : InHand r id n p need)
    (hq : r.project (n + 1) id = some q) :
    InHand r id (n + 1) q need ∨ ∃ e, r.task n = some (.finish id e) ∧ e.covers need = true := by
  cases h with
  | finishing e he hcov => exact Or.inr ⟨e, he, hcov⟩
  | pending e he hcov =>
    left
    cases turn_of_succ hp hq with
    | kept ht => exact .pending e he hcov
    | enqueued scope ht =>
      obtain ⟨e', he', -, hold⟩ := p.pending_enqueue scope
      exact .pending e' he' (Scope.covers_trans (hold e he) hcov)
    | started ht =>
      have hstart : ((r.world n).start id).2 = some (e.merge p.owed) := by
        rw [start_world hp, OpenProject.start_of_pending_eq_some he]
      exact .finishing (e.merge p.owed) (finish_of_started ht hstart)
        (Scope.covers_trans (Scope.covers_merge_left e p.owed) hcov)
    | settled scope ht => exact .pending e (by simpa using he) hcov

/-- At rest nothing is in hand. -/
theorem not_inHand (hp : r.project n id = some p) (hrest : p.queue.running = false) :
    ¬ InHand r id n p need := by
  rintro (⟨e, he, -⟩ | ⟨e, he, -⟩)
  · simp [((orderly hp).pending e he).1] at hrest
  · simp [((orderly hp).inReload e he).running] at hrest

/-- At rest a project that owes work is degraded. -/
theorem isFaulty_of_owed (hp : r.project n id = some p) (hrest : p.queue.running = false)
    (howed : p.owed.isEmpty = false) : p.status.isFaulty = true := by
  obtain ⟨u, -, hlast⟩ := (accounted hp).last
  cases hout : u.outcome with
  | published v => simp [hout, howed] at hlast
  | degraded v error =>
    rw [hout] at hlast
    rcases hlast.2 with ⟨fault, hs, -⟩ | hs
    · rw [hs]
      rfl
    · obtain ⟨e, he⟩ := (orderly hp).task_eq hs
      simp [((orderly hp).inReload e he).running] at hrest

/-- A reload that started after moment `i` did the work, and its snapshot was published
before moment `n`. -/
structure Served (r : Run μ) (id : String) (i n : Nat) (need : Scope) : Prop where
  exists_reload : ∃ j e u v, i < j ∧ j + 1 < n ∧ e.covers need = true ∧
    r.task j = some (.drain id) ∧ r.task (j + 1) = some (.finish id e) ∧
    r.heard (j + 1) = some u ∧ u.project = id ∧ u.outcome = .published v

theorem Served.mono (h : Served r id i n need) : Served r id i (n + 1) need := by
  obtain ⟨j, e, u, v, hij, hjn, h⟩ := h.exists_reload
  exact ⟨j, e, u, v, hij, by omega, h⟩

/-- The end of a reload that does the work serves it, or leaves it owed. -/
theorem served_or_owed_of_finish {e : Scope} (hlt : i < n) (ht : r.task i ≠ some (.drain id))
    (hp : r.project n id = some p) (he : r.task n = some (.finish id e))
    (hcov : e.covers need = true) (hq : r.project (n + 1) id = some q) :
    Served r id i (n + 1) need ∨ q.owed.covers need = true := by
  have hid := (orderly hq).id_eq
  have hheard := heard_of_finish hp he
  cases turn_of_succ hp hq with
  | kept hother => exact absurd rfl (hother _ he)
  | enqueued scope ht' => simp [he] at ht'
  | started ht' => simp [he] at ht'
  | settled scope ht' =>
    rw [he, Option.some.injEq, Task.finish.injEq] at ht'
    obtain ⟨-, rfl⟩ := ht'
    generalize (Project.rebuild (r.world n).options (r.world n).disk p.snapshot e).2 = result
      at hid hheard ⊢
    cases result with
    | error fault => exact Or.inr hcov
    | ok s =>
      obtain ⟨j, rfl⟩ : ∃ j, n = j + 1 := ⟨n - 1, by omega⟩
      have hdrain := (started_of_finish he).1
      have hij : i ≠ j := by
        rintro rfl
        exact ht hdrain
      exact Or.inl ⟨j, e, _, _, by omega, by omega, hcov, hdrain, he, hheard, hid, rfl⟩

/-- What becomes of work that was taken in at moment `i`. -/
theorem inHand_or_served_or_owed (hs : r.task i = some (.schedule id need)) (hlt : i < n)
    (hp : r.project n id = some p) :
    InHand r id n p need ∨ Served r id i n need ∨ p.owed.covers need = true := by
  obtain ⟨p₀, hp₀⟩ := exists_project_of_schedule_mem (List.mem_of_mem_head? hs)
  induction n, hlt using Nat.le_induction generalizing p with
  | base =>
    exact Or.inl (inHand_of_schedule hp₀ hs need.covers_refl hp)
  | succ n hlt ih =>
    obtain ⟨q, hq⟩ := exists_project_of_le hp₀ (Nat.le_of_lt hlt)
    have hdone : ∀ e, r.task n = some (.finish id e) → e.covers need = true →
        Served r id i (n + 1) need ∨ p.owed.covers need = true := fun e he hcov =>
      served_or_owed_of_finish hlt (by simp [hs]) hq he hcov hp
    rcases ih hq with h | h | h
    · rcases inHand_succ hq h hp with h | ⟨e, he, hcov⟩
      · exact Or.inl h
      · exact Or.inr (hdone e he hcov)
    · exact Or.inr (Or.inl h.mono)
    · right
      cases turn_of_succ hq hp with
      | kept ht => exact Or.inr h
      | enqueued scope ht => exact Or.inr h
      | started ht =>
        right
        cases hpending : q.queue.pending with
        | none => rw [OpenProject.start_of_pending_eq_none hpending]; exact h
        | some e => rw [OpenProject.start_of_pending_eq_some hpending]; exact h
      | settled scope ht =>
        exact hdone scope ht (Scope.covers_trans ((orderly hq).inReload scope ht).covers_owed h)

/-- **No work is lost.**  When nobody drains the queue of a project, everything that was
ever taken in has been done by a later reload that was published, or the project is
degraded and owes it. -/
theorem served_or_owed (hs : r.task i = some (.schedule id need)) (hlt : i < n)
    (hp : r.project n id = some p) (hrest : p.queue.running = false) :
    Served r id i n need ∨ p.status.isFaulty = true ∧ p.owed.covers need = true := by
  rcases inHand_or_served_or_owed hs hlt hp with h | h | h
  · exact absurd h (not_inHand hp hrest)
  · exact Or.inl h
  · have hne : need.isEmpty = false :=
      not_isEmpty_of_schedule_mem (List.mem_of_mem_head? hs)
    exact Or.inr ⟨isFaulty_of_owed hp hrest (Scope.not_isEmpty_of_covers h hne), h⟩

/-- The edit that breaks the ruleset asks for the ruleset.  It is owed until the edit that
repairs it. -/
theorem served_or_owed_repaired :
    ∃ p q, repaired.project 12 "a" = some p ∧ repaired.project 21 "a" = some q ∧
      (Served repaired "a" 7 12 .rulesetOnly ∨
        p.status.isFaulty = true ∧ p.owed.covers .rulesetOnly = true) ∧
      q.status.isFaulty = false ∧ Served repaired "a" 7 21 .rulesetOnly := by
  have ht : repaired.task 7 = some (.schedule "a" .rulesetOnly) := by
    have h : (repaired.task 7).any (fun t => match t with
      | .schedule id scope => id = "a" ∧ scope = .rulesetOnly
      | _ => false) = true := by decide +kernel
    obtain ⟨t, ht, hscope⟩ := (Option.any_eq_true _ _).1 h
    cases t with
    | schedule id scope =>
      simp only [decide_eq_true_eq] at hscope
      rw [ht, hscope.1, hscope.2]
    | _ => simp at hscope
  have hp : (repaired.project 12 "a").any (fun p => !p.queue.running) = true := by decide +kernel
  have hq : (repaired.project 21 "a").any (fun q => !q.queue.running && !q.status.isFaulty) =
    true := by decide +kernel
  obtain ⟨p, hp, hrest⟩ := (Option.any_eq_true _ _).1 hp
  obtain ⟨q, hq, hidle⟩ := (Option.any_eq_true _ _).1 hq
  simp only [Bool.and_eq_true, Bool.not_eq_true'] at hrest hidle
  refine ⟨p, q, hp, hq, served_or_owed ht (by omega) hp hrest, hidle.2, ?_⟩
  rcases served_or_owed ht (by omega) hq hidle.1 with hserved | ⟨hfaulty, -⟩
  · exact hserved
  · simp [hidle.2] at hfaulty

end Run
end Session
end LintWorkspace
