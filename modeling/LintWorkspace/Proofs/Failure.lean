/-
# What fails changes nothing

| what fails | what stays |
| --- | --- |
| opening a project | all projects, with everything they hold; nobody hears of it |
| a reload | the snapshot of the project, and all other projects |
| an operation on an id that is not open | everything |

A reload can fail after parts of its scope were done again.  None of them shows: the
snapshot of a project changes only at a moment that announces the next version
(`snapshot_eq_of_nonePublished`), so diagnostics come from the last good snapshot until a
reload succeeds (`leaves_as_it_was`).
-/

import LintWorkspace.Proofs.Coherence
import LintWorkspace.Proofs.Diagnosis
import LintWorkspace.Proofs.Ledger
import LintWorkspace.Proofs.Quiet

namespace LintWorkspace
namespace Session
namespace Run

variable {μ : Type} {r : Run μ} {n m : Nat} {id : String} {p : OpenProject} {scope : Scope}

/-! ### Opening -/

/-- An opening that fails is the whole of its moment. -/
theorem state_succ_of_addProject {path : Path} {told : Except ProjectFault String → μ → μ}
    {fault : ProjectFault} (ht : r.task n = some (.answer (.addProject path told)))
    (hfail : ((r.world n).addProject path).2 = .error fault) :
    r.state (n + 1) = {
      workspace := ((r.world n).addProject path).1
      memory := told (.error fault) (r.state n).memory
      agenda := (r.state n).agenda.tail } := by
  obtain ⟨rest, he⟩ := List.head?_eq_some_iff.1 ht
  rw [state_succ_of_cons he, he, List.tail_cons]
  simp only [stepIn, he, perform, answer]
  unfold world at *
  rcases hadd : (r.state n).workspace.addProject path with ⟨w, result⟩
  rw [hadd] at hfail
  obtain rfl : result = .error fault := hfail
  rfl

/-- Nobody hears of an opening that fails. -/
theorem heard_of_addProject {path : Path} {told : Except ProjectFault String → μ → μ}
    {fault : ProjectFault} (ht : r.task n = some (.answer (.addProject path told)))
    (hfail : ((r.world n).addProject path).2 = .error fault) : r.heard n = none := by
  simp [heard, ht, Task.heard, hfail, Except.toOption]

/-! ### Reloads -/

/-- No reload of a project that ends between two moments succeeds. -/
def NonePublished (r : Run μ) (id : String) (n m : Nat) : Prop :=
  ∀ k u, n ≤ k → k < m → r.heard k = some u → u.project = id → u.published? = none

/-- A reload that succeeds is announced with its version. -/
theorem published?_of_finish {s : Project.Snapshot} (hp : r.project n id = some p)
    (ht : r.task n = some (.finish id scope))
    (hs : (Project.rebuild (r.world n).options (r.world n).disk p.snapshot scope).2 = .ok s) :
    ∃ u, r.heard n = some u ∧ u.project = id ∧ u.published? = some (p.snapshot.version + 1) := by
  refine ⟨_, heard_of_finish hp ht, ?_, ?_⟩
  · rw [hs]
    exact (Project.rebuild_eq_ok hs).1.trans (orderly hp).id_eq
  · rw [hs]
    rfl

/-- **A snapshot changes only when a version is announced.** -/
theorem snapshot_eq_of_nonePublished (hp : r.project n id = some p) (hle : n ≤ m)
    (hquiet : r.NonePublished id n m) :
    ∃ q, r.project m id = some q ∧ q.snapshot = p.snapshot := by
  induction hle with
  | refl => exact ⟨p, hp, rfl⟩
  | @step m hle ih =>
    obtain ⟨q, hq, hsame⟩ := ih fun k u hk hkm => hquiet k u hk (Nat.lt_succ_of_lt hkm)
    obtain ⟨q', hq', hturn⟩ := exists_turn hq
    refine ⟨q', hq', ?_⟩
    rw [← hsame]
    cases hturn with
    | kept => rfl
    | enqueued => rfl
    | started => exact OpenProject.snapshot_start q
    | settled scope ht =>
      cases hres : (Project.rebuild (r.world m).options (r.world m).disk q.snapshot scope).2 with
      | error fault => rfl
      | ok s =>
        obtain ⟨u, hu, hid, hversion⟩ := published?_of_finish hq ht hres
        rw [hquiet m u hle (Nat.lt_succ_self m) hu hid] at hversion
        simp at hversion

/-- Until a version is announced, questions are answered from the snapshot there is. -/
theorem answers_of_nonePublished (hp : r.project n id = some p) (hle : n ≤ m)
    (hquiet : r.NonePublished id n m) :
    (r.world m).snapshot id = .ok p.snapshot ∧
    ∀ file, (r.world m).diagnostics id file =
      Workspace.analyze (r.world m).disk p.snapshot file := by
  obtain ⟨q, hq, hsame⟩ := snapshot_eq_of_nonePublished hp hle hquiet
  rw [← hsame]
  refine ⟨?_, fun file => Workspace.diagnostics_eq hq file⟩
  unfold project at hq
  simp [Workspace.snapshot, Workspace.project, hq, Except.map]

/-- The end of a reload changes no other project. -/
theorem project_succ_of_finish {other : String} (ht : r.task n = some (.finish id scope))
    (hne : other ≠ id) : r.project (n + 1) other = r.project n other := by
  obtain ⟨rest, he⟩ := List.head?_eq_some_iff.1 ht
  unfold project world
  rw [state_succ_of_cons he, find?_step r.listen (r.order n) he (by simp)]
  simp [Task.turn, Ne.symm hne]

/-! ### Ids that are not open -/

theorem project_eq_error {w : Workspace} (hnone : w.projects.find? id = none) :
    w.project id = .error (.unknownProject id) := by
  simp [Workspace.project, hnone]

/-- Every question about an id that is not open is answered with the same fault. -/
theorem answers_of_not_open {w : Workspace} (hnone : w.projects.find? id = none) :
    w.snapshot id = .error (.unknownProject id) ∧
    (∀ file, w.diagnostics id file = .error (.unknownProject id)) ∧
    ∀ files, w.check id files = .error (.unknownProject id) := by
  have hsnapshot : w.snapshot id = .error (.unknownProject id) := by
    rw [Workspace.snapshot, project_eq_error hnone]
    rfl
  refine ⟨hsnapshot, fun file => ?_, fun files => ?_⟩
  · rw [Workspace.diagnostics, hsnapshot]
    rfl
  · rw [Workspace.check, hsnapshot]
    rfl

/-- The same goes for what is to be restored, and that is the whole of its moment. -/
theorem state_succ_of_restored {told : Except ProjectFault Unit → μ → μ}
    (ht : r.task n = some (.answer (.restored id told))) (hnone : r.project n id = none) :
    r.state (n + 1) = {
      workspace := (r.state n).workspace
      memory := told (.error (.unknownProject id)) (r.state n).memory
      agenda := (r.state n).agenda.tail } := by
  have hproject : (r.state n).workspace.project id = .error (.unknownProject id) :=
    project_eq_error hnone
  obtain ⟨rest, he⟩ := List.head?_eq_some_iff.1 ht
  rw [state_succ_of_cons he, he, List.tail_cons]
  simp only [stepIn, he, perform, answer]
  rw [hproject]
  rfl

/-- **What fails leaves everything as it was.**  An opening that fails changes no project and
is not announced.  After a reload that fails, the other projects are as they were, and until
one succeeds the snapshot of the project is the one before, and its diagnostics come from
that snapshot.  Whatever is asked of an id that is not open is answered with a fault, and
changes nothing. -/
theorem leaves_as_it_was (r : Run μ) (n : Nat) :
    (∀ path told fault, r.task n = some (.answer (.addProject path told)) →
      ((r.world n).addProject path).2 = .error fault →
      (r.world (n + 1)).projects = (r.world n).projects ∧
      r.heard n = none ∧ (∀ id, r.updates (n + 1) id = r.updates n id) ∧
      (r.state (n + 1)).agenda = (r.state n).agenda.tail ∧
      (r.state (n + 1)).memory = told (.error fault) (r.state n).memory) ∧
    (∀ id scope p fault, r.task n = some (.finish id scope) → r.project n id = some p →
      (Project.rebuild (r.world n).options (r.world n).disk p.snapshot scope).2 = .error fault →
      (∀ other, other ≠ id → r.project (n + 1) other = r.project n other) ∧
      r.project (n + 1) id = some (p.degrade scope fault) ∧
      ∀ m, n < m → r.NonePublished id (n + 1) m →
        (r.world m).snapshot id = .ok p.snapshot ∧
        ∀ file, (r.world m).diagnostics id file =
          Workspace.analyze (r.world m).disk p.snapshot file) ∧
    (∀ id, r.project n id = none →
      (∀ told, r.task n = some (.answer (.restored id told)) →
        r.heard n = none ∧ r.state (n + 1) = {
          workspace := (r.state n).workspace
          memory := told (.error (.unknownProject id)) (r.state n).memory
          agenda := (r.state n).agenda.tail }) ∧
      (r.world n).snapshot id = .error (.unknownProject id) ∧
      (∀ file, (r.world n).diagnostics id file = .error (.unknownProject id)) ∧
      ∀ files, (r.world n).check id files = .error (.unknownProject id)) := by
  refine ⟨?_, ?_, ?_⟩
  · intro path told fault ht hfail
    have hstate := state_succ_of_addProject ht hfail
    have hquiet := heard_of_addProject ht hfail
    refine ⟨?_, hquiet, fun id => by simp [updates_succ, hquiet], by rw [hstate], by rw [hstate]⟩
    rw [world, hstate]
    exact Workspace.projects_addProject_of_error hfail
  · intro id scope p fault ht hp hfail
    have hnext : r.project (n + 1) id = some (p.degrade scope fault) := by
      rw [project_succ hp, ht]
      simp [Task.turn, hfail, OpenProject.settle]
    refine ⟨fun other hne => project_succ_of_finish ht hne, hnext, fun m hlt hquiet => ?_⟩
    have hanswers := answers_of_nonePublished hnext hlt hquiet
    exact hanswers
  · intro id hnone
    exact ⟨fun told ht => ⟨by simp [heard, ht, Task.heard], state_succ_of_restored ht hnone⟩,
      answers_of_not_open hnone⟩

theorem exists_error {ε α : Type} {x : Except ε α} (h : x.toOption.isNone = true) :
    ∃ e, x = .error e := by
  cases x with
  | error e => exact ⟨e, rfl⟩
  | ok a => simp [Except.toOption] at h

/-- A run in which a project is opened twice, an id that is not open is restored, and then the
ruleset of the project is broken.  The three fail at the moments 4, 6 and 13. -/
def troubled : Run Unit :=
  { repaired with
    calls
      | 0 | 3 => some (.addProject (.ofText "/w/a.toml") fun _ m => m)
      | 5 => some (.restored "b" fun _ m => m)
      | 7 => some (edit "rules = 1")
      | 9 => some tellEdit
      | _ => none }

/-- The project is opened once, and keeps its snapshot when its reload fails. -/
theorem leaves_as_it_was_troubled :
    (troubled.world 5).projects = (troubled.world 4).projects ∧ troubled.heard 4 = none ∧
    (troubled.state 7).workspace = (troubled.state 6).workspace ∧
    ∃ p q, troubled.project 13 "a" = some p ∧ troubled.project 14 "a" = some q ∧
      q.status.isFaulty = true ∧ (troubled.world 16).snapshot "a" = .ok p.snapshot := by
  have htwice : troubled.task 4 = some (.answer (.addProject (.ofText "/w/a.toml") _)) :=
    task_of_agenda (agenda_of_call (n := 3) (by decide +kernel) rfl)
  have hunknown : troubled.task 6 = some (.answer (.restored "b" _)) :=
    task_of_agenda (agenda_of_call (n := 5) (by decide +kernel) rfl)
  obtain ⟨duplicate, hduplicate⟩ : ∃ fault,
      ((troubled.world 4).addProject (.ofText "/w/a.toml")).2 = .error fault :=
    exists_error (by decide +kernel)
  have hclosed : troubled.project 6 "b" = none :=
    Option.isNone_iff_eq_none.1 (by decide +kernel)
  have hfinish : (troubled.task 13).any (fun t => match t with
      | .finish id scope => id = "a" ∧ scope = .rulesetOnly
      | .answer _ | .tell _ | .schedule .. | .drain _ => false) = true := by decide +kernel
  have hbroken : (troubled.project 13 "a").any (fun p =>
      (Project.rebuild (troubled.world 13).options (troubled.world 13).disk p.snapshot
        .rulesetOnly).2.toOption.isNone) = true := by decide +kernel
  have hsilent : (List.range' 14 2).all (fun k => (troubled.heard k).isNone) = true := by
    decide +kernel
  obtain ⟨t, ht, hscope⟩ := (Option.any_eq_true _ _).1 hfinish
  obtain ⟨p, hp, hfails⟩ := (Option.any_eq_true _ _).1 hbroken
  obtain ⟨fault, hfault⟩ := exists_error hfails
  obtain rfl : t = .finish "a" .rulesetOnly := by
    cases t with
    | finish id scope =>
      simp only [decide_eq_true_eq] at hscope
      rw [hscope.1, hscope.2]
    | _ => simp at hscope
  obtain ⟨hprojects, hunheard, -⟩ :=
    (leaves_as_it_was troubled 4).1 _ _ duplicate htwice hduplicate
  obtain ⟨-, hstate⟩ := ((leaves_as_it_was troubled 6).2.2 "b" hclosed).1 _ hunknown
  obtain ⟨-, hq, hlater⟩ := (leaves_as_it_was troubled 13).2.1 "a" _ p fault ht hp hfault
  refine ⟨hprojects, hunheard, by rw [hstate], p, _, hp, hq, rfl, (hlater 16 (by decide) ?_).1⟩
  intro k u hk hk' hu
  have hnone := List.all_eq_true.1 hsilent k (List.mem_range'_1.2 ⟨hk, hk'⟩)
  simp [hu] at hnone

end Run
end Session
end LintWorkspace
