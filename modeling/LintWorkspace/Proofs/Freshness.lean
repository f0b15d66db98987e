/-
# A project tells the truth about the disk

A project knows the disk only from what its reloads read and from what it is told.
Callers owe it one thing: after every change of what can be read at a location that the
project goes by, the location is named in a notification (`Run.Unnamed`).  The opening of a
project reads first and copies analyzers then, so it can itself change what it has read; that
has to be named as well (`Run.Overwritten`), or the project goes on without it (`not_fresh`).

What a project remembers of its reading is `Informed`: the last reload that read the
definition read it on one disk, the last one that resolved the ruleset did so on
another, and every place that these looked at reads as it did then, or a change of it
was not named yet, or the work that it asks for is due (`Current`).

| the project | its last reading |
| --- | --- |
| owes nothing | the definition and the ruleset are what the snapshot says |
| owes the ruleset | the definition is what the snapshot says, the ruleset is at fault |
| owes everything | a build from the definition fails |

At rest, when everything was named, a build finds what the project says (`fresh`).
-/

import LintWorkspace.Proofs.Footprint
import LintWorkspace.Proofs.Work

namespace LintWorkspace

/-- The locations that a project goes by: its definition, the documents of its ruleset, and
those that the last attempt at the ruleset came to. -/
def OpenProject.basis (p : OpenProject) : List Location :=
  p.snapshot.definition :: (p.snapshot.documents ++ p.attempted)

namespace Session
namespace Run

variable {μ : Type} {r : Run μ} {n : Nat} {id : String} {p q : OpenProject} {need : Scope}
  {l : Location} {D : Disk}

/-! ### What is read, named and due -/

/-- What can be read at a location at a moment: a text, or a fault. -/
def reads (r : Run μ) (n : Nat) (l : Location) : Except DiskFault String :=
  (r.world n).disk.readText l.toPath

/-- A location is named in the notification that is answered at a moment. -/
def Names (r : Run μ) (n : Nat) (l : Location) : Prop :=
  ∃ changes told, r.task n = some (.answer (.notify changes told)) ∧
    ∃ c ∈ changes, c.path.normalize (r.world n).disk.cwd = l

/-- A location changed at a moment, and before another one it was not named. -/
def Missed (r : Run μ) (i n : Nat) (l : Location) : Prop :=
  i < n ∧ r.reads i l ≠ r.reads (i + 1) l ∧ ∀ j, i < j → j < n → ¬ r.Names j l

/-- A location has changed since a project was opened, and was not named after that. -/
def Unnamed (r : Run μ) (id : String) (n : Nat) (l : Location) : Prop :=
  ∃ i, (∃ q, r.project i id = some q) ∧ r.Missed i n l

/-- The opening of a project, which copies its analyzers in the end, changed a location that it
had read before, and this was not named after that. -/
def Overwritten (r : Run μ) (id : String) (n : Nat) (l : Location) : Prop :=
  ∃ i, r.project i id = none ∧ (∃ q, r.project (i + 1) id = some q ∧
    l ∈ q.snapshot.definition :: q.snapshot.documents) ∧ r.Missed i n l

theorem Missed.succ {i : Nat} (h : r.Missed i n l) (hnot : ¬ r.Names n l) :
    r.Missed i (n + 1) l := by
  obtain ⟨hi, hchange, hsilent⟩ := h
  refine ⟨by omega, hchange, fun j hij hjn => ?_⟩
  rcases Nat.lt_succ_iff_lt_or_eq.1 hjn with hlt | rfl
  · exact hsilent j hij hlt
  · exact hnot

/-- Work is due: it is to be scheduled, or it is in hand. -/
inductive Due (r : Run μ) (id : String) (n : Nat) (p : OpenProject) (need : Scope) : Prop
  | scheduled (e : Scope) (he : Task.schedule id e ∈ (r.state n).agenda)
    (hcov : e.covers need = true)
  | inHand (h : InHand r id n p need)

/-- A location reads as it did on a disk, or the work that a change of it asks for is not
done yet, if anybody was told of the change at all. -/
inductive Current (r : Run μ) (id : String) (n : Nat) (p : OpenProject) (D : Disk) (need : Scope)
    (l : Location) : Prop
  | same (h : D.readText l.toPath = r.reads n l)
  | unnamed (h : r.Unnamed id n l)
  | overwritten (h : r.Overwritten id n l)
  | due (h : Due r id n p need)

/-- Work that is due stays due until a reload that does it ends. -/
theorem due_succ (hp : r.project n id = some p) (hq : r.project (n + 1) id = some q)
    (h : Due r id n p need) :
    Due r id (n + 1) q need ∨ ∃ e, r.task n = some (.finish id e) ∧ e.covers need = true := by
  cases h with
  | inHand h => exact (inHand_succ hp h hq).imp_left .inHand
  | scheduled e he hcov =>
    left
    cases ht : r.task n with
    | none => exact .scheduled e (mem_agenda_succ_of_ne he (by simp [ht])) hcov
    | some t =>
      by_cases hnow : r.task n = some (.schedule id e)
      · exact .inHand (inHand_of_schedule hp hnow hcov hq)
      · exact .scheduled e (mem_agenda_succ_of_ne he hnow) hcov

/-- A notification that names a watched location makes the work due that it asks for. -/
theorem due_of_names (hp : r.project n id = some p) (hne : need.isEmpty = false)
    (hwatched : ∀ kind, (p.workFor l kind).covers need = true) (h : r.Names n l) :
    Due r id (n + 1) q need := by
  obtain ⟨changes, told, ht, c, hc, hl⟩ := h
  have hmem : (l, c.kind) ∈ changes.map fun c => (c.path.normalize (r.world n).disk.cwd, c.kind) :=
    List.mem_map.2 ⟨c, hc, by rw [hl]⟩
  have hcov := Scope.covers_trans (p.covers_workForAll hmem) (hwatched c.kind)
  have haffected := Workspace.mem_affected.2
    ⟨Scope.not_isEmpty_of_covers hcov hne, p, hp, rfl⟩
  refine .scheduled _ (mem_agenda_succ_of_spawns ht ?_) hcov
  simp only [Task.spawns, List.mem_append, List.mem_map]
  exact Or.inl ⟨_, (r.order n).mem_arrange.2 haffected, rfl⟩

/-- What was read at a moment is current at the next one. -/
theorem current_of_reads (hp : r.project n id = some p)
    (h : D.readText l.toPath = r.reads n l) : Current r id (n + 1) q D need l := by
  by_cases hsame : r.reads n l = r.reads (n + 1) l
  · exact .same (h.trans hsame)
  · exact .unnamed ⟨n, ⟨p, hp⟩, by omega, hsame, fun j hj hj' => by omega⟩

/-- What the opening of a project read is current when it is open. -/
theorem current_of_opening (hnone : r.project n id = none) (hq : r.project (n + 1) id = some q)
    (hl : l ∈ q.snapshot.definition :: q.snapshot.documents) :
    Current r id (n + 1) q (r.world n).disk need l := by
  by_cases hsame : r.reads n l = r.reads (n + 1) l
  · exact .same hsame
  · exact .overwritten ⟨n, hnone, ⟨q, hq, hl⟩, by omega, hsame, fun j hj hj' => by omega⟩

/-- **A watched location stays current until a reload ends that reads it again.** -/
theorem current_succ (hp : r.project n id = some p) (hq : r.project (n + 1) id = some q)
    (hne : need.isEmpty = false) (hwatched : ∀ kind, (p.workFor l kind).covers need = true)
    (h : Current r id n p D need l) :
    Current r id (n + 1) q D need l ∨
      ∃ e, r.task n = some (.finish id e) ∧ e.covers need = true := by
  by_cases hnames : r.Names n l
  · exact Or.inl (.due (due_of_names hp hne hwatched hnames))
  · cases h with
    | same h => exact Or.inl (current_of_reads hp h)
    | unnamed h =>
      obtain ⟨i, hopen, hmissed⟩ := h
      exact Or.inl (.unnamed ⟨i, hopen, hmissed.succ hnames⟩)
    | overwritten h =>
      obtain ⟨i, hnone, hread, hmissed⟩ := h
      exact Or.inl (.overwritten ⟨i, hnone, hread, hmissed.succ hnames⟩)
    | due h => exact (due_succ hp hq h).imp_left .due

/-- Nobody reloads a project: its queue is not worked on, and no notification is still
about to put work into it. -/
structure AtRest (r : Run μ) (id : String) (n : Nat) (p : OpenProject) : Prop where
  not_running : p.queue.running = false
  not_scheduled : ∀ e, Task.schedule id e ∉ (r.state n).agenda

/-- When nothing is left to do, every project is at rest. -/
theorem atRest_of_isDone (hp : r.project n id = some p) (h : (r.state n).isDone = true) :
    AtRest r id n p := by
  have hnil : (r.state n).agenda = [] := by simpa [isDone] using h
  refine ⟨?_, by simp [hnil]⟩
  cases hrun : p.queue.running with
  | false => rfl
  | true => simpa [hnil] using (orderly hp).drain_mem hrun

/-- At rest a current location reads as it did, if its last change was named. -/
theorem reads_of_current (hp : r.project n id = some p) (hrest : AtRest r id n p)
    (hnamed : ¬ r.Unnamed id n l) (hspared : ¬ r.Overwritten id n l)
    (h : Current r id n p D need l) : D.readText l.toPath = r.reads n l := by
  cases h with
  | same h => exact h
  | unnamed h => exact absurd h hnamed
  | overwritten h => exact absurd h hspared
  | due h =>
    cases h with
    | scheduled e he hcov => exact absurd he (hrest.not_scheduled e)
    | inHand h => exact absurd h (not_inHand hp hrest.not_running)

/-! ### What a project is informed of -/

/-- What a project remembers of its last reading, and how current that is. -/
inductive Informed (r : Run μ) (id : String) (n : Nat) (p : OpenProject) : Prop
  | sound (D E : Disk) (howed : p.owed = .none)
    (hstatus : p.status = .idle ∨ p.status = .reloading)
    (houtlined : Project.Outlined D p.snapshot)
    (hdef : Current r id n p D .full p.snapshot.definition)
    (hruleset : Project.rulesetFrom E p.snapshot.ruleset =
      .ok ⟨p.snapshot.severities, p.snapshot.documents⟩)
    (hdocs : ∀ l ∈ p.snapshot.documents, Current r id n p E .rulesetOnly l)
  | rulesetFault (D E : Disk) (fault : Project.BuildFault) (hne : p.owed.ruleset = true)
    (hpartial : p.owed.definition = false)
    (hstatus : p.status = .degraded fault.cause ∨ p.status = .reloading)
    (houtlined : Project.Outlined D p.snapshot)
    (hdef : Current r id n p D .full p.snapshot.definition)
    (hruleset : Project.rulesetFrom E p.snapshot.ruleset = .error fault)
    (hreached : fault.reached = some p.attempted)
    (hdocs : ∀ l ∈ p.attempted, Current r id n p E .rulesetOnly l)
  | buildFault (D : Disk) (last : Option Project.Snapshot) (fault : Project.BuildFault)
    (howed : p.owed.definition = true)
    (hstatus : p.status = .degraded fault.cause ∨ p.status = .reloading)
    (hdraft : Project.draft D last p.snapshot.definition = .error fault)
    (hdef : Current r id n p D .full p.snapshot.definition)
    (hreached : ∀ ls, fault.reached = some ls → p.attempted = ls)
    (hdocs : ∀ ls, fault.reached = some ls → ∀ l ∈ ls, Current r id n p D .rulesetOnly l)

/-- A moment that ends no reload of a project leaves it informed. -/
theorem Informed.of_same (hp : r.project n id = some p) (hq : r.project (n + 1) id = some q)
    (hquiet : ∀ e, r.task n ≠ some (.finish id e)) (hsnapshot : q.snapshot = p.snapshot)
    (howed : q.owed = p.owed) (hattempted : q.attempted = p.attempted)
    (hstatus : q.status = p.status ∨ q.status = .reloading) (h : Informed r id n p) :
    Informed r id (n + 1) q := by
  have hdef : ∀ D, Current r id n p D .full p.snapshot.definition →
      Current r id (n + 1) q D .full p.snapshot.definition := fun D h =>
    (current_succ hp hq rfl (fun kind => by rw [p.workFor_definition kind]; rfl) h).resolve_right
      fun ⟨e, he, _⟩ => hquiet e he
  have hdoc : ∀ D l, l ∈ p.snapshot.documents ∨ l ∈ p.attempted →
      Current r id n p D .rulesetOnly l → Current r id (n + 1) q D .rulesetOnly l :=
    fun D l hl h => (current_succ hp hq rfl (OpenProject.covers_workFor hl) h).resolve_right
      fun ⟨e, he, _⟩ => hquiet e he
  have hkept : ∀ s, p.status = s ∨ p.status = .reloading → q.status = s ∨ q.status = .reloading :=
    fun s hs => hstatus.elim (fun h => h ▸ hs) Or.inr
  cases h with
  | sound D E ho hs hout hd hr hdocs =>
    refine .sound D E (howed.trans ho) (hkept _ hs) (hsnapshot ▸ hout) (hsnapshot ▸ hdef D hd)
      (hsnapshot ▸ hr) fun l hl => ?_
    rw [hsnapshot] at hl
    exact hdoc E l (Or.inl hl) (hdocs l hl)
  | rulesetFault D E fault hne hpart hs hout hd hr hreach hdocs =>
    refine .rulesetFault D E fault (by rw [howed]; exact hne) (by rw [howed]; exact hpart)
      (hkept _ hs) (hsnapshot ▸ hout) (hsnapshot ▸ hdef D hd) (hsnapshot ▸ hr)
      (hattempted ▸ hreach) fun l hl => ?_
    rw [hattempted] at hl
    exact hdoc E l (Or.inr hl) (hdocs l hl)
  | buildFault D last fault ho hs hdraft hd hreach hdocs =>
    refine .buildFault D last fault (by rw [howed]; exact ho) (hkept _ hs) (hsnapshot ▸ hdraft)
      (hsnapshot ▸ hdef D hd) (hattempted ▸ hreach) fun ls hls l hl => ?_
    exact hdoc D l (Or.inr (hreach ls hls ▸ hl)) (hdocs ls hls l hl)

/-- A build that succeeds informs the project whose snapshot it makes. -/
theorem informed_of_build {o : Project.Options} {last : Option Project.Snapshot}
    {definition : Location} {s : Project.Snapshot}
    (hcurrent : ∀ need, ∀ l ∈ q.snapshot.definition :: q.snapshot.documents,
      Current r id (n + 1) q (r.world n).disk need l)
    (hs : (Project.build o (r.world n).disk last definition).2 = .ok s)
    (hsnapshot : s.SameRuleset q.snapshot) (howed : q.owed = .none) (hstatus : q.status = .idle) :
    Informed r id (n + 1) q := by
  obtain ⟨-, hout, hr⟩ := Project.of_build_eq_ok hs
  refine .sound _ _ howed (Or.inl hstatus) (hout.of_sameOutline hsnapshot.toSameOutline)
    (hcurrent _ _ List.mem_cons_self) ?_ fun l hl => hcurrent _ l (List.mem_cons_of_mem _ hl)
  rw [hsnapshot.ruleset, hsnapshot.severities, hsnapshot.documents]
  exact hr

/-- The end of a reload from the definition informs the project anew. -/
theorem informed_of_full {scope : Scope} (hscope : scope.definition = true)
    (hp : r.project n id = some p) :
    Informed r id (n + 1) (p.settle scope
      (Project.rebuild (r.world n).options (r.world n).disk p.snapshot scope).2) := by
  rw [Project.rebuild, if_pos hscope]
  generalize hres : (Project.build (r.world n).options (r.world n).disk (some p.snapshot)
    p.snapshot.definition).2 = result
  cases result with
  | ok s =>
    exact informed_of_build (fun _ _ _ => current_of_reads hp rfl) hres (s.sameRuleset_version _)
      rfl rfl
  | error fault =>
    have hdraft : Project.draft (r.world n).disk (some p.snapshot) p.snapshot.definition =
        .error fault := by
      rw [Project.build_snd] at hres
      cases hdraft : Project.draft (r.world n).disk (some p.snapshot) p.snapshot.definition with
      | ok s => simp [hdraft, Except.map] at hres
      | error cause => simpa [hdraft, Except.map] using hres
    refine .buildFault _ _ fault hscope (Or.inl rfl) hdraft (current_of_reads hp rfl)
      (fun ls hls => ?_) fun ls _ l _ => current_of_reads hp rfl
    simp [OpenProject.settle, OpenProject.degrade, hls]

/-- The end of a reload of parts informs the project anew of the parts, and of the others
it stays informed. -/
theorem Informed.of_parts {scope : Scope} (hscope : scope.definition = false)
    (hp : r.project n id = some p) (ht : r.task n = some (.finish id scope))
    (hq : r.project (n + 1) id = some (p.settle scope
      (Project.rebuild (r.world n).options (r.world n).disk p.snapshot scope).2))
    (h : Informed r id n p) :
    Informed r id (n + 1) (p.settle scope
      (Project.rebuild (r.world n).options (r.world n).disk p.snapshot scope).2) := by
  obtain ⟨hcovr, -, -, hcovd⟩ := Scope.covers_iff.1 ((orderly hp).inReload scope ht).covers_owed
  rw [Project.rebuild, if_neg (by simp [hscope])] at hq ⊢
  -- The work of this reload is all that can end now.
  have hend : ∀ need, (∃ e, r.task n = some (.finish id e) ∧ e.covers need = true) →
      scope.covers need = true := by
    rintro need ⟨e, he, hcov⟩
    rw [ht, Option.some.injEq, Task.finish.injEq] at he
    exact he.2 ▸ hcov
  obtain ⟨D, hout, hdef⟩ : ∃ D, Project.Outlined D p.snapshot ∧
      Current r id n p D .full p.snapshot.definition := by
    cases h with
    | sound D E _ _ hout hdef _ _ => exact ⟨D, hout, hdef⟩
    | rulesetFault D E _ _ _ _ hout hdef _ _ _ => exact ⟨D, hout, hdef⟩
    | buildFault D last fault howed => simp [hcovd howed] at hscope
  have hdef := (current_succ hp hq rfl (fun kind => by rw [p.workFor_definition kind]; rfl)
    hdef).resolve_right fun he => by
      simp [(Scope.covers_iff.1 (hend _ he)).2.2.2 rfl] at hscope
  obtain ⟨e, ls, hls⟩ := hout.exists_sources
  have hsources : ∀ e' cause, Project.findSources e' p.snapshot.patterns ≠ .error cause :=
    fun e' cause hcause => by simp [Project.findSources_eq_error e hcause] at hls
  generalize hres : (Project.refresh (r.world n).options (r.world n).disk p.snapshot scope).2 =
    result at hq hdef ⊢
  cases result with
  | ok t =>
    obtain ⟨hsame, hresolved, hkept⟩ := Project.refresh_eq_ok hres
    have hout' := (hout.of_sameOutline hsame).of_sameOutline
      (t.sameRuleset_version (p.snapshot.version + 1)).toSameOutline
    by_cases hr : scope.ruleset = true
    · refine .sound D _ rfl (Or.inl rfl) hout' ?_ (hsame.ruleset ▸ hresolved hr)
        fun l _ => current_of_reads hp rfl
      exact hsame.definition ▸ hdef
    · cases h with
      | rulesetFault _ _ _ hne => exact absurd (hcovr hne) hr
      | buildFault _ _ _ howed => simp [hcovd howed] at hscope
      | sound _ E _ _ _ _ hresolved hdocs =>
        have hkept := hkept (by simpa using hr)
        refine .sound D E rfl (Or.inl rfl) hout' (hsame.definition ▸ hdef) ?_ fun l hl => ?_
        · rw [← hkept.ruleset, ← hkept.severities, ← hkept.documents] at hresolved
          exact hresolved
        · have hl : l ∈ p.snapshot.documents := hkept.documents ▸ hl
          refine (current_succ hp hq rfl (OpenProject.covers_workFor (Or.inl hl))
            (hdocs l hl)).resolve_right fun he => ?_
          exact hr ((Scope.covers_iff.1 (hend _ he)).1 rfl)
  | error fault =>
    rcases Project.refresh_eq_error hres with ⟨hr, hfault⟩ | ⟨e', cause, hcause, -⟩
    · have hreached := Project.reached_of_rulesetFrom hfault
      refine .rulesetFault D _ fault hr hscope (Or.inl rfl) hout hdef hfault ?_
        fun l _ => current_of_reads hp rfl
      simp [OpenProject.settle, OpenProject.degrade, hreached]
    · exact absurd hcause (hsources e' cause)

/-- **Every project is informed at every moment.** -/
theorem informed (hp : r.project n id = some p) : Informed r id n p := by
  refine induct_turn (motive := Informed r id) (fun n path told s _ hs _ hnone _ hq =>
    informed_of_build (fun _ _ hl => current_of_opening hnone hq hl) hs (s.sameRuleset_version 1)
      rfl rfl)
    (fun n q p hq hp hturn ih => ?_) hp
  cases hturn with
  | kept ht => exact ih.of_same hq hp (fun e he => ht _ he rfl) rfl rfl rfl (Or.inl rfl)
  | enqueued scope ht => exact ih.of_same hq hp (by simp [ht]) rfl rfl rfl (Or.inl rfl)
  | started ht =>
    cases hpending : q.queue.pending with
    | none =>
      rw [OpenProject.start_of_pending_eq_none hpending] at hp ⊢
      exact ih.of_same hq hp (by simp [ht]) rfl rfl rfl (Or.inl rfl)
    | some e =>
      rw [OpenProject.start_of_pending_eq_some hpending] at hp ⊢
      exact ih.of_same hq hp (by simp [ht]) rfl rfl rfl (Or.inr rfl)
  | settled scope ht =>
    by_cases hscope : scope.definition = true
    · exact informed_of_full hscope hq
    · exact ih.of_parts (by simpa using hscope) hq ht hp

/-- A project tells the truth about the disk: its status and its snapshot are those of a build
from its definition. -/
def Truthful (w : Workspace) (p : OpenProject) : Prop :=
  ∀ last, let result := (Project.build w.options w.disk last p.snapshot.definition).2
    match p.status with
    | .idle => ∃ s, result = .ok s ∧ p.snapshot.Agrees s
    | .degraded e => ∃ fault, result = .error fault ∧ fault.cause = e
    | .reloading => False

/-- **At rest a project tells the truth about the disk.**  Whatever happened before, when
nobody reloads a project and every change of what it goes by was named, those of its own opening
too where they concern what it had read. -/
theorem fresh (hp : r.project n id = some p) (hrest : AtRest r id n p)
    (hnamed : ∀ l ∈ p.basis, ¬ r.Unnamed id n l) (hspared : ∀ l ∈ p.basis, ¬ r.Overwritten id n l) :
    Truthful (r.world n) p := by
  have hreads : ∀ {D need l}, l ∈ p.basis → Current r id n p D need l →
      D.readText l.toPath = r.reads n l := fun hl =>
    reads_of_current hp hrest (hnamed _ hl) (hspared _ hl)
  have hdefinition : p.snapshot.definition ∈ p.basis := List.mem_cons_self
  have hdocument : ∀ l ∈ p.snapshot.documents, l ∈ p.basis := fun l hl =>
    List.mem_cons_of_mem _ (List.mem_append_left _ hl)
  have hattempted : ∀ l ∈ p.attempted, l ∈ p.basis := fun l hl =>
    List.mem_cons_of_mem _ (List.mem_append_right _ hl)
  have hreloading : p.status ≠ .reloading := fun hs => by
    obtain ⟨e, he⟩ := (orderly hp).task_eq hs
    simpa [hrest.not_running] using ((orderly hp).inReload e he).running
  intro last result
  cases informed hp with
  | sound D E _ hs hout hdef hr hdocs =>
    rw [hs.resolve_right hreloading]
    exact Project.build_congr_ok hout (hreads hdefinition hdef)
      (Project.rulesetFrom_congr_ok hr fun l hl => hreads (hdocument l hl) (hdocs l hl))
  | rulesetFault D E fault _ _ hs hout hdef hr hreached hdocs =>
    rw [hs.resolve_right hreloading]
    have hfault := Project.rulesetFrom_congr_error hr hreached fun l hl =>
      hreads (hattempted l hl) (hdocs l hl)
    exact ⟨fault, Project.build_congr_of_ruleset hout (hreads hdefinition hdef) hfault, rfl⟩
  | buildFault D last' fault _ hs hdraft hdef hreached hdocs =>
    rw [hs.resolve_right hreloading]
    exact ⟨fault, Project.build_congr_error hdraft (hreads hdefinition hdef) (fun ls hls l hl =>
      hreads (hattempted l (hreached ls hls ▸ hl)) (hdocs ls hls l hl)), rfl⟩

/-- The edit of the document is named before the run is at rest again. -/
theorem named_repaired (l : Location) : ¬ repaired.Unnamed "a" 12 l := by
  have hput : (repaired.world 5).disk =
      (repaired.world 4).disk.put brokenDocument (.file "rules = 1".toUTF8) := by decide +kernel
  have hfile : (repaired.world 4).disk.entryAt brokenDocument =
      some (.file "rules = [[\"X\", \"warn\"]]".toUTF8) := by decide +kernel
  have hroot : brokenDocument ≠ .root := by decide +kernel
  have hsame : ∀ i < 12, i ≠ 4 → (repaired.world i).disk = (repaired.world (i + 1)).disk := by
    decide +kernel
  have hnames : repaired.Names 6 brokenDocument := by
    have h : (repaired.task 6).any (fun t => match t with
      | .answer (.notify changes _) =>
        changes.any fun c => c.path.normalize (repaired.world 6).disk.cwd = brokenDocument
      | _ => false) = true := by decide +kernel
    obtain ⟨t, ht, hchange⟩ := (Option.any_eq_true _ _).1 h
    split at hchange
    · rename_i changes told
      obtain ⟨c, hc, hl⟩ := List.any_eq_true.1 hchange
      exact ⟨changes, told, ht, c, hc, by simpa using hl⟩
    · simp at hchange
  rintro ⟨i, -, hi, hchange, hnot⟩
  by_cases hi4 : i = 4
  · subst hi4
    by_cases hl : l = brokenDocument
    · exact hnot 6 (by omega) (by omega) (hl ▸ hnames)
    · refine hchange ?_
      unfold reads
      rw [hput]
      refine (Disk.Edited.put _ hroot _).readText_eq hl
        (Or.inl ⟨_, "rules = 1".toUTF8, hfile, ?_⟩)
      rw [Disk.entryAt_put _ _ _ _ hroot, if_pos rfl]
  · exact hchange (by unfold reads; rw [hsame i hi hi4])

/-- Nothing is copied when the project is opened. -/
theorem spared_repaired (l : Location) : ¬ repaired.Overwritten "a" 12 l := by
  have hopen : ∀ i < 12, repaired.project i "a" = none → i < 2 := by decide +kernel
  have hsame : ∀ i < 2, (repaired.world i).disk = (repaired.world (i + 1)).disk := by
    decide +kernel
  rintro ⟨i, hnone, -, hi, hchange, -⟩
  exact hchange (by unfold reads; rw [hsame i (hopen i hi hnone)])

/-- A project with a ruleset and an analyzer. -/
def packed : Run Unit := opening "ruleset = \"r.toml\"\nanalyzers = [\"x.pack\"]\n"
  [("/x.pack", .file "name = \"x\"\n".toUTF8),
    ("/r.toml", .file "rules = [[\"X\", \"warn\"]]\n".toUTF8)]

/-- Once the project is open, the disk stays as it is. -/
theorem named_opening {definition : String} {entries : List (String × DiskEntry)}
    (hnone : (opening definition entries).project 1 "a" = none)
    (hsame : ((opening definition entries).world 2).disk =
      ((opening definition entries).world 3).disk) (l : Location) :
    ¬ (opening definition entries).Unnamed "a" 3 l := by
  rintro ⟨i, ⟨q, hopen⟩, hi, hchange, -⟩
  obtain rfl | rfl | rfl : i = 0 ∨ i = 1 ∨ i = 2 := by omega
  · cases hopen
  · rw [hnone] at hopen
    cases hopen
  · exact hchange (by rw [reads, reads, hsame])

/-- The copy that the opening makes is none of the files that it read. -/
theorem spared_packed (l : Location) : ¬ packed.Overwritten "a" 3 l := by
  have hread : ∀ i < 3, packed.project i "a" = none →
      (packed.project (i + 1) "a").all (fun q =>
        (q.snapshot.definition :: q.snapshot.documents).all fun l =>
          packed.reads i l = packed.reads (i + 1) l) = true := by decide +kernel
  rintro ⟨i, hnone, ⟨q, hq, hl⟩, hi, hchange, -⟩
  have hall := hread i hi hnone
  rw [hq, Option.all_some, List.all_eq_true] at hall
  exact hchange (by simpa using hall l hl)

/-- A degraded project must be so after an edit that was named; and a project whose opening left
a copy is what a build finds. -/
theorem fresh_repaired_packed :
    (∃ p e, repaired.project 12 "a" = some p ∧ p.status = .degraded e ∧
      ∃ fault, (Project.build (repaired.world 12).options (repaired.world 12).disk none
        p.snapshot.definition).2 = .error fault ∧ fault.cause = e) ∧
    (packed.world 1).disk ≠ (packed.world 2).disk ∧
      ∃ p, packed.project 3 "a" = some p ∧ p.status = .idle ∧
        ∃ s, (Project.build (packed.world 3).options (packed.world 3).disk none
          p.snapshot.definition).2 = .ok s ∧ p.snapshot.Agrees s := by
  refine ⟨?_, by decide +kernel, ?_⟩
  · have hp : (repaired.project 12 "a").any (fun p => p.status.isFaulty) = true := by
      decide +kernel
    obtain ⟨p, hp, hfaulty⟩ := (Option.any_eq_true _ _).1 hp
    have hrest : AtRest repaired "a" 12 p := atRest_of_isDone hp (by decide +kernel)
    have hfresh := fresh hp hrest (fun l _ => named_repaired l) (fun l _ => spared_repaired l) none
    cases hs : p.status with
    | degraded e =>
      rw [hs] at hfresh
      exact ⟨p, e, hp, hs, hfresh⟩
    | idle => simp [hs, Status.isFaulty] at hfaulty
    | reloading => simp [hs, Status.isFaulty] at hfaulty
  · have hp : (packed.project 3 "a").any (fun p => p.status = .idle) = true := by decide +kernel
    obtain ⟨p, hp, hidle⟩ := (Option.any_eq_true _ _).1 hp
    have hs : p.status = .idle := of_decide_eq_true hidle
    have hrest : AtRest packed "a" 3 p := atRest_of_isDone hp (by decide +kernel)
    have hnamed := named_opening (show packed.project 1 "a" = none by decide +kernel)
      (show (packed.world 2).disk = (packed.world 3).disk by decide +kernel)
    have hfresh := fresh hp hrest (fun l _ => hnamed l) (fun l _ => spared_packed l) none
    rw [hs] at hfresh
    exact ⟨p, hp, hs, hfresh⟩

/-! ### An opening that overwrites what it read -/

/-- A project whose ruleset stands where its analyzer is copied to, with fewer rules in it. -/
def swallowed : Run Unit :=
  opening "ruleset = \"staging/a/aabfac21f2cfee8d/d.toml\"\nanalyzers = [\"d.toml\"]\n"
    [("/staging", .directory), ("/staging/a", .directory),
      ("/staging/a/aabfac21f2cfee8d", .directory),
      ("/staging/a/aabfac21f2cfee8d/d.toml", .file "rules = []\n".toUTF8),
      ("/d.toml", .file "rules = [[\"X\", \"warn\"]]\n".toUTF8)]

/-- **A project need not know what its opening did,** although nothing changes after it. -/
theorem not_fresh : ¬ ∀ (r : Run Unit) (n : Nat) (id : String) (p : OpenProject),
    r.project n id = some p → AtRest r id n p → (∀ l, ¬ r.Unnamed id n l) →
      Truthful (r.world n) p := by
  intro hall
  have hp : (swallowed.project 3 "a").any (fun p => p.status = .idle &&
      (Project.build (swallowed.world 3).options (swallowed.world 3).disk none
        p.snapshot.definition).2.toOption.any fun s => s.severities ≠ p.snapshot.severities) =
      true := by decide +kernel
  obtain ⟨p, hp, h⟩ := (Option.any_eq_true _ _).1 hp
  simp only [Bool.and_eq_true, decide_eq_true_eq] at h
  obtain ⟨hidle, hbuild⟩ := h
  obtain ⟨s, hs, hdiffers⟩ := (Option.any_eq_true _ _).1 hbuild
  have hnamed := named_opening (show swallowed.project 1 "a" = none by decide +kernel)
    (show (swallowed.world 2).disk = (swallowed.world 3).disk by decide +kernel)
  have htruth := hall swallowed 3 "a" p hp (atRest_of_isDone hp (by decide +kernel)) hnamed none
  rw [hidle] at htruth
  obtain ⟨t, ht, hagrees⟩ := htruth
  rw [ht, Except.toOption, Option.some.injEq] at hs
  subst hs
  exact absurd hagrees.severities (by simpa using hdiffers)

end Run
end Session
end LintWorkspace
