/-
# Documents outside the staging tree

All that a reload writes are copies below the directory of its project in the staging tree
(`grown_rebuild`).  So a file that lies in no open project's part of that tree (`Unstaged`)
reads the same after any task that answers no request (`keeps_step`), and while the listener
asks for nothing there are no other tasks until the run is at rest (`keeps_of_quiet`).
-/

import LintWorkspace.Proofs.Parts
import LintWorkspace.Proofs.Quiet
import LintWorkspace.Proofs.Regrade

namespace LintWorkspace

namespace Disk

variable {d e : Disk} {top l m : Location} {p : Path} {text : String}

/-- A file that was not written over reads as before. -/
theorem Grown.readText_eq (h : Grown top d e) (hl : ¬ l.LiesBelow top)
    (hd : d.readText l.toPath = .ok text) : e.readText l.toPath = .ok text := by
  obtain ⟨bytes, hlocate, hentry, hutf8⟩ := exists_file_of_readText hd
  rw [Path.normalize_toPath] at hlocate hentry
  refine readText_of_entryAt ?_ ?_ hutf8
  · rw [Path.normalize_toPath]
    exact h.locate_eq hlocate
  · rw [Path.normalize_toPath]
    exact h.kept l bytes hl hentry

end Disk

namespace Ruleset

variable {d : Disk} {root x : Location} {r : Resolved}

/-- Every document of a ruleset can be read. -/
theorem exists_read_of_resolve (h : (resolve d root).1 = .ok r) (hx : x ∈ r.documents) :
    ∃ doc, Document.read d x = .ok doc := by
  obtain ⟨q, hcourse, hreached⟩ := visits_resolve d root
  rw [documents_of_resolve h, hreached] at hx
  obtain ⟨hsound, -⟩ := (hcourse.sound (sound_nil d)).2 r.severities (by rw [h]; rfl)
  have hdone : x ∈ q.settled := by simpa using (hsound.mem_reached x).1 hx
  obtain ⟨doc, hdoc, -⟩ := hsound.finished.targets_subset hdone
  exact ⟨doc, hdoc⟩

end Ruleset

namespace Project

variable {d F : Disk} {s : Snapshot} {o : Options} {last : Option Snapshot}
  {definition l : Location}

theorem rulesetFrom_some_iff {r : Ruleset.Resolved} {l : Location} :
    rulesetFrom F (some l) = .ok r ↔ (Ruleset.resolve F l).1 = .ok r := by
  rw [rulesetFrom]
  rcases Ruleset.resolve F l with ⟨fault | r', reached⟩ <;> simp

/-- Every document of a ruleset has a text. -/
theorem exists_text_of_rulesetFrom {root : Option Location} {r : Ruleset.Resolved} {x : Location}
    (h : rulesetFrom F root = .ok r) (hx : x ∈ r.documents) :
    ∃ text, F.readText x.toPath = .ok text := by
  cases root with
  | none =>
    obtain rfl := Except.ok.inj h
    simp [Ruleset.Resolved.none] at hx
  | some l =>
    obtain ⟨doc, hdoc⟩ := Ruleset.exists_read_of_resolve (rulesetFrom_some_iff.1 h) hx
    obtain ⟨text, htext, -⟩ := Ruleset.exists_text_of_read hdoc
    exact ⟨text, htext⟩

/-- A definition that is read has a text. -/
theorem exists_text_of_definition {path : Path} {said : Definition}
    (h : Definition.read d path = .ok said) : ∃ text, d.readText path = .ok text := by
  unfold Definition.read at h
  cases htext : d.readText path with
  | error fault => simp [htext] at h
  | ok text => exact ⟨text, rfl⟩

/-- A build that succeeds could read the definition and the documents of the ruleset. -/
theorem exists_text_of_build (h : (build o d last definition).2 = .ok s)
    (hl : l ∈ s.definition :: s.documents) : ∃ text, d.readText l.toPath = .ok text := by
  obtain ⟨-, houtlined, hruleset⟩ := of_build_eq_ok h
  rcases List.mem_cons.1 hl with rfl | hl
  · obtain ⟨earlier, u, hu, -⟩ := houtlined.exists_outline
    obtain ⟨said, hsaid, -⟩ := bind_eq_ok_iff.1 hu
    exact exists_text_of_definition (mapError_eq_ok_iff.1 hsaid)
  · exact exists_text_of_rulesetFrom hruleset hl

/-- **A build makes the disk grow** by copies below the directory of its project. -/
theorem grown_build (h : (build o d last definition).2 = .ok s) :
    Disk.Grown ((Analyzer.stagingDirectory o.staging s.id).normalize d.cwd) d
      (build o d last definition).1 := by
  unfold build at h ⊢
  cases hdraft : draft d last definition with
  | error fault => simp [hdraft] at h
  | ok t =>
    simp only [hdraft] at h
    obtain rfl := Except.ok.inj h
    exact grown_withAnalyzers o d t

/-- A reload leaves the disk as it was, or copies the analyzers of its project. -/
theorem disk_rebuild_cases (o : Options) (d : Disk) (s : Snapshot) (scope : Scope) :
    (rebuild o d s scope).1 = d ∨
      ∃ t : Snapshot, t.id = s.id ∧ (rebuild o d s scope).1 = (withAnalyzers o d t).1 := by
  unfold rebuild
  split
  · unfold build
    cases hdraft : draft d (some s) s.definition with
    | error fault => exact .inl rfl
    | ok t =>
      obtain ⟨u, hu, hsame⟩ := outline_of_draft hdraft
      exact .inr ⟨t, hsame.id.trans ((id_outline hu).2.2 s rfl), rfl⟩
  · unfold refresh
    split
    · exact .inl rfl
    · rename_i t ht
      have hid : t.id = s.id := by
        split at ht
        · obtain ⟨r, -, rfl⟩ := exists_of_withRuleset ht
          rfl
        · rw [Except.ok.inj ht]
      cases scope.analyzers with
      | true => exact .inr ⟨t, hid, rfl⟩
      | false => exact .inl rfl

/-- **A reload makes the disk grow** by copies below the directory of its project. -/
theorem grown_rebuild (o : Options) (d : Disk) (s : Snapshot) (scope : Scope) :
    Disk.Grown ((Analyzer.stagingDirectory o.staging s.id).normalize d.cwd) d
      (rebuild o d s scope).1 := by
  rcases disk_rebuild_cases o d s scope with heq | ⟨t, hid, heq⟩
  · rw [heq]
    exact .refl _ d
  · rw [heq, ← hid]
    exact grown_withAnalyzers o d t

end Project

namespace Workspace

variable {w w' w'' : Workspace} {l : Location} {id : String} {p q : OpenProject}

/-- A location lies in no open project's part of the staging tree. -/
def Unstaged (w : Workspace) (l : Location) : Prop :=
  ∀ id p, w.projects.find? id = some p → ¬ Project.Staged w.options w.disk p.snapshot l

/-- A workspace has become another one in which no more projects are open, copies go to the
same places, and a location that could be read reads the same. -/
structure Keeps (l : Location) (w w' : Workspace) : Prop where
  options_eq : w'.options = w.options
  cwd_eq : w'.disk.cwd = w.disk.cwd
  opened : ∀ id q, w'.projects.find? id = some q →
    ∃ p, w.projects.find? id = some p ∧ q.snapshot.id = p.snapshot.id
  readText : ∀ text, w.disk.readText l.toPath = .ok text →
    w'.disk.readText l.toPath = .ok text

theorem Keeps.refl (l : Location) (w : Workspace) : Keeps l w w :=
  ⟨rfl, rfl, fun _ q hq => ⟨q, hq, rfl⟩, fun _ h => h⟩

theorem Keeps.trans (h : Keeps l w w') (h' : Keeps l w' w'') : Keeps l w w'' where
  options_eq := h'.options_eq.trans h.options_eq
  cwd_eq := h'.cwd_eq.trans h.cwd_eq
  opened id q hq := by
    obtain ⟨p', hp', hid'⟩ := h'.opened id q hq
    obtain ⟨p, hp, hid⟩ := h.opened id p' hp'
    exact ⟨p, hp, hid'.trans hid⟩
  readText text hl := h'.readText text (h.readText text hl)

theorem Unstaged.of_keeps (hl : w.Unstaged l) (h : Keeps l w w') : w'.Unstaged l :=
  fun id q hq => by
    obtain ⟨p, hp, hid⟩ := h.opened id q hq
    have hout := hl id p hp
    rwa [Project.Staged, ← h.options_eq, ← hid, ← h.cwd_eq] at hout

/-- A project is set to another state of itself. -/
theorem Keeps.put (hp : w.projects.find? id = some p) (hid : q.snapshot.id = p.snapshot.id) :
    Keeps l w (w.put id q) where
  options_eq := rfl
  cwd_eq := rfl
  opened i q' hq' := by
    rw [find?_put] at hq'
    split at hq'
    · rename_i hi
      obtain rfl := Option.some.inj hq'
      exact ⟨p, hi ▸ hp, hid⟩
    · exact ⟨q', hq', rfl⟩
  readText _ h := h

/-- The disk grows away from the location. -/
theorem Keeps.overDisk {top : Location} {d : Disk} (h : Disk.Grown top w.disk d)
    (hl : ¬ l.LiesBelow top) : Keeps l w (w.overDisk d) where
  options_eq := rfl
  cwd_eq := rfl
  opened _ q hq := ⟨q, hq, rfl⟩
  readText text htext := by
    have hsame : (w.overDisk d).disk = d := by rw [Workspace.overDisk, ← h.cwd_eq]
    rw [hsame]
    exact h.readText_eq hl htext

theorem keeps_enqueue (w : Workspace) (l : Location) (id : String) (scope : Scope) :
    Keeps l w (w.enqueue id scope).1 := by
  unfold enqueue
  cases hp : w.projects.find? id with
  | none => exact .refl l w
  | some p => exact .put hp (congrArg Project.Snapshot.id (p.snapshot_enqueue scope))

theorem keeps_start (w : Workspace) (l : Location) (id : String) :
    Keeps l w (w.start id).1 := by
  unfold start
  cases hp : w.projects.find? id with
  | none => exact .refl l w
  | some p =>
    refine .put hp ?_
    cases hpending : p.queue.pending with
    | none => rw [OpenProject.start_of_pending_eq_none hpending]
    | some e => rw [OpenProject.start_of_pending_eq_some hpending]

/-- Opening a project does to the disk what its build does. -/
theorem disk_addProject (w : Workspace) (path : Path) : (w.addProject path).1.disk =
    (w.overDisk (Project.build w.options w.disk none (path.normalize w.disk.cwd)).1).disk := by
  unfold addProject
  rcases hb : Project.build w.options w.disk none (path.normalize w.disk.cwd) with ⟨d, fault | s⟩
  · simp [hb]
  · cases hs : w.projects.find? s.id <;> simp [hb, hs, put]

/-- A reload spares what lies outside its project's part of the staging tree. -/
theorem keeps_finish (hl : w.Unstaged l) (id : String) (scope : Scope) :
    Keeps l w (w.finish id scope).1 := by
  unfold finish
  cases hp : w.projects.find? id with
  | none => exact .refl l w
  | some p =>
    have hgrown := Project.grown_rebuild w.options w.disk p.snapshot scope
    refine (Keeps.overDisk hgrown (hl id p hp)).trans (.put hp ?_)
    cases hres : (Project.rebuild w.options w.disk p.snapshot scope).2 with
    | error fault => rfl
    | ok s => exact (Project.rebuild_eq_ok hres).1

end Workspace

namespace Session

variable {μ : Type} {l : Location}

/-- **A task that answers no request spares what lies outside the staging tree.** -/
theorem keeps_step (listen : Listener μ) (order : Order) {s : Session μ} {t : Task μ}
    {rest : List (Task μ)} (h : s.agenda = t :: rest) (ht : ∀ request, t ≠ .answer request)
    (hl : s.workspace.Unstaged l) : s.workspace.Keeps l (s.stepIn listen order).workspace := by
  simp only [stepIn, h]
  cases t with
  | answer request => exact absurd rfl (ht request)
  | tell told => exact .refl l _
  | schedule id scope =>
    rw [workspace_schedule]
    exact Workspace.keeps_enqueue _ l id scope
  | drain id =>
    rw [workspace_drain]
    exact Workspace.keeps_start _ l id
  | finish id scope =>
    rw [workspace_finish]
    exact Workspace.keeps_finish hl id scope

namespace Run

variable {r : Run μ} {k i n : Nat} {id : String}

/-- **An opening spares what it read outside the staging tree.** -/
theorem not_overwritten_of_unstaged
    (hout : ∀ i q, r.project i id = none → r.project (i + 1) id = some q →
      ∀ l ∈ q.snapshot.definition :: q.snapshot.documents,
        ¬ Project.Staged (r.world i).options (r.world i).disk q.snapshot l) (l : Location) :
    ¬ r.Overwritten id n l := by
  rintro ⟨i, hnone, ⟨q, hq, hl⟩, -, hchange, -⟩
  have hstaged := hout i q hnone hq l hl
  obtain ⟨path, told, s, ht, hs, -, rfl, -⟩ := exists_opening hnone hq
  obtain ⟨text, htext⟩ := Project.exists_text_of_build hs hl
  obtain ⟨rest, hagenda⟩ := List.head?_eq_some_iff.1 ht
  have hdisk : (r.world (i + 1)).disk = ((r.world i).overDisk (Project.build (r.world i).options
      (r.world i).disk none (path.normalize (r.world i).disk.cwd)).1).disk := by
    rw [world, state_succ_of_cons hagenda]
    simp only [stepIn, hagenda]
    rw [workspace_addProject, Workspace.disk_addProject]
    rfl
  have hkeeps := Workspace.Keeps.overDisk (w := r.world i) (Project.grown_build hs) hstaged
  refine hchange ?_
  rw [reads, reads, htext, hdisk, hkeeps.readText text htext]

/-- **What lies outside the staging tree is spared until a run is at rest,** when no request
is left to answer and the listener asks for nothing. -/
theorem keeps_of_quiet (hquiet : r.Quiet k) (hcalm : r.Calm k) (hl : (r.world k).Unstaged l)
    (hki : k ≤ i) (hbusy : ∀ j, k ≤ j → j < i → (r.state j).isDone = false) :
    (r.world k).Keeps l (r.world i) := by
  induction i, hki using Nat.le_induction with
  | base => exact .refl l _
  | succ i hki ih =>
    have hkeeps := ih fun j hkj hji => hbusy j hkj (by omega)
    have hcalm := calm_of_quiet hquiet hcalm hki fun j hkj hji => hbusy j hkj (by omega)
    cases hagenda : (r.state i).agenda with
    | nil =>
      have hdone := hbusy i hki (by omega)
      simp [isDone, hagenda] at hdone
    | cons t rest =>
      have ht : ∀ request, t ≠ .answer request := fun request h =>
        hcalm request (by rw [hagenda, h]; exact List.mem_cons_self)
      refine hkeeps.trans ?_
      rw [world, world, state_succ_of_cons hagenda]
      exact keeps_step r.listen (r.order i) hagenda ht (hl.of_keeps hkeeps)

end Run
end Session
end LintWorkspace
