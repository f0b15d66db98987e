/-
# What a workspace writes

The only tasks that change the disk are those that copy analyzers: the end of a reload, and the
answer to a request to open a project (`copies_of_ne`).  All that copying changes is contained
in the staging tree and the way there (`Contained`):

| at | happens |
| --- | --- |
| a place below the staging tree | anything |
| the staging tree, or a place that its path passes | a directory is made where nothing stood |
| any other place | nothing |

So from one moment of a run to a later one a workspace changes nothing else, as long as nobody
else does (`contained`).  The id `..` is the exception: it leads out of the staging tree, and the
copies of such a project lie beside it (`not_staysContained`).
-/

import LintWorkspace.Proofs.Loading
import LintWorkspace.Proofs.Unstaged

namespace LintWorkspace

namespace Disk

variable {d e f : Disk} {staging : Path} {l : Location} {ls : List Location}

/-- A disk has become another one by changes below a staging tree and by new directories on the
way to it. -/
structure Contained (staging : Path) (d e : Disk) : Prop where
  cwd_eq : e.cwd = d.cwd
  entryAt_cases : ∀ l, e.entryAt l = d.entryAt l ∨ l.LiesBelow (staging.normalize d.cwd) ∨
    l ∈ staging.normalize d.cwd :: places d.cwd staging ∧
      d.entryAt l = none ∧ e.entryAt l = some .directory

theorem Contained.refl (staging : Path) (d : Disk) : Contained staging d d :=
  ⟨rfl, fun _ => .inl rfl⟩

theorem Contained.trans (h : Contained staging d e) (h' : Contained staging e f) :
    Contained staging d f where
  cwd_eq := h'.cwd_eq.trans h.cwd_eq
  entryAt_cases l := by
    have hlater := h'.entryAt_cases l
    rw [h.cwd_eq] at hlater
    rcases hlater with heq | hbelow | ⟨hway, hnone, hdir⟩
    · rw [heq]
      exact h.entryAt_cases l
    · exact .inr (.inl hbelow)
    · rcases h.entryAt_cases l with heq | hbelow | ⟨-, -, hdir'⟩
      · exact .inr (.inr ⟨hway, heq ▸ hnone, hdir⟩)
      · exact .inr (.inl hbelow)
      · simp [hnone] at hdir'

/-- On the way to a staging tree whose path does not go up lies only what is above it. -/
theorem Contained.above (h : Contained staging d e) (hup : ".." ∉ staging.segments) (l : Location) :
    e.entryAt l = d.entryAt l ∨ l.LiesBelow (staging.normalize d.cwd) ∨
      (staging.normalize d.cwd).isWithin l = true ∧
        d.entryAt l = none ∧ e.entryAt l = some .directory := by
  rcases h.entryAt_cases l with heq | hbelow | ⟨hway, hmade⟩
  · exact .inl heq
  · exact .inr (.inl hbelow)
  · refine .inr (.inr ⟨?_, hmade⟩)
    rcases List.mem_cons.1 hway with rfl | hway
    · exact Location.isWithin_self _
    · exact isWithin_of_mem_places_of_not_up hup hway

end Disk

namespace Analyzer

open Disk

variable {d e : Disk} {staging source copy : Path} {project : String} {bytes : ByteArray}
  {l cwd : Location}

/-- What lies in the home of a project lies below the staging tree. -/
theorem liesBelow_child_home (top : Location) (hid : project ≠ "..") (n : Name) :
    ((home top project).child n).LiesBelow top := by
  rcases home_cases hid with heq | ⟨k, heq⟩
  · rw [heq]
    exact Location.liesBelow_child top n
  · rw [heq]
    exact (Location.liesBelow_child top k).child n

/-- The places on the way of a copy lie below the staging tree or on the way to it. -/
theorem liesBelow_or_mem_way (hid : project ≠ "..")
    (hcopy : copyOf (stagingDirectory staging project) source bytes = some copy)
    (hl : l ∈ places cwd copy) :
    l.LiesBelow (staging.normalize cwd) ∨ l ∈ staging.normalize cwd :: places cwd staging := by
  rcases mem_places_copyOf hcopy hl with hway | htop | hhome
  · exact .inr (List.mem_cons_of_mem _ hway)
  · exact .inr (List.mem_cons.2 (.inl htop))
  · by_cases htop : l = staging.normalize cwd
    · exact .inr (List.mem_cons.2 (.inl htop))
    · exact .inl ⟨Location.isWithin_trans hhome (isWithin_home hid), htop⟩

/-- New directories on the way of a copy are contained. -/
theorem contained_of_furnished (hid : project ≠ "..")
    (hcopy : copyOf (stagingDirectory staging project) source bytes = some copy)
    (h : Furnished (places d.cwd copy) d e) : Contained staging d e where
  cwd_eq := h.cwd_eq
  entryAt_cases l := by
    rcases h.entryAt_cases l with heq | ⟨hl, hnone, hdir⟩
    · exact .inl heq
    · exact .inr ((liesBelow_or_mem_way hid hcopy hl).imp_right fun hway => ⟨hway, hnone, hdir⟩)

/-- Loading one analyzer is contained in the staging tree. -/
theorem contained_loads {answer : Except LoadFault Loaded} (hid : project ≠ "..")
    (h : Loads (stagingDirectory staging project) d source e answer) : Contained staging d e := by
  cases h with
  | unread fault hread => exact .refl staging d
  | reused bytes copy hread hcopy hhas => exact .refl staging d
  | blocked bytes copy _ fault hread hcopy hmade => exact contained_of_furnished hid hcopy hmade
  | copied bytes copy e' _ hread hcopy hmade hwrite =>
    have hcontained := contained_of_furnished hid hcopy hmade
    obtain ⟨-, -, hcwd, hentries⟩ := of_writeFile hwrite
    refine hcontained.trans ⟨hcwd, fun l => ?_⟩
    rw [hentries]
    by_cases hl : copy.normalize e'.cwd = l
    · subst hl
      obtain ⟨name, -, hplace⟩ := normalize_copyOf hcopy e'.cwd
      refine .inr (.inl ?_)
      rw [hplace]
      exact (liesBelow_child_home _ hid _).child name
    · exact .inl (if_neg hl)

/-- **Loading the analyzers of a project is contained in the staging tree.** -/
theorem contained_loadInto (hid : project ≠ "..") (d : Disk) (sources : List Path) :
    Contained staging d (loadInto (stagingDirectory staging project) d sources).1 := by
  induction sources generalizing d with
  | nil => exact .refl staging d
  | cons source sources ih =>
    have hfirst := contained_loads hid
      (loads_loadAnalyzer (stagingDirectory staging project) d source)
    have hrest := hfirst.trans (ih _)
    rw [loadInto]
    simp only
    split <;> exact hrest

end Analyzer

namespace Project

theorem contained_withAnalyzers (o : Options) (d : Disk) {s : Snapshot} (hid : s.id ≠ "..") :
    Disk.Contained o.staging d (withAnalyzers o d s).1 := by
  unfold withAnalyzers
  cases o.analyzersEnabled with
  | true => exact Analyzer.contained_loadInto hid d _
  | false => exact .refl _ d

/-- A reload is contained in the staging tree. -/
theorem contained_rebuild (o : Options) (d : Disk) {s : Snapshot} (hid : s.id ≠ "..")
    (scope : Scope) : Disk.Contained o.staging d (rebuild o d s scope).1 := by
  rcases disk_rebuild_cases o d s scope with heq | ⟨t, ht, heq⟩
  · rw [heq]
    exact .refl _ d
  · rw [heq]
    exact contained_withAnalyzers o d (ht ▸ hid)

/-- A build is contained in the staging tree; one that fails changes nothing. -/
theorem contained_build {o : Options} {d : Disk} {last : Option Snapshot} {definition : Location}
    {s : Snapshot} (h : (build o d last definition).2 = .ok s) (hid : s.id ≠ "..") :
    Disk.Contained o.staging d (build o d last definition).1 := by
  unfold build at *
  cases hdraft : draft d last definition with
  | error fault => simp [hdraft] at h
  | ok t =>
    rw [hdraft] at h
    obtain rfl := Except.ok.inj h
    exact contained_withAnalyzers o d hid

end Project

namespace Workspace

variable {w : Workspace} {e : Disk} {staging : Path} {id : String}

/-- Whatever a disk is taken for, it is contained in that. -/
theorem contained_overDisk (h : Disk.Contained staging w.disk e) :
    Disk.Contained staging w.disk (w.overDisk e).disk :=
  ⟨rfl, h.entryAt_cases⟩

/-- After a build there is a project of its id. -/
theorem exists_project_of_build {path : Path} {s : Project.Snapshot}
    (hs : (Project.build w.options w.disk none (path.normalize w.disk.cwd)).2 = .ok s) :
    ∃ p, (w.addProject path).1.projects.find? s.id = some p := by
  cases hp : w.projects.find? s.id with
  | some p => exact ⟨p, find?_addProject w path hp⟩
  | none =>
    refine ⟨.first s, ?_⟩
    unfold addProject
    rcases hb : Project.build w.options w.disk none (path.normalize w.disk.cwd) with ⟨d, result⟩
    obtain rfl : result = .ok s := by simpa [hb] using hs
    simp [hb, hp, find?_put]

/-- Opening a project writes to the staging tree only, if no project `..` is open then. -/
theorem contained_addProject (path : Path)
    (hid : (w.addProject path).1.projects.find? ".." = none) :
    Disk.Contained w.options.staging w.disk (w.addProject path).1.disk := by
  rw [disk_addProject]
  refine contained_overDisk ?_
  cases hs : (Project.build w.options w.disk none (path.normalize w.disk.cwd)).2 with
  | error fault =>
    rw [Project.disk_build_of_error hs]
    exact .refl _ _
  | ok s =>
    exact Project.contained_build hs fun hup => by
      obtain ⟨p, hp⟩ := exists_project_of_build hs
      simp [hup, hid] at hp

/-- The end of a reload writes to the staging tree only, if no project `..` is open. -/
theorem contained_finish (h : ∀ p, w.projects.find? id = some p → p.snapshot.id ≠ "..")
    (scope : Scope) : Disk.Contained w.options.staging w.disk (w.finish id scope).1.disk := by
  unfold finish
  cases hp : w.projects.find? id with
  | none => exact .refl _ _
  | some p => exact contained_overDisk (Project.contained_rebuild _ _ (h p hp) scope)

theorem disk_enqueue (w : Workspace) (id : String) (scope : Scope) :
    (w.enqueue id scope).1.disk = w.disk := by
  unfold enqueue
  cases w.projects.find? id <;> rfl

theorem disk_start (w : Workspace) (id : String) : (w.start id).1.disk = w.disk := by
  unfold start
  cases w.projects.find? id <;> rfl

theorem options_addProject (w : Workspace) (path : Path) :
    (w.addProject path).1.options = w.options := by
  unfold addProject
  rcases hb : Project.build w.options w.disk none (path.normalize w.disk.cwd) with ⟨d, fault | s⟩
  · simp [hb, overDisk]
  · cases hs : w.projects.find? s.id <;> simp [hb, hs, put, overDisk]

theorem options_enqueue (w : Workspace) (id : String) (scope : Scope) :
    (w.enqueue id scope).1.options = w.options := by
  unfold enqueue
  cases w.projects.find? id <;> rfl

theorem options_start (w : Workspace) (id : String) : (w.start id).1.options = w.options := by
  unfold start
  cases w.projects.find? id <;> rfl

theorem options_finish (w : Workspace) (id : String) (scope : Scope) :
    (w.finish id scope).1.options = w.options := by
  unfold finish
  cases w.projects.find? id <;> rfl

end Workspace

namespace Session

variable {μ : Type}

/-- No task changes the options. -/
theorem options_step (listen : Listener μ) (order : Order) {s : Session μ} {t : Task μ}
    {rest : List (Task μ)} (h : s.agenda = t :: rest) :
    (s.stepIn listen order).workspace.options = s.workspace.options := by
  simp only [stepIn, h]
  cases t with
  | answer request =>
    cases request with
    | addProject path told =>
      rw [workspace_addProject]
      exact Workspace.options_addProject _ path
    | notify changes told => rfl
    | restored id told =>
      simp only [perform, answer]
      cases s.workspace.project id <;> rfl
    | visit act => rfl
  | tell told => rfl
  | schedule id scope =>
    rw [workspace_schedule]
    exact Workspace.options_enqueue _ id scope
  | drain id =>
    rw [workspace_drain]
    exact Workspace.options_start _ id
  | finish id scope =>
    rw [workspace_finish]
    exact Workspace.options_finish _ id scope

/-- A task that is no visit writes to the staging tree only, if no project `..` is open. -/
theorem contained_step (listen : Listener μ) (order : Order) {s : Session μ} {t : Task μ}
    {rest : List (Task μ)} (h : s.agenda = t :: rest) (ht : ∀ act, t ≠ .answer (.visit act))
    (hproject : ∀ id p, s.workspace.projects.find? id = some p → p.snapshot.id ≠ "..")
    (hid : (s.stepIn listen order).workspace.projects.find? ".." = none) :
    Disk.Contained s.workspace.options.staging s.workspace.disk
      (s.stepIn listen order).workspace.disk := by
  simp only [stepIn, h] at hid ⊢
  cases t with
  | answer request =>
    cases request with
    | addProject path told =>
      rw [workspace_addProject] at hid ⊢
      exact Workspace.contained_addProject path hid
    | notify changes told => exact .refl _ _
    | restored id told =>
      simp only [perform, answer]
      cases s.workspace.project id <;> exact .refl _ _
    | visit act => exact absurd rfl (ht act)
  | tell told => exact .refl _ _
  | schedule id scope =>
    rw [workspace_schedule, Workspace.disk_enqueue]
    exact .refl _ _
  | drain id =>
    rw [workspace_drain, Workspace.disk_start]
    exact .refl _ _
  | finish id scope =>
    rw [workspace_finish]
    exact Workspace.contained_finish (hproject id) scope

namespace Run

variable {r : Run μ} {n m : Nat}

/-- Nobody but the workspace changes the disk between two moments. -/
def Unvisited (r : Run μ) (n m : Nat) : Prop :=
  ∀ i, n ≤ i → i < m → ∀ act, r.task i ≠ some (.answer (.visit act))

/-- The options are those of the start. -/
theorem options_world (r : Run μ) (n : Nat) : (r.world n).options = r.options := by
  induction n with
  | zero => rfl
  | succ n ih =>
    rw [← ih]
    cases h : (r.state n).agenda with
    | nil => rw [world, (state_succ_of_nil h).1, world]
    | cons t rest =>
      rw [world, state_succ_of_cons h, world]
      exact options_step r.listen (r.order n) h

/-- **One task of a workspace writes to the staging tree only.** -/
theorem contained_succ (hvisit : ∀ act, r.task n ≠ some (.answer (.visit act)))
    (hid : r.project (n + 1) ".." = none) :
    Disk.Contained r.options.staging (r.world n).disk (r.world (n + 1)).disk := by
  rw [← options_world r n]
  have hproject : ∀ id p, r.project n id = some p → p.snapshot.id ≠ ".." := by
    intro id p hp hup
    obtain rfl : ".." = id := hup.symm.trans (orderly hp).id_eq
    obtain ⟨q, hq⟩ := exists_project_of_le hp (Nat.le_succ n)
    simp [hid] at hq
  cases h : (r.state n).agenda with
  | nil =>
    rw [show r.world (n + 1) = r.world n from (state_succ_of_nil h).1]
    exact .refl _ _
  | cons t rest =>
    rw [project, world, state_succ_of_cons h] at hid
    rw [show r.world (n + 1) = _ from congrArg Session.workspace (state_succ_of_cons h)]
    refine contained_step r.listen (r.order n) h (fun act heq => hvisit act ?_) hproject hid
    rw [task, h, heq]
    rfl

/-- **A workspace writes to the staging tree only.**  Between two moments at which only the
workspace is at work, all it changes lies below the staging tree, but for directories that
were missing on the way there, as long as no project has the id `..`.  Where the path of the
staging tree does not go up, these directories are that tree and what lies above it. -/
theorem contained (hnm : n ≤ m) (hvisit : r.Unvisited n m) (hid : r.project m ".." = none) :
    Disk.Contained r.options.staging (r.world n).disk (r.world m).disk ∧
      (".." ∉ r.options.staging.segments → ∀ l,
        let top := r.options.staging.normalize (r.world n).disk.cwd
        (r.world m).disk.entryAt l = (r.world n).disk.entryAt l ∨ l.LiesBelow top ∨
          top.isWithin l = true ∧ (r.world n).disk.entryAt l = none ∧
            (r.world m).disk.entryAt l = some .directory) := by
  suffices h : Disk.Contained r.options.staging (r.world n).disk (r.world m).disk from
    ⟨h, h.above⟩
  induction m, hnm using Nat.le_induction with
  | base => exact .refl _ _
  | succ m hnm ih =>
    have hbefore : r.project m ".." = none := by
      cases hp : r.project m ".." with
      | none => rfl
      | some p =>
        obtain ⟨q, hq⟩ := exists_project_of_le hp (Nat.le_succ m)
        simp [hid] at hq
    have hearlier := ih (fun i hi him => hvisit i hi (by omega)) hbefore
    exact hearlier.trans (contained_succ (hvisit m hnm (Nat.lt_succ_self m)) hid)

/-- While a project is opened nobody else is at work. -/
theorem unvisited_opening (definition : String) (entries : List (String × DiskEntry)) :
    (opening definition entries).Unvisited 0 2 := by
  intro i _ hi act
  match i with
  | 0 => simp [task, state, opening]
  | 1 => simp [task, state, opening, isDone, push]

/-- The opening of a project that copies an analyzer to `/staging/a/0c04005cc8004dc9/x.pack`. -/
theorem contained_copying :
    ∃ r : Run Unit, Disk.Contained r.options.staging (r.world 0).disk (r.world 2).disk ∧
      ∃ l, l.LiesBelow (r.options.staging.normalize .root) ∧
        (r.world 0).disk.entryAt l = none ∧ ((r.world 2).disk.entryAt l).isSome = true := by
  generalize hr : opening "analyzers = [\"x.pack\"]"
    [("/x.pack", .file "name = \"x\"".toUTF8)] = r
  have hvisit : r.Unvisited 0 2 := hr ▸ unvisited_opening _ _
  have hid : r.project 2 ".." = none := by
    subst hr
    exact Option.isNone_iff_eq_none.1 (by decide +kernel)
  refine ⟨r, (contained (Nat.zero_le 2) hvisit hid).1,
    Path.normalize .root (.ofText "/staging/a/0c04005cc8004dc9/x.pack"), ?_⟩
  subst hr
  decide +kernel

/-! ### A project that leaves the staging tree -/

/-- A workspace writes to the staging tree only, whatever ids its projects have. -/
def StaysContained : Prop :=
  ∀ (r : Run Unit) (n m : Nat), n ≤ m → r.Unvisited n m →
    Disk.Contained r.options.staging (r.world n).disk (r.world m).disk

/-- **A workspace can write beside the staging tree**: the copies of a project with the id `..`
lie in the directory above. -/
theorem not_staysContained : ¬ StaysContained := by
  intro hall
  have hvisit := unvisited_opening "name = \"..\"\nanalyzers = [\"x.pack\"]"
    [("/x.pack", .file "name = \"x\"".toUTF8)]
  have hcontained := hall _ 0 2 (Nat.zero_le 2) hvisit
  rcases hcontained.entryAt_cases (Path.normalize .root (.ofText "/0c04005cc8004dc9/x.pack"))
    with heq | hbelow | ⟨-, -, hdir⟩
  · revert heq
    decide +kernel
  · revert hbelow
    decide +kernel
  · revert hdir
    decide +kernel

end Run
end Session
end LintWorkspace
