/-
# Projects are reloaded independently

The projects that a notification affects are reloaded one after the other.  All that one of them
does to the disk is to leave copies of its analyzers.  So after some of them the disk is the one
before with their copies (`Independent.copies`), and the next one ends as it would have ended
alone (`Independent.reloaded_eq`).

Besides staying out of the staging tree, projects must not see it come:

| what a project does | what another one brings |
| --- | --- |
| it reads a directory on the way to the staging tree that is missing | that directory |
| its patterns lead through such a directory and back | more files to find |
| it makes copies, and the path of the staging tree goes up | a directory on that path |

Where they do not, and no two contents share a fingerprint, every order ends alike, whichever
reloads fail (`reloads_independently`).  Each of the three can make a difference
(`not_reloadsIndependently`).
-/

import LintWorkspace.Proofs.Batch
import LintWorkspace.Proofs.Contained
import LintWorkspace.Proofs.Rebuilding
import Mathlib.Data.List.Induction

namespace LintWorkspace
namespace Workspace

open Disk Analyzer

variable {w v : Workspace} {work order before : List (String × Scope)} {e : String × Scope}
  {id : String} {p : OpenProject} {x : Project.Snapshot × Scope}

/-! ### One reload after the other -/

/-- Reloads a project with the work that is asked for and the work that it owes. -/
def reload (w : Workspace) (e : String × Scope) : Workspace :=
  match w.projects.find? e.1 with
  | none => w
  | some p => (w.finish e.1 (e.2.merge p.owed)).1

/-- Reloads projects one after the other. -/
def reloadAll (w : Workspace) (order : List (String × Scope)) : Workspace := order.foldl reload w

theorem reloadAll_concat (w : Workspace) (before : List (String × Scope)) (e : String × Scope) :
    w.reloadAll (before ++ [e]) = (w.reloadAll before).reload e := by
  rw [reloadAll, List.foldl_append]
  rfl

theorem options_reload (w : Workspace) (e : String × Scope) :
    (w.reload e).options = w.options := by
  unfold reload
  split
  · rfl
  · exact options_finish _ _ _

theorem options_reloadAll (w : Workspace) (order : List (String × Scope)) :
    (w.reloadAll order).options = w.options := by
  induction order generalizing w with
  | nil => rfl
  | cons e order ih => exact (ih (w.reload e)).trans (options_reload w e)

theorem find?_reload_of_ne (h : e.1 ≠ id) :
    (w.reload e).projects.find? id = w.projects.find? id := by
  unfold reload
  split
  · rfl
  · rw [find?_finish]
    simp [h]

theorem find?_reloadAll_of_ne (h : ∀ e ∈ order, e.1 ≠ id) :
    (w.reloadAll order).projects.find? id = w.projects.find? id := by
  induction order generalizing w with
  | nil => rfl
  | cons e order ih =>
    obtain ⟨he, horder⟩ := List.forall_mem_cons.1 h
    exact (ih horder).trans (find?_reload_of_ne he)

/-- What the end of a reload does to the workspace. -/
theorem finish_eq (hp : w.projects.find? id = some p) (scope : Scope) : w.finish id scope =
    ((w.overDisk (Project.rebuild w.options w.disk p.snapshot scope).1).put id
      (Session.Run.reloaded w p scope), some (Session.Run.reloaded w p scope).update) := by
  rw [finish, hp]
  rfl

/-- What a reload does to the workspace. -/
theorem reload_eq (hp : w.projects.find? e.1 = some p) : w.reload e =
    (w.overDisk (Project.rebuild w.options w.disk p.snapshot (e.2.merge p.owed)).1).put e.1
      (Session.Run.reloaded w p (e.2.merge p.owed)) := by
  simp only [reload, hp, finish_eq hp]

/-- A project is reloaded on the disk as it is. -/
theorem find?_reload_self (hp : w.projects.find? e.1 = some p) :
    (w.reload e).projects.find? e.1 =
      some (Session.Run.reloaded w p (e.2.merge p.owed)) := by
  rw [reload_eq hp, find?_put, if_pos rfl]

theorem disk_reload (hp : w.projects.find? e.1 = some p) : (w.reload e).disk =
    (w.overDisk (Project.rebuild w.options w.disk p.snapshot (e.2.merge p.owed)).1).disk := by
  rw [reload_eq hp]
  rfl

/-- Setting a project twice sets it once. -/
theorem put_put (w : Workspace) (id : String) (p q : OpenProject) :
    (w.put id p).put id q = w.put id q := by
  unfold put
  refine congrArg (mk w.options w.disk) (SortedMap.ext_find? fun other => ?_)
  simp only [SortedMap.find?_insert]
  split <;> rfl

theorem disk_overDisk {d : Disk} (h : d.cwd = w.disk.cwd) : (w.overDisk d).disk = d := by
  obtain ⟨cwd, entries⟩ := d
  obtain rfl : cwd = w.disk.cwd := h
  rfl

/-! ### What is asked of the projects -/

/-- The reload that some work comes to: the snapshot of the project, and the scope. -/
def due (w : Workspace) (e : String × Scope) : Option (Project.Snapshot × Scope) :=
  (w.projects.find? e.1).map fun p => (p.snapshot, e.2.merge p.owed)

theorem due_eq_some (hp : w.projects.find? e.1 = some p) :
    w.due e = some (p.snapshot, e.2.merge p.owed) := by
  rw [due, hp]
  rfl

/-- Where the staging tree is. -/
def top (w : Workspace) : Location := w.options.staging.normalize w.disk.cwd

/-- The contents of the analyzers that reloads read. -/
def contentsRead (w : Workspace) (work : List (String × Scope)) : List ByteArray :=
  work.flatMap fun e =>
    (w.due e).elim [] fun x => Project.contentsRead w.options w.disk x.1 x.2

/-- The copies that a reload leaves. -/
def copiesLeft (w : Workspace) (e : String × Scope) : List (Location × ByteArray) :=
  (w.due e).elim [] fun x => Project.copiesLeft w.options w.disk x.1 x.2

/-- The disk that a project collects its sources on when it is reloaded after all others. -/
def collectsLast (w : Workspace) (work : List (String × Scope)) (e : String × Scope)
    (x : Project.Snapshot × Scope) : Disk :=
  Project.collectsOn w.options (w.reloadAll (work.filter fun e' => e'.1 ≠ e.1)).disk x.1 x.2

/-- What projects read lies outside the staging tree: their definitions, the documents of their
rulesets, their analyzers, and the sources that they find even after all others. -/
structure Apart (w : Workspace) (work : List (String × Scope)) : Prop where
  ordinary : ∀ e ∈ work, ∀ x ∈ w.due e, Ordinary x.1.id
  places : ∀ e ∈ work, ∀ x ∈ w.due e, ∀ l ∈ Project.placesRead w.options w.disk x.1 x.2,
    ¬ l.LiesBelow w.top
  sources : ∀ e ∈ work, ∀ x ∈ w.due e, ∀ ls,
    Project.findSources (w.collectsLast work e x) (Project.sought w.options w.disk x.1 x.2) =
      .ok ls → ∀ l ∈ ls, ¬ l.LiesBelow w.top
  distinct : Distinct (w.contentsRead work)

/-- Nothing that projects read is a directory that copies bring. -/
def Standing (w : Workspace) (work : List (String × Scope)) : Prop :=
  ∀ e ∈ work, ∀ x ∈ w.due e, ∀ l ∈ Project.placesRead w.options w.disk x.1 x.2,
    w.top.isWithin l = true → w.disk.entryAt l ≠ none

/-- No pattern has a way back from a directory that copies bring. -/
def NoWayBack (w : Workspace) (work : List (String × Scope)) : Prop :=
  ∀ e ∈ work, ∀ x ∈ w.due e, Glob.NoWayBack w.disk (w.collectsLast work e x)
    (Project.sought w.options w.disk x.1 x.2)

/-- Projects whose reloads do not meet. -/
structure Independent (w : Workspace) (work : List (String × Scope)) : Prop where
  /-- the path of the staging tree does not go up -/
  straight : w.options.staging.Straight
  /-- the disk is a tree, as that of every file system is -/
  tree : w.disk.Tree
  apart : w.Apart work
  standing : w.Standing work
  noWayBack : w.NoWayBack work

/-- Patterns without a component `..` have no way back. -/
theorem noWayBack_of_not_enters (htree : w.disk.Tree)
    (hup : ∀ e ∈ work, ∀ x ∈ w.due e, ∀ g ∈ Project.sought w.options w.disk x.1 x.2,
      ∀ a, Glob.trail g.text = .ok a → ∀ q ∈ a.2, ¬ q.Enters "..") : w.NoWayBack work :=
  fun e he x hx => Glob.noWayBack_of_not_enters (fun l n hl => by
    by_contra hchild
    have hparent := htree.parent (l.child n) hchild
    simp [hl] at hparent) (hup e he x hx)

instance (w : Workspace) (work : List (String × Scope)) : Decidable (w.Standing work) := by
  unfold Standing
  infer_instance

instance (w : Workspace) (work : List (String × Scope)) : Decidable (w.Apart work) :=
  decidable_of_iff
    ((∀ e ∈ work, ∀ x ∈ w.due e, Ordinary x.1.id) ∧
      (∀ e ∈ work, ∀ x ∈ w.due e, ∀ l ∈ Project.placesRead w.options w.disk x.1 x.2,
        ¬ l.LiesBelow w.top) ∧
      (∀ e ∈ work, ∀ x ∈ w.due e, ∀ l ∈ (Project.findSources (w.collectsLast work e x)
        (Project.sought w.options w.disk x.1 x.2)).toOption.getD [], ¬ l.LiesBelow w.top) ∧
      Distinct (w.contentsRead work))
    ⟨fun h => ⟨h.1, h.2.1, fun e he x hx ls hls l hl => h.2.2.1 e he x hx l (by rw [hls]; exact hl),
      h.2.2.2⟩, fun h => ⟨h.ordinary, h.places, fun e he x hx l hl => by
        cases hls : Project.findSources (w.collectsLast work e x)
          (Project.sought w.options w.disk x.1 x.2) with
        | error fault => simp [hls, Except.toOption] at hl
        | ok ls => exact h.sources e he x hx ls hls l (by rw [hls] at hl; exact hl), h.distinct⟩⟩

theorem Independent.clear (h : w.Independent work) (he : e ∈ work) (hx : w.due e = some x) :
    Project.Clear w.options (w.contentsRead work) w.disk x.1 x.2 where
  ordinary := h.apart.ordinary e he x hx
  aside l hl := ⟨h.apart.places e he x hx l hl, h.standing e he x hx l hl⟩
  known bytes hbytes := List.mem_flatMap.2 ⟨e, he, by rw [hx]; exact hbytes⟩

theorem Independent.undiverted (h : w.Independent work) (he : e ∈ work) (hx : w.due e = some x) :
    Project.Undiverted w.top w.disk (w.collectsLast work e x)
      (Project.sought w.options w.disk x.1 x.2) :=
  ⟨h.apart.sources e he x hx, h.noWayBack e he x hx⟩

/-! ### Any order -/

/-- **After some reloads the disk is the one before with their copies.** -/
theorem Independent.copies (h : w.Independent work) (hsub : before ⊆ work)
    (hnodup : (before.map Prod.fst).Nodup) :
    Project.WithCopies w.options (w.contentsRead work) (before.flatMap w.copiesLeft) w.disk
      (w.reloadAll before).disk := by
  induction before using List.reverseRecOn with
  | nil => exact .refl h.straight h.tree h.apart.distinct
  | append_singleton before e ih =>
    obtain ⟨hbefore, he⟩ := List.append_subset.1 hsub
    rw [List.map_append, List.nodup_append] at hnodup
    have hne : ∀ e' ∈ before, e'.1 ≠ e.1 := fun e' he' =>
      hnodup.2.2 e'.1 (List.mem_map_of_mem he') e.1 (by simp)
    have hcopies := ih hbefore hnodup.1
    have hfind : (w.reloadAll before).projects.find? e.1 = w.projects.find? e.1 :=
      find?_reloadAll_of_ne hne
    rw [reloadAll_concat, List.flatMap_append, List.flatMap_singleton]
    cases hp : w.projects.find? e.1 with
    | none =>
      rw [hp] at hfind
      have hnone : w.copiesLeft e = [] := by simp [copiesLeft, due, hp]
      rw [hnone, List.append_nil, reload, hfind]
      exact hcopies
    | some p =>
      have hx := due_eq_some hp
      have hleft : w.copiesLeft e = Project.copiesLeft w.options w.disk p.snapshot
          (e.2.merge p.owed) := by
        rw [copiesLeft, hx]
        rfl
      have hrebuilt := (Project.rebuiltAlike hcopies
        (h.clear (he List.mem_cons_self) hx)).copies
      rw [hp] at hfind
      rw [disk_reload hfind, options_reloadAll, hleft, disk_overDisk]
      · exact hrebuilt
      · exact hrebuilt.filled.cwd_eq.trans hcopies.filled.cwd_eq.symm

/-- **A project that is reloaded after others ends as if it were reloaded alone.** -/
theorem Independent.reloaded_eq (h : w.Independent work) (hwork : (work.map Prod.fst).Nodup)
    (he : e ∈ work) (hbefore : before ⊆ work.filter fun e' => e'.1 ≠ e.1)
    (hnodup : (before.map Prod.fst).Nodup) (hp : w.projects.find? e.1 = some p) :
    Session.Run.reloaded (w.reloadAll before) p (e.2.merge p.owed) =
      Session.Run.reloaded w p (e.2.merge p.owed) := by
  have hx := due_eq_some hp
  have hclear := h.clear he hx
  have hothers : work.filter (fun e' => e'.1 ≠ e.1) ⊆ work := List.filter_subset_self _
  have hcopies := h.copies (List.Subset.trans hbefore hothers) hnodup
  have hlast := h.copies hothers (hwork.sublist (List.filter_sublist.map _))
  have hgrown := (Project.exists_collectsOn hcopies hclear).grown
    (Project.exists_collectsOn hlast hclear) <| by
      refine List.append_subset.2 ⟨fun y hy => ?_, List.subset_append_right _ _⟩
      obtain ⟨e', he', hy⟩ := List.mem_flatMap.1 hy
      exact List.mem_append_left _ (List.mem_flatMap.2 ⟨e', hbefore he', hy⟩)
  rw [Session.Run.reloaded, options_reloadAll, Project.result_eq_of_undiverted hcopies hclear
    ((h.undiverted he hx).of_grown hgrown)]
  rfl

/-- Projects that come before another one in some order. -/
theorem before_of_perm (hwork : (work.map Prod.fst).Nodup)
    (hperm : (before ++ e :: order).Perm work) :
    e ∈ work ∧ before ⊆ work.filter (fun e' => e'.1 ≠ e.1) ∧ (before.map Prod.fst).Nodup ∧
      ∀ e' ∈ order, e'.1 ≠ e.1 := by
  have hnodup := (hperm.map Prod.fst).nodup_iff.2 hwork
  rw [List.map_append, List.map_cons, List.nodup_append, List.nodup_cons] at hnodup
  obtain ⟨hbefore, ⟨hnot, -⟩, hne⟩ := hnodup
  refine ⟨hperm.subset (by simp), fun e' he' => List.mem_filter.2
    ⟨hperm.subset (List.mem_append_left _ he'), ?_⟩, hbefore, fun e' he' heq => ?_⟩
  · simpa using hne e'.1 (List.mem_map_of_mem he') e.1 List.mem_cons_self
  · exact hnot (heq ▸ List.mem_map_of_mem he')

/-- A project that others are reloaded before is as it was. -/
theorem find?_reloadAll_before (hbefore : before ⊆ work.filter fun e' => e'.1 ≠ e.1) :
    (w.reloadAll before).projects.find? e.1 = w.projects.find? e.1 :=
  find?_reloadAll_of_ne fun e' he' => by simpa using (List.mem_filter.1 (hbefore he')).2

/-- **In any order every project ends as if it were reloaded alone.** -/
theorem Independent.find?_reloadAll (h : w.Independent work) (hwork : (work.map Prod.fst).Nodup)
    (hperm : order.Perm work) (he : e ∈ order) (hp : w.projects.find? e.1 = some p) :
    (w.reloadAll order).projects.find? e.1 =
      some (Session.Run.reloaded w p (e.2.merge p.owed)) := by
  obtain ⟨before, after, rfl⟩ := List.append_of_mem he
  obtain ⟨hmem, hbefore, hnodup, hafter⟩ := before_of_perm hwork hperm
  have hfind := (find?_reloadAll_before (w := w) hbefore).trans hp
  rw [← h.reloaded_eq hwork hmem hbefore hnodup hp, ← find?_reload_self hfind, ← reloadAll_concat,
    ← List.singleton_append, ← List.append_assoc, reloadAll, List.foldl_append]
  exact find?_reloadAll_of_ne hafter

/-- **In any order all projects end alike, and so does the disk.** -/
theorem Independent.reloadAll_congr {order' : List (String × Scope)} (h : w.Independent work)
    (hwork : (work.map Prod.fst).Nodup) (hopen : ∀ e ∈ work, ∃ p, w.projects.find? e.1 = some p)
    (hperm : order.Perm work) (hperm' : order'.Perm work) :
    (w.reloadAll order).projects = (w.reloadAll order').projects ∧
      ∀ l, (w.reloadAll order).disk.entryAt l = (w.reloadAll order').disk.entryAt l := by
  constructor
  · refine SortedMap.ext_find? fun id => ?_
    by_cases hid : ∃ e ∈ work, e.1 = id
    · obtain ⟨e, he, rfl⟩ := hid
      obtain ⟨p, hp⟩ := hopen e he
      rw [h.find?_reloadAll hwork hperm (hperm.mem_iff.2 he) hp,
        h.find?_reloadAll hwork hperm' (hperm'.mem_iff.2 he) hp]
    · have hne : ∀ e ∈ work, e.1 ≠ id := fun e he heq => hid ⟨e, he, heq⟩
      rw [find?_reloadAll_of_ne fun e he => hne e (hperm.subset he),
        find?_reloadAll_of_ne fun e he => hne e (hperm'.subset he)]
  · have hcopies := h.copies hperm.subset ((hperm.map _).nodup_iff.2 hwork)
    have hcopies' := h.copies hperm'.subset ((hperm'.map _).nodup_iff.2 hwork)
    refine hcopies.filled.entryAt_congr hcopies'.filled fun y => ?_
    rw [List.mem_flatMap, List.mem_flatMap]
    exact exists_congr fun e => and_congr_left' (hperm.mem_iff.trans hperm'.mem_iff.symm)

/-- The update that the reload of a project alone announces. -/
def updateOf (w : Workspace) (e : String × Scope) : Option Update :=
  (w.projects.find? e.1).map fun p => (Session.Run.reloaded w p (e.2.merge p.owed)).update

end Workspace

namespace Session

variable {μ : Type} {listen : Listener μ} {o : Order} {w : Workspace} {e : String × Scope}
  {i : String} {p : OpenProject} {scope : Scope} {memory : μ} {rest : List (Task μ)}
  {work order before : List (String × Scope)}

theorem run_cons (t : Task μ) (n : Nat) : (⟨w, memory, t :: rest⟩ : Session μ).run listen (n + 1) =
    ((⟨w, memory, rest⟩ : Session μ).perform listen .byId t).run listen n := rfl

/-! The four tasks of a reload. -/

theorem perform_schedule (hp : w.projects.find? i = some p) (hempty : p.queue = .empty) :
    (⟨w, memory, rest⟩ : Session μ).perform listen o (.schedule i scope) =
      ⟨w.put i { p with queue := ⟨some scope, true⟩ }, memory, .drain i :: rest⟩ := by
  simp [perform, Workspace.enqueue, hp, OpenProject.enqueue, Queue.enqueue, hempty, Queue.empty,
    push]

theorem perform_drain_of_pending (hp : w.projects.find? i = some p)
    (hpending : p.queue.pending = some scope) :
    (⟨w, memory, rest⟩ : Session μ).perform listen o (.drain i) =
      ⟨w.put i { p with queue := ⟨none, p.queue.running⟩, status := .reloading }, memory,
        .finish i (scope.merge p.owed) :: .drain i :: rest⟩ := by
  simp [perform, Workspace.start, hp, OpenProject.start_of_pending_eq_some hpending, push]

theorem perform_finish (hquiet : ∀ u m, (listen u m).1 = [])
    (hp : w.projects.find? i = some p) :
    (⟨w, memory, rest⟩ : Session μ).perform listen o (.finish i scope) =
      ⟨(w.overDisk (Project.rebuild w.options w.disk p.snapshot scope).1).put i
        (Run.reloaded w p scope), (listen (Run.reloaded w p scope).update memory).2, rest⟩ := by
  simp [perform, Workspace.finish_eq hp, announce, push, hquiet]

theorem perform_drain_of_not_pending (hp : w.projects.find? i = some p)
    (hpending : p.queue.pending = none) :
    (⟨w, memory, rest⟩ : Session μ).perform listen o (.drain i) =
      ⟨w.put i { p with queue := .empty }, memory, rest⟩ := by
  simp [perform, Workspace.start, hp, OpenProject.start_of_pending_eq_none hpending]

/-- A project that is being reloaded ends as it would have if nobody had worked on it, but for
its queue. -/
theorem reloaded_of_started (w : Workspace) (p : OpenProject) (scope : Scope) (queue : Queue) :
    Run.reloaded w { p with queue, status := .reloading } scope =
      { Run.reloaded w p scope with queue } := by
  unfold Run.reloaded
  dsimp only
  cases (Project.rebuild w.options w.disk p.snapshot scope).2 <;> rfl

/-- **The work on a project that nobody works on is one reload,** which takes four tasks. -/
theorem run_reload (hquiet : ∀ u m, (listen u m).1 = []) (hp : w.projects.find? e.1 = some p)
    (hempty : p.queue = .empty) :
    (⟨w, memory, .schedule e.1 e.2 :: rest⟩ : Session μ).run listen 4 =
      ⟨w.reload e, (listen (Run.reloaded w p (e.2.merge p.owed)).update memory).2, rest⟩ := by
  generalize hr : Run.reloaded w p (e.2.merge p.owed) = r
  have hfind : ∀ (w : Workspace) q, (w.put e.1 q).projects.find? e.1 = some q := fun w q => by
    rw [Workspace.find?_put, if_pos rfl]
  -- the project when its work is taken in, when its reload starts and when it is settled
  let p₁ : OpenProject := { p with queue := ⟨some e.2, true⟩ }
  let p₂ : OpenProject := { p with queue := ⟨none, true⟩, status := .reloading }
  let p₃ : OpenProject := { r with queue := ⟨none, true⟩ }
  let d := (Project.rebuild w.options w.disk p.snapshot (e.2.merge p.owed)).1
  have hsettled : Run.reloaded (w.put e.1 p₂) p₂ (e.2.merge p.owed) = p₃ := by
    simp only [p₃, ← hr]
    exact reloaded_of_started w p (e.2.merge p.owed) ⟨none, true⟩
  have hidle : { p₃ with queue := .empty } = r := by
    have hqueue : r.queue = .empty := by rw [← hr, Run.reloaded, OpenProject.queue_settle, hempty]
    simp only [p₃, ← hqueue]
  calc (⟨w, memory, .schedule e.1 e.2 :: rest⟩ : Session μ).run listen 4
      = (⟨w.put e.1 p₁, memory, .drain e.1 :: rest⟩ : Session μ).run listen 3 := by
        rw [run_cons, perform_schedule hp hempty]
    _ = (⟨w.put e.1 p₂, memory, .finish e.1 (e.2.merge p.owed) :: .drain e.1 :: rest⟩ :
          Session μ).run listen 2 := by
        rw [run_cons, perform_drain_of_pending (hfind w p₁) rfl, Workspace.put_put]
    _ = (⟨(w.overDisk d).put e.1 p₃, (listen r.update memory).2, .drain e.1 :: rest⟩ :
          Session μ).run listen 1 := by
        rw [run_cons, perform_finish hquiet (hfind w p₂), hsettled]
        exact congrArg (fun w => run listen 1 ⟨w, _, _⟩) (Workspace.put_put (w.overDisk d) _ p₂ p₃)
    _ = ⟨w.reload e, (listen r.update memory).2, rest⟩ := by
        rw [run_cons, perform_drain_of_not_pending (hfind _ p₃) rfl, Workspace.put_put, hidle,
          Workspace.reload_eq hp, hr, run]

/-- **Projects are reloaded in the order in which they are scheduled,** and each announces what
its reload alone would announce. -/
theorem run_reloads (hquiet : ∀ u m, (listen u m).1 = []) (h : w.Independent work)
    (hwork : (work.map Prod.fst).Nodup)
    (hopen : ∀ e ∈ work, ∃ p, w.projects.find? e.1 = some p ∧ p.queue = .empty)
    (hperm : (before ++ order).Perm work) (memory : μ) (rest : List (Task μ)) :
    (⟨w.reloadAll before, memory, order.map (fun e => .schedule e.1 e.2) ++ rest⟩ :
        Session μ).run listen (4 * order.length) =
      ⟨w.reloadAll (before ++ order),
        (order.filterMap w.updateOf).foldl (fun m u => (listen u m).2) memory, rest⟩ := by
  induction order generalizing before memory with
  | nil => simp [run]
  | cons e order ih =>
    obtain ⟨hmem, hbefore, hnodup, -⟩ := Workspace.before_of_perm hwork hperm
    obtain ⟨p, hp, hempty⟩ := hopen e hmem
    have hfind := (Workspace.find?_reloadAll_before (w := w) hbefore).trans hp
    have hupdate : w.updateOf e = some (Run.reloaded w p (e.2.merge p.owed)).update := by
      rw [Workspace.updateOf, hp]
      rfl
    rw [List.length_cons, Nat.mul_succ, Nat.add_comm, run_add, List.map_cons, List.cons_append,
      run_reload hquiet hfind hempty, h.reloaded_eq hwork hmem hbefore hnodup hp,
      ← Workspace.reloadAll_concat, ih (by simpa using hperm), List.append_assoc,
      List.singleton_append, List.filterMap_cons_some hupdate, List.foldl_cons]

namespace Run

variable {r : Run μ} {n : Nat} {changes : List Change} {told : μ → μ}

/-- The session in which a notification has been answered, if the projects that it affects are
to be reloaded in some order. -/
def answered (r : Run μ) (n : Nat) (told : μ → μ) (order : List (String × Scope)) : Session μ :=
  ⟨r.world n, (r.state n).memory, order.map (fun e => .schedule e.1 e.2) ++ [.tell told]⟩

/-- That session after the reloads. -/
def reloadedIn (r : Run μ) (n : Nat) (told : μ → μ) (order : List (String × Scope)) : Session μ :=
  (r.answered n told order).run r.listen (4 * order.length + 1)

/-- Every project ended as if it had been reloaded alone, and announced that. -/
structure EndsAsAlone (r : Run μ) (n : Nat) (told : μ → μ) (order : List (String × Scope))
    (s : Session μ) : Prop where
  isDone : s.isDone = true
  project_eq : ∀ e ∈ order, ∀ p, r.project n e.1 = some p →
    s.workspace.projects.find? e.1 = some (reloaded (r.world n) p (e.2.merge p.owed))
  others : ∀ id, (∀ e ∈ order, e.1 ≠ id) → s.workspace.projects.find? id = r.project n id
  memory_eq : s.memory = told ((order.filterMap (r.world n).updateOf).foldl
    (fun m u => (r.listen u m).2) (r.state n).memory)

/-- Two sessions ended with the same projects and the same disk. -/
structure EndsAlike (s s' : Session μ) : Prop where
  projects_eq : s.workspace.projects = s'.workspace.projects
  entryAt_eq : ∀ l, s.workspace.disk.entryAt l = s'.workspace.disk.entryAt l

/-- At rest the projects that changes affect are open, and nothing waits in their queues. -/
theorem open_of_mem_affected (hdone : (r.state n).isDone = true)
    (he : e ∈ (r.world n).affected changes) :
    ∃ p, (r.world n).projects.find? e.1 = some p ∧ p.queue = .empty := by
  obtain ⟨-, p, hp, -⟩ := Workspace.mem_affected.1 he
  exact ⟨p, hp, queue_eq_empty hp hdone⟩

/-- Where the tasks of that session lead, if reloads do not meet. -/
theorem run_answered {listen : Listener μ} (hquiet : ∀ u m, (listen u m).1 = [])
    (hdone : (r.state n).isDone = true)
    (h : (r.world n).Independent ((r.world n).affected changes)) (told : μ → μ)
    (hperm : order.Perm ((r.world n).affected changes)) :
    (r.answered n told order).run listen (4 * order.length + 1) =
      ⟨(r.world n).reloadAll order, told ((order.filterMap (r.world n).updateOf).foldl
        (fun m u => (listen u m).2) (r.state n).memory), []⟩ := by
  have hrun := run_reloads hquiet h (nodup_affected (r.world n) changes)
    (fun e he => open_of_mem_affected hdone he)
    (show ([] ++ order).Perm ((r.world n).affected changes) from hperm) (r.state n).memory
    [.tell told]
  rw [answered, run_add]
  rw [show (r.world n).reloadAll [] = r.world n from rfl] at hrun
  rw [hrun]
  rfl

/-- A run rests where the tasks of the answered notification lead, if its listener asks for
nothing in between. -/
theorem state_of_rest (hquiet : r.Quiet n) (hdone : (r.state n).isDone = true)
    (hcall : r.calls n = some (.notify changes told))
    (horder : (r.order (n + 1)).arrange ((r.world n).affected changes) = order) :
    r.state (n + 3 + 4 * order.length) =
      (r.answered n told order).run r.listen.hushed (4 * order.length + 1) := by
  obtain ⟨m, hm, hrest, -⟩ := exists_rest_of_notify hquiet hdone hcall
  have hlength : order.length = ((r.world n).affected changes).length :=
    horder ▸ ((r.order (n + 1)).perm _).length_eq
  have hbusy : (r.state (n + 1)).isDone = false := isDone_of_agenda (agenda_of_call hdone hcall)
  have hend : m = n + 2 + (4 * order.length + 1) := by omega
  have hanswered : r.state (n + 2) = r.answered n told order := by
    rw [state_of_notify hdone hcall, horder, answered]
  have hrun : r.RestsNext (n + 2) (n + 2 + (4 * order.length + 1)) := hend ▸ hrest.succ hbusy
  have hsteps : ∀ i, n + 2 ≤ i → i < n + 2 + (4 * order.length + 1) →
      (r.state i).stepIn r.listen (r.order i) = (r.state i).step r.listen.hushed := fun i hi him =>
    step_of_calm (hquiet.mono (by omega)) (calm_of_quiet (hquiet.mono (by omega))
      (calm_of_notify hdone hcall) hi fun j hj hji => hrun.busy j hj (by omega)) .byId
  rw [show n + 3 + 4 * order.length = n + 2 + (4 * order.length + 1) by omega,
    hrun.state_eq hsteps, hanswered]

/-- **Projects are reloaded independently.**  Whatever a run has come to, and whatever order the
projects that a notification affects are reloaded in: each ends as if it were reloaded alone,
whether its reload or another one fails, and announces that; and all orders end with the same
projects and the same disk.  The run itself takes one of these orders. -/
theorem reloads_independently (hquiet : ∀ u m, (r.listen u m).1 = [])
    (hdone : (r.state n).isDone = true) (hcall : r.calls n = some (.notify changes told))
    (h : (r.world n).Independent ((r.world n).affected changes)) :
    (∃ m, r.RestsNext (n + 1) m ∧
        r.state m = r.reloadedIn n told
          ((r.order (n + 1)).arrange ((r.world n).affected changes))) ∧
      ∀ order, order.Perm ((r.world n).affected changes) →
        r.EndsAsAlone n told order (r.reloadedIn n told order) ∧
        EndsAlike (r.reloadedIn n told order)
          (r.reloadedIn n told ((r.world n).affected changes)) := by
  have hnodup := nodup_affected (r.world n) changes
  have hend : ∀ {order}, order.Perm ((r.world n).affected changes) → r.reloadedIn n told order =
      ⟨(r.world n).reloadAll order, told ((order.filterMap (r.world n).updateOf).foldl
        (fun m u => (r.listen u m).2) (r.state n).memory), []⟩ := fun hperm =>
    run_answered hquiet hdone h told hperm
  refine ⟨?_, fun order hperm => ⟨?_, ?_⟩⟩
  · have hrest : r.Quiet n := fun i _ u => hquiet u _
    obtain ⟨m, hm, hrests, -⟩ := exists_rest_of_notify hrest hdone hcall
    refine ⟨m, hrests, ?_⟩
    rw [hm, ← ((r.order (n + 1)).perm ((r.world n).affected changes)).length_eq,
      state_of_rest hrest hdone hcall rfl, Listener.hushed_eq hquiet, reloadedIn]
  · rw [hend hperm]
    exact ⟨rfl, fun e he p hp => h.find?_reloadAll hnodup hperm he hp,
      fun id hid => Workspace.find?_reloadAll_of_ne hid, rfl⟩
  · rw [hend hperm, hend (.refl _)]
    obtain ⟨hprojects, hentries⟩ := h.reloadAll_congr hnodup
      (fun e he => (open_of_mem_affected hdone he).imp fun _ hp => hp.1) hperm (.refl _)
    exact ⟨hprojects, hentries⟩

/-! ### A run with two projects -/

/-- A place, by its path. -/
def place (text : String) : Location := Path.normalize .root (.ofText text)

/-- The report that the definitions of both projects have changed. -/
def both : List Change := [⟨.ofText "/a.toml", .modified⟩, ⟨.ofText "/b.toml", .modified⟩]

/-- A run in which two projects are opened, files come, and both projects are to be made again.
It is at rest at moment 8. -/
def joint (staging a b : String) (entries : List (String × DiskEntry))
    (files : List (String × String)) : Run Unit where
  options := ⟨.ofText staging, true⟩
  disk := ⟨.root, (("/a.toml", .file a.toUTF8) :: ("/b.toml", .file b.toUTF8) :: entries).map
    fun e => (place e.1, e.2)⟩
  memory := ()
  listen := fun _ _ => ([], ())
  calls
    | 0 => some (.addProject (.ofText "/a.toml") fun _ m => m)
    | 3 => some (.addProject (.ofText "/b.toml") fun _ m => m)
    | 6 => some (.visit fun w m =>
        (files.foldl (fun d f => d.put (place f.1) (.file f.2.toUTF8)) w.disk, m))
    | 8 => some (.notify both id)
    | _ => none

/-- Whether whatever stands on a disk stands in a directory. -/
def isTree (d : Disk) : Bool :=
  d.entryAt d.cwd = some .directory &&
    d.entries.all fun x => d.entryAt x.1.parent = some .directory

theorem tree_of_isTree {d : Disk} (h : isTree d = true) : d.Tree := by
  simp only [isTree, Bool.and_eq_true, decide_eq_true_eq, List.all_eq_true] at h
  exact Disk.tree_of_entries h.1 h.2

/-- Whether no pattern by which a project is to collect sources has a component `..`. -/
def goesDown (w : Workspace) (work : List (String × Scope)) : Bool :=
  work.all fun e => (w.due e).all fun x =>
    (Project.sought w.options w.disk x.1 x.2).all fun g =>
      (Glob.trail g.text).toOption.all fun a => a.2.all fun q => !decide (q.Enters "..")

theorem noWayBack_of_goesDown {w : Workspace} {work : List (String × Scope)}
    (htree : w.disk.Tree) (h : goesDown w work = true) : w.NoWayBack work := by
  refine Workspace.noWayBack_of_not_enters htree fun e he x hx g hg a ha q hq => ?_
  have hall := List.all_eq_true.1 h e he
  rw [hx, Option.all_some, List.all_eq_true] at hall
  have hpattern := hall g hg
  rw [ha] at hpattern
  simpa using List.all_eq_true.1 hpattern q hq

/-- Two projects with one directory in the staging tree and one analyzer. -/
def twins : Run Unit :=
  joint "/staging" "name = \"a b\"\nsources = [\"src/*.cs\"]\nanalyzers = [\"x.pack\"]"
    "name = \"a_b\"\nanalyzers = [\"x.pack\"]"
    [("/src", .directory), ("/src/c.cs", .file .empty)] [("/x.pack", "name = \"x\"")]

/-- The two projects are copied to one place, and yet their reloads do not meet. -/
theorem independent_twins : (twins.state 8).isDone = true ∧
    Analyzer.stagingDirectory twins.options.staging "a b" =
      Analyzer.stagingDirectory twins.options.staging "a_b" ∧
    (twins.world 8).affected both = [("a b", .full), ("a_b", .full)] ∧
    (twins.world 8).Independent ((twins.world 8).affected both) := by
  have hchecks : (Analyzer.stagingDirectory twins.options.staging "a b" =
        Analyzer.stagingDirectory twins.options.staging "a_b" &&
      let w := twins.world 8
      let work := w.affected both
      (twins.state 8).isDone && work = [("a b", .full), ("a_b", .full)] && isTree w.disk &&
        decide w.options.staging.Straight && decide (w.Apart work) && decide (w.Standing work) &&
        goesDown w work) = true := by decide +kernel
  simp only [Bool.and_eq_true, decide_eq_true_eq] at hchecks
  obtain ⟨hdirectory, ⟨⟨⟨⟨⟨hdone, haffected⟩, htree⟩, hstraight⟩, hapart⟩, hstanding⟩, hdown⟩ :=
    hchecks
  exact ⟨hdone, hdirectory, haffected, hstraight, tree_of_isTree htree, hapart, hstanding,
    noWayBack_of_goesDown (tree_of_isTree htree) hdown⟩

/-- Projects that are copied to the same place are reloaded independently. -/
theorem reloads_independently_twins :
    Analyzer.stagingDirectory twins.options.staging "a b" =
        Analyzer.stagingDirectory twins.options.staging "a_b" ∧
      (twins.world 8).affected both = [("a b", .full), ("a_b", .full)] ∧
      EndsAlike (twins.reloadedIn 8 id [("a_b", .full), ("a b", .full)])
        (twins.reloadedIn 8 id [("a b", .full), ("a_b", .full)]) := by
  obtain ⟨hdone, hdirectory, haffected, h⟩ := independent_twins
  have hcall : twins.calls 8 = some (.notify both id) := rfl
  have hall := (reloads_independently (fun _ _ => rfl) hdone hcall h).2
  rw [haffected] at hall
  exact ⟨hdirectory, haffected, (hall _ (.swap _ _ _)).2⟩

/-! ### Reloads that meet -/

/-- Whatever order affected projects are reloaded in, they end alike, as long as what they read
lies outside the staging tree and a side condition holds. -/
def ReloadsIndependently (side : Workspace → List (String × Scope) → Prop) : Prop :=
  ∀ (r : Run Unit) (n : Nat) (changes : List Change), (∀ u m, (r.listen u m).1 = []) →
    (r.state n).isDone = true → r.calls n = some (.notify changes id) →
    (r.world n).disk.Tree → (r.world n).Apart ((r.world n).affected changes) →
    side (r.world n) ((r.world n).affected changes) →
    ∀ order order', order.Perm ((r.world n).affected changes) →
      order'.Perm ((r.world n).affected changes) →
      EndsAlike (r.reloadedIn n id order) (r.reloadedIn n id order')

/-- What can be compared of a project by computing. -/
def findings (s : Session Unit) (id : String) :
    Option (List Location × List Analyzer.LoadFault) :=
  (s.workspace.projects.find? id).map fun p => (p.snapshot.sources, p.snapshot.failures)

/-- Two projects of which the second one ends in another way after the first one. -/
theorem not_reloadsIndependently_of {side : Workspace → List (String × Scope) → Prop}
    (check : Workspace → List (String × Scope) → Bool)
    (hcheck : ∀ w work, w.disk.Tree → check w work = true → side w work)
    (staging a b : String) (entries : List (String × DiskEntry)) (files : List (String × String))
    (h : let r := joint staging a b entries files
      let work := (r.world 8).affected both
      ((r.state 8).isDone && isTree (r.world 8).disk && decide ((r.world 8).Apart work) &&
        check (r.world 8) work &&
        findings (r.reloadedIn 8 id work) "b" ≠ findings (r.reloadedIn 8 id work.reverse) "b") =
          true) : ¬ ReloadsIndependently side := by
  intro hall
  simp only [Bool.and_eq_true, decide_eq_true_eq] at h
  obtain ⟨⟨⟨⟨hdone, htree⟩, hapart⟩, hside⟩, hdiffers⟩ := h
  have hsame := hall _ 8 both (fun _ _ => rfl) hdone rfl (tree_of_isTree htree) hapart
    (hcheck _ _ (tree_of_isTree htree) hside) _ _ (.refl _) (List.reverse_perm _)
  exact hdiffers (by rw [findings, findings, hsame.projects_eq])

/-- A pattern has a way back from the staging tree that the other project brings. -/
theorem meet_by_pattern :
    ¬ ReloadsIndependently (fun w work => w.options.staging.Straight ∧ w.Standing work) :=
  not_reloadsIndependently_of (fun w work =>
      decide w.options.staging.Straight && decide (w.Standing work))
    (fun w work _ h => by simpa using h) "/staging" "analyzers = [\"x.pack\"]"
    "sources = [\"staging/../src/*.cs\"]"
    [("/src", .directory), ("/src/c.cs", .file .empty)] [("/x.pack", "name = \"x\"")]
    (by decide +kernel)

/-- A project declares a directory above the staging tree as an analyzer. -/
theorem meet_by_analyzer :
    ¬ ReloadsIndependently (fun w work => w.options.staging.Straight ∧ w.NoWayBack work) :=
  not_reloadsIndependently_of (fun w work =>
      decide w.options.staging.Straight && goesDown w work)
    (fun w work htree h => by
      rw [Bool.and_eq_true, decide_eq_true_eq] at h
      exact h.imp_right (noWayBack_of_goesDown htree))
    "/q/staging" "analyzers = [\"x.pack\"]" "analyzers = [\"q\"]" []
    [("/x.pack", "name = \"x\"")] (by decide +kernel)

/-- The path of the staging tree goes up from a directory that the other project brings. -/
theorem meet_by_staging :
    ¬ ReloadsIndependently (fun w work => w.Standing work ∧ w.NoWayBack work) :=
  not_reloadsIndependently_of (fun w work =>
      decide (w.Standing work) && goesDown w work)
    (fun w work htree h => by
      rw [Bool.and_eq_true, decide_eq_true_eq] at h
      exact h.imp_right (noWayBack_of_goesDown htree))
    "x/../f" "analyzers = [\"x.pack\"]" "analyzers = [\"y.pack\"]" [("/f", .file .empty)]
    [("/x.pack", "name = \"x\""), ("/y.pack", "name = \"y\"")] (by decide +kernel)

/-- **Projects can meet in spite of that**: a pattern has a way back from the staging tree that
the other project brings; a project declares a directory above the staging tree as an analyzer;
or the path of the staging tree goes up from a directory that the other project brings. -/
theorem not_reloadsIndependently :
    ¬ ReloadsIndependently (fun _ _ => True) ∧
      ¬ ReloadsIndependently (fun w work => w.options.staging.Straight ∧ w.Standing work) ∧
      ¬ ReloadsIndependently (fun w work => w.options.staging.Straight ∧ w.NoWayBack work) ∧
      ¬ ReloadsIndependently (fun w work => w.Standing work ∧ w.NoWayBack work) :=
  ⟨fun hall => meet_by_pattern fun r n changes hquiet hdone hcall htree hapart _ =>
    hall r n changes hquiet hdone hcall htree hapart trivial, meet_by_pattern, meet_by_analyzer,
    meet_by_staging⟩

end Run
end Session
end LintWorkspace
