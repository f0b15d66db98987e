/-
# Batches and orders

A batch of changes counts as a set, and the projects that it affects are reloaded in no fixed
order.  So two batches that report the same are told to a run at rest, each with an order of
its own.  Either way every affected project is reloaded once, with the same work, and all others
are left alone.  What the reloads come to is another matter:

| the orders | afterwards |
| --- | --- |
| arrange the work alike, as they must if it is for one project | the runs are the same |
| differ, and the reloads do not meet | the projects, the disk and the updates are the same |
| differ, and the reloads meet | a project can end in another way |

The first two lines are `batch_is_set`.  For the last one each of the ways to meet is needed:
whatever tells two orders of a batch apart is a difference between reloading the projects of one
notification in two orders (`endsAlike_of_batchIsSet`).
-/

import LintWorkspace.Proofs.Independence

namespace LintWorkspace
namespace Session

/-- The order that turns the work round. -/
def Order.reversed : Order := ⟨List.reverse, List.reverse_perm⟩

/-- An order in which some work comes as it is said. -/
def Order.ofPerm {work arranged : List (String × Scope)} (h : arranged.Perm work) : Order where
  arrange given := if given = work then arranged else given
  perm given := by
    split
    · rename_i hgiven
      exact hgiven ▸ h
    · exact .refl given

theorem Order.arrange_ofPerm {work arranged : List (String × Scope)} (h : arranged.Perm work) :
    (Order.ofPerm h).arrange work = arranged := if_pos rfl

/-- There is one order for the work on one project. -/
theorem Order.arrange_of_length_le_one (order : Order) {work : List (String × Scope)}
    (h : work.length ≤ 1) : order.arrange work = work := by
  cases work with
  | nil => exact List.perm_nil.1 (order.perm [])
  | cons e rest =>
    obtain rfl : rest = [] := List.length_eq_zero_iff.1 (by simpa using h)
    exact List.perm_singleton.1 (order.perm [e])

namespace Run

variable {μ : Type} {r : Run μ} {n m : Nat} {changes changes' : List Change} {told : μ → μ}
  {order order' : Order}

/-- Where the work is arranged alike, two batches that report the same are answered alike, and
the runs go on together. -/
theorem state_eq_of_arrange_eq (hdone : (r.state n).isDone = true)
    (hsame : (r.world n).affected changes = (r.world n).affected changes')
    (horder : order.arrange ((r.world n).affected changes) =
      order'.arrange ((r.world n).affected changes)) {i : Nat} (hi : n + 2 ≤ i) :
    (r.asking n (.notify changes told) order).state i =
      (r.asking n (.notify changes' told) order').state i := by
  refine state_asking_congr (by omega) ?_ hi
  rw [state_of_notify (isDone_asking hdone) calls_asking,
    state_of_notify (isDone_asking hdone) calls_asking, order_asking, order_asking, state_asking,
    state_asking, world_asking, world_asking, ← hsame, horder]

/-- So the same has been heard about every project. -/
theorem updates_eq_of_arrange_eq (hdone : (r.state n).isDone = true)
    (hsame : (r.world n).affected changes = (r.world n).affected changes')
    (horder : order.arrange ((r.world n).affected changes) =
      order'.arrange ((r.world n).affected changes)) (i : Nat) (id : String) :
    (r.asking n (.notify changes told) order).updates i id =
      (r.asking n (.notify changes' told) order').updates i id := by
  -- at the moment of the answer neither run says anything
  have hheard : (r.asking n (.notify changes told) order).heard =
      (r.asking n (.notify changes' told) order').heard := by
    funext j
    obtain hj | rfl | hj : j ≤ n ∨ j = n + 1 ∨ n + 2 ≤ j := by omega
    · simp only [heard, task, world, state_asking_of_le hj]
    · simp only [heard, task, agenda_of_call (isDone_asking hdone) calls_asking]
      rfl
    · simp only [heard, task, world, state_eq_of_arrange_eq hdone hsame horder hj]
  rw [updates, updates, hheard]

/-- Where reloads do not meet, a run rests with the affected projects reloaded in its order. -/
theorem exists_state_of_independent (hdone : (r.state n).isDone = true)
    (hquiet : (r.asking n (.notify changes told) order).Quiet n)
    (h : (r.world n).Independent ((r.world n).affected changes)) :
    ∃ memory, (r.asking n (.notify changes told) order).state
        (n + 3 + 4 * ((r.world n).affected changes).length) =
      ⟨(r.world n).reloadAll (order.arrange ((r.world n).affected changes)), memory, []⟩ := by
  have hrest : ((r.asking n (.notify changes told) order).state n).isDone = true :=
    isDone_asking hdone
  have hend := state_of_rest hquiet hrest calls_asking (by rw [order_asking])
  rw [run_answered (fun _ _ => rfl) hrest (by rw [world_asking]; exact h) told (order.perm _),
    (order.perm _).length_eq, world_asking] at hend
  exact ⟨_, hend⟩

/-- What is asked for changes nothing of what has been heard before. -/
theorem updates_asking {request : Request μ} (id : String) :
    (r.asking n request order).updates n id = r.updates n id := by
  rw [updates, updates]
  refine congrArg (List.filter _) (List.filterMap_congr fun i hi => ?_)
  simp only [heard, task, world, state_asking_of_le (List.mem_range.1 hi).le]

/-- Two runs that end a notification with the same projects end it with the same updates. -/
theorem updates_eq_of_dispatched
    (hsame : ∀ l kind, (r.world n).Reports changes l kind ↔ (r.world n).Reports changes' l kind)
    (h : (r.asking n (.notify changes told) order).Dispatched n m changes)
    (h' : (r.asking n (.notify changes' told) order').Dispatched n m changes')
    {id : String} {p : OpenProject} (hp : r.project n id = some p)
    (hproject : (r.asking n (.notify changes told) order).project m id =
      (r.asking n (.notify changes' told) order').project m id) :
    (r.asking n (.notify changes told) order).updates m id =
      (r.asking n (.notify changes' told) order').updates m id := by
  have hconcerns : (r.world n).Concerns changes p ↔ (r.world n).Concerns changes' p :=
    exists_congr fun l => exists_congr fun kind => and_congr_left' (hsame l kind)
  by_cases hc : (r.world n).Concerns changes p
  · obtain ⟨-, -, -, -, -, -, q, -, hq, hu⟩ :=
      h.concerned id p (project_asking.trans hp) (concerns_asking.2 hc)
    obtain ⟨-, -, -, -, -, -, q', -, hq', hu'⟩ :=
      h'.concerned id p (project_asking.trans hp) (concerns_asking.2 (hconcerns.1 hc))
    rw [hq, hq', Option.some.injEq] at hproject
    rw [hu, hu', updates_asking, updates_asking, hproject]
  · have halone := h.others id p (project_asking.trans hp) fun h => hc (concerns_asking.1 h)
    have halone' := h'.others id p (project_asking.trans hp) fun h =>
      hc (hconcerns.2 (concerns_asking.1 h))
    rw [halone.updates_eq, halone'.updates_eq, updates_asking, updates_asking]

/-- **A batch of changes counts as a set.**  At rest a caller may tell either of two batches
that report the same, in whatever order and however often, and the affected projects come in
whatever order.  Until the run is at rest again, each project that the batch concerns is reloaded
once and the others are left alone.  If the work is arranged alike, the run is in the same state
at every moment after the answer, and the same has been heard about every project.  If the
reloads do not meet, the same projects and the same disk are there at rest again, and the same
has been heard about every project until then. -/
theorem batch_is_set (hdone : (r.state n).isDone = true)
    (hsame : ∀ l kind, (r.world n).Reports changes l kind ↔ (r.world n).Reports changes' l kind)
    (hquiet : (r.asking n (.notify changes told) order).Quiet n)
    (hquiet' : (r.asking n (.notify changes' told) order').Quiet n) :
    ∃ m ≥ n + 2, (r.asking n (.notify changes told) order).Dispatched n m changes ∧
      (r.asking n (.notify changes' told) order').Dispatched n m changes' ∧
      (((r.world n).affected changes).length ≤ 1 ∨
          order.arrange ((r.world n).affected changes) =
            order'.arrange ((r.world n).affected changes) →
        (∀ i ≥ n + 2, (r.asking n (.notify changes told) order).state i =
            (r.asking n (.notify changes' told) order').state i) ∧
          ∀ i id, (r.asking n (.notify changes told) order).updates i id =
            (r.asking n (.notify changes' told) order').updates i id) ∧
      ((r.world n).Independent ((r.world n).affected changes) →
        EndsAlike ((r.asking n (.notify changes told) order).state m)
            ((r.asking n (.notify changes' told) order').state m) ∧
          ∀ id, (r.asking n (.notify changes told) order).updates m id =
            (r.asking n (.notify changes' told) order').updates m id) := by
  have hwork := Workspace.affected_congr hsame
  obtain ⟨m, hm, hdispatched⟩ := exists_dispatched hquiet (isDone_asking hdone) calls_asking
  obtain ⟨m', hm', hdispatched'⟩ := exists_dispatched hquiet' (isDone_asking hdone) calls_asking
  rw [world_asking] at hm hm'
  obtain rfl : m' = m := by rw [hm, hm', hwork]
  refine ⟨m', by omega, hdispatched, hdispatched', fun harranged => ?_, fun h => ?_⟩
  · have horder : order.arrange ((r.world n).affected changes) =
        order'.arrange ((r.world n).affected changes) := by
      rcases harranged with hone | harranged
      · rw [order.arrange_of_length_le_one hone, order'.arrange_of_length_le_one hone]
      · exact harranged
    exact ⟨fun i hi => state_eq_of_arrange_eq hdone hwork horder hi,
      updates_eq_of_arrange_eq hdone hwork horder⟩
  · obtain ⟨memory, hstate⟩ := exists_state_of_independent hdone hquiet h
    obtain ⟨memory', hstate'⟩ :=
      exists_state_of_independent hdone hquiet' (by rw [← hwork]; exact h)
    rw [← hm] at hstate
    rw [← hm', ← hwork] at hstate'
    have hopen : ∀ e ∈ (r.world n).affected changes, ∃ p, (r.world n).projects.find? e.1 = some p :=
      fun e he => (open_of_mem_affected hdone he).imp fun _ hp => hp.1
    obtain ⟨hprojects, hentries⟩ := h.reloadAll_congr (nodup_affected (r.world n) changes) hopen
      (order.perm _) (order'.perm _)
    have halike : EndsAlike ((r.asking n (.notify changes told) order).state m')
        ((r.asking n (.notify changes' told) order').state m') := by
      rw [hstate, hstate']
      exact ⟨hprojects, hentries⟩
    refine ⟨halike, fun id => ?_⟩
    have hproject : (r.asking n (.notify changes told) order).project m' id =
        (r.asking n (.notify changes' told) order').project m' id := by
      rw [project, project, world, world, halike.projects_eq]
    cases hp : r.project n id with
    | some p => exact updates_eq_of_dispatched hsame hdispatched hdispatched' hp hproject
    | none =>
      -- nothing is heard about a project that is not open
      have hnone : (r.asking n (.notify changes told) order).project m' id = none := by
        rw [project, world, hstate, Workspace.find?_reloadAll_of_ne, ← hp, project]
        rintro e he rfl
        obtain ⟨p, hopened⟩ := hopen e ((order.mem_arrange).1 he)
        rw [project, hopened] at hp
        cases hp
      rw [updates_of_none hnone, updates_of_none (hproject ▸ hnone)]

/-- The same two reports, one of them twice and the other way round. -/
def bothTwice : List Change := both.reverse ++ both

/-- Two projects with one directory in the staging tree end alike after both batches. -/
theorem batch_is_set_twins :
    ∃ m, EndsAlike ((twins.asking 8 (.notify both id) .byId).state m)
        ((twins.asking 8 (.notify bothTwice id) .reversed).state m) ∧
      ∀ name ∈ ["a b", "a_b"], ∃ p, twins.project 8 name = some p ∧
        (twins.asking 8 (.notify both id) .byId).ReloadedOnce 8 m name p ∧
        (twins.asking 8 (.notify bothTwice id) .reversed).ReloadedOnce 8 m name p := by
  obtain ⟨hdone, -, haffected, h⟩ := independent_twins
  have hsame : ∀ l kind, (twins.world 8).Reports both l kind ↔
      (twins.world 8).Reports bothTwice l kind := fun l kind => by
    simp only [Workspace.Reports, bothTwice, List.map_append, List.map_reverse, List.mem_append,
      List.mem_reverse, or_self]
  have hquiet : (twins.asking 8 (.notify both id) .byId).Quiet 8 := fun _ _ _ => rfl
  have hquiet' : (twins.asking 8 (.notify bothTwice id) .reversed).Quiet 8 := fun _ _ _ => rfl
  obtain ⟨m, -, hdispatched, hdispatched', -, halike⟩ := batch_is_set hdone hsame hquiet hquiet'
  refine ⟨m, (halike h).1, fun name hname => ?_⟩
  have hmem : (name, Scope.full) ∈ (twins.world 8).affected both := by
    rw [haffected]
    simpa using hname
  obtain ⟨p, hp, -⟩ := open_of_mem_affected hdone hmem
  have hconcerns := (Workspace.exists_mem_affected hp).1 ⟨_, hmem⟩
  have hconcerns' : (twins.world 8).Concerns bothTwice p := by
    obtain ⟨l, kind, hreport, hwork⟩ := hconcerns
    exact ⟨l, kind, (hsame l kind).1 hreport, hwork⟩
  have hopen : ∀ {request order}, (twins.asking 8 request order).project 8 name = some p :=
    project_asking.trans hp
  exact ⟨p, hp, hdispatched.concerned name p hopen (concerns_asking.2 hconcerns),
    hdispatched'.concerned name p hopen (concerns_asking.2 hconcerns')⟩

/-! ### Batches whose reloads meet -/

/-- Two batches that report the same end alike in any orders, as long as a side condition
holds. -/
def BatchIsSet (side : Workspace → List (String × Scope) → Prop) : Prop :=
  ∀ (r : Run Unit) (n m m' : Nat) (changes changes' : List Change) (order order' : Order),
    (∀ u memory, (r.listen u memory).1 = []) → (r.state n).isDone = true →
    (∀ l kind, (r.world n).Reports changes l kind ↔ (r.world n).Reports changes' l kind) →
    side (r.world n) ((r.world n).affected changes) →
    (r.asking n (.notify changes id) order).RestsNext (n + 1) m →
    (r.asking n (.notify changes' id) order').RestsNext (n + 1) m' →
    EndsAlike ((r.asking n (.notify changes id) order).state m)
      ((r.asking n (.notify changes' id) order').state m')

/-- A batch that counts as a set ends alike in all orders of its reloads. -/
theorem endsAlike_of_batchIsSet {side : Workspace → List (String × Scope) → Prop}
    (hset : BatchIsSet side) {r : Run Unit} (hquiet : ∀ u memory, (r.listen u memory).1 = [])
    (hdone : (r.state n).isDone = true)
    (hside : side (r.world n) ((r.world n).affected changes))
    {arranged arranged' : List (String × Scope)} (h : arranged.Perm ((r.world n).affected changes))
    (h' : arranged'.Perm ((r.world n).affected changes)) :
    EndsAlike (r.reloadedIn n id arranged) (r.reloadedIn n id arranged') := by
  have hend : ∀ {arranged} (h : arranged.Perm ((r.world n).affected changes)), ∃ m,
      (r.asking n (.notify changes id) (.ofPerm h)).RestsNext (n + 1) m ∧
      (r.asking n (.notify changes id) (.ofPerm h)).state m = r.reloadedIn n id arranged := by
    intro arranged h
    have hrest : ((r.asking n (.notify changes id) (.ofPerm h)).state n).isDone = true :=
      isDone_asking hdone
    have hlisten : (r.asking n (.notify changes id) (.ofPerm h)).Quiet n := fun _ _ u => hquiet u _
    have harranged : ((r.asking n (.notify changes id) (.ofPerm h)).order (n + 1)).arrange
        ((r.world n).affected changes) = arranged := by
      rw [order_asking, Order.arrange_ofPerm]
    obtain ⟨m, hm, hrests, -⟩ := exists_rest_of_notify hlisten hrest calls_asking
    refine ⟨m, hrests, ?_⟩
    rw [hm, world_asking, ← h.length_eq, state_of_rest hlisten hrest calls_asking
      (by rw [world_asking]; exact harranged), Listener.hushed_eq (by exact hquiet), reloadedIn,
      answered, answered, world_asking, state_asking]
    rfl
  obtain ⟨m, hm, hstate⟩ := hend h
  obtain ⟨m', hm', hstate'⟩ := hend h'
  rw [← hstate, ← hstate']
  exact hset r n m m' changes changes _ _ hquiet hdone (fun _ _ => .rfl) hside hm hm'

/-- So the ways in which projects that are reloaded apart from the staging tree can meet tell
batches apart. -/
theorem not_batchIsSet_of_meet {side : Workspace → List (String × Scope) → Prop}
    (hmeet : ¬ ReloadsIndependently side) :
    ¬ BatchIsSet (fun w work => w.disk.Tree ∧ w.Apart work ∧ side w work) := fun hset =>
  hmeet fun _ _ _ hquiet hdone _ htree hapart hside _ _ hperm hperm' =>
    endsAlike_of_batchIsSet hset hquiet hdone ⟨htree, hapart, hside⟩ hperm hperm'

/-- A project declares the copy as an analyzer that the other project makes. -/
theorem not_batchIsSet_of_copy :
    ¬ BatchIsSet (fun w work => w.disk.Tree ∧ w.options.staging.Straight ∧ w.Standing work ∧
      w.NoWayBack work) := by
  intro hset
  let r := joint "/staging" "analyzers = [\"x.pack\"]"
    "analyzers = [\"staging/a/0c04005cc8004dc9/x.pack\"]" [] [("/x.pack", "name = \"x\"")]
  have hchecks : (let work := (r.world 8).affected both
      (r.state 8).isDone && isTree (r.world 8).disk &&
        decide (r.world 8).options.staging.Straight && decide ((r.world 8).Standing work) &&
        goesDown (r.world 8) work &&
        findings (r.reloadedIn 8 id work) "b" ≠ findings (r.reloadedIn 8 id work.reverse) "b") =
      true := by decide +kernel
  simp only [Bool.and_eq_true, decide_eq_true_eq] at hchecks
  obtain ⟨⟨⟨⟨⟨hdone, htree⟩, hstraight⟩, hstanding⟩, hdown⟩, hdiffers⟩ := hchecks
  have htree := tree_of_isTree htree
  have hsame := endsAlike_of_batchIsSet hset (r := r) (fun _ _ => rfl) hdone
    ⟨htree, hstraight, hstanding, noWayBack_of_goesDown htree hdown⟩ (.refl _)
    (List.reverse_perm _)
  exact hdiffers (by rw [findings, findings, hsame.projects_eq])

/-- **A batch is not a set where its reloads meet**, whichever of the conditions on them is
left out: that they are apart from the staging tree, that its path does not go up, that nothing
they read is a directory that copies bring, or that no pattern has a way back from one. -/
theorem not_batchIsSet :
    ¬ BatchIsSet (fun _ _ => True) ∧
      ¬ BatchIsSet (fun w work => w.disk.Tree ∧ w.options.staging.Straight ∧ w.Standing work ∧
        w.NoWayBack work) ∧
      ¬ BatchIsSet (fun w work => w.disk.Tree ∧ w.Apart work ∧ w.options.staging.Straight ∧
        w.Standing work) ∧
      ¬ BatchIsSet (fun w work => w.disk.Tree ∧ w.Apart work ∧ w.options.staging.Straight ∧
        w.NoWayBack work) ∧
      ¬ BatchIsSet (fun w work => w.disk.Tree ∧ w.Apart work ∧ w.Standing work ∧
        w.NoWayBack work) :=
  ⟨fun hset => not_batchIsSet_of_copy fun r n m m' changes changes' order order' hquiet hdone
      hsame _ => hset r n m m' changes changes' order order' hquiet hdone hsame trivial,
    not_batchIsSet_of_copy, not_batchIsSet_of_meet meet_by_pattern,
    not_batchIsSet_of_meet meet_by_analyzer, not_batchIsSet_of_meet meet_by_staging⟩

end Run
end Session
end LintWorkspace
