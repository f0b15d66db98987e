/-
# Every waiter gets the updates of its project, each once and in order

Waiters come, go and take updates while updates are emitted, in any order of steps.  A
waiter is live after it has subscribed for as long as nobody drops it or takes its name.

| what every step keeps | |
| --- | --- |
| `Wired` | a channel is on one project's list, once, and the next channel is on none |
| `Listens` | the channel of a live waiter is on the list of its project |

From these one step adds to what a live waiter has taken and still holds exactly the
update that it emits for the waiter's project (`takenAt_append_waiting`), and so a run
adds the updates that it emits, in order (`delivers_in_order`).  A waiter that is gone
stays on the list until the next update of its project (`pruned`).
-/

import LintWorkspace.Update.Broadcaster

namespace LintWorkspace
namespace Broadcaster

/-- What is done with a broadcaster. -/
inductive Step where
  | subscribe (name project : String)
  | drop (name : String)
  | emit (u : Update)
  /-- a waiter takes what has come, without waiting or waiting for no time -/
  | next (name : String)
deriving DecidableEq

/-- The broadcaster after a step. -/
def perform (b : Broadcaster) : Step → Broadcaster
  | .subscribe name project => b.subscribe name project
  | .drop name => b.drop name
  | .emit u => b.emit u
  | .next name => (b.next name).1

/-- The broadcaster after a run of steps. -/
def run (b : Broadcaster) (steps : List Step) : Broadcaster := steps.foldl perform b

/-- What a waiter takes at a step. -/
def takenAt (b : Broadcaster) (name : String) : Step → List Update
  | .next name' => if name' = name then (b.next name).2.toList else []
  | _ => []

/-- What a waiter takes in a run of steps, in that order. -/
def taken (b : Broadcaster) (name : String) : List Step → List Update
  | [] => []
  | s :: steps => b.takenAt name s ++ (b.perform s).taken name steps

/-- What a step emits for a project. -/
def emittedAt (project : String) : Step → List Update
  | .emit u => if u.project = project then [u] else []
  | _ => []

/-- What a run of steps emits for a project, in that order. -/
def emittedFor (project : String) (steps : List Step) : List Update :=
  steps.flatMap (emittedAt project)

/-- The step ends the waiter of a name: it drops it, or gives its name to another one. -/
def Step.Ends (name : String) : Step → Prop
  | .subscribe name' _ => name' = name
  | .drop name' => name' = name
  | _ => False

variable {b : Broadcaster} {name name' project project' : String} {u : Update} {s : Step}
  {before between after later : List Step}

/-! ### What one step does to the lists and the waiters -/

theorem channelsOf_subscribe :
    (b.subscribe name project).channelsOf project' =
      if project = project' then b.channelsOf project' ++ [b.fresh]
      else b.channelsOf project' := by
  unfold channelsOf subscribe
  rw [SortedMap.find?_insert]
  by_cases h : project = project'
  · simp [h, channelsOf]
  · simp [h]

/-- An update takes those channels off the list of its project that nobody receives from. -/
theorem channelsOf_emit :
    (b.emit u).channelsOf project =
      if u.project = project then (b.channelsOf project).filter (hasReceiver b.waiters)
      else b.channelsOf project := by
  unfold channelsOf emit
  cases hcs : b.channels.find? u.project with
  | none =>
    by_cases h : u.project = project
    · simp [← h, hcs]
    · simp [h]
  | some cs =>
    simp only [SortedMap.find?_insert, sendAll_fst]
    by_cases h : u.project = project
    · simp [← h, hcs]
    · simp [h]

/-- Asking leaves the lists as they are. -/
theorem channelsOf_next : (b.next name).1.channelsOf project = b.channelsOf project := by
  unfold next
  split <;> rfl

theorem fresh_emit : (b.emit u).fresh = b.fresh := by
  unfold emit
  split <;> rfl

theorem fresh_next : (b.next name).1.fresh = b.fresh := by
  unfold next
  split <;> rfl

/-- Whoever listens on the list of an update's project holds the update last. -/
theorem find?_waiters_emit (hlist : (b.channelsOf u.project).Nodup) :
    (b.emit u).waiters.find? name = (b.waiters.find? name).map fun w =>
      if w.channel ∈ b.channelsOf u.project then { w with waiting := w.waiting ++ [u] }
      else w := by
  unfold channelsOf at *
  unfold emit
  cases hcs : b.channels.find? u.project with
  | none => simp
  | some cs =>
    rw [hcs] at hlist
    exact find?_sendAll hlist b.waiters name

/-- Taking changes what one waiter holds, and nobody's channel. -/
theorem find?_waiters_next :
    (b.next name').1.waiters.find? name = (b.waiters.find? name).map fun w =>
      if name' = name then { w with waiting := w.waiting.tail } else w := by
  unfold next
  split
  · rename_i c v rest hw
    rw [SortedMap.find?_insert]
    by_cases h : name' = name
    · subst h
      simp [hw]
    · simp [h]
  · rename_i hno
    by_cases h : name' = name
    · subst h
      cases hw : b.waiters.find? name' with
      | none => simp
      | some w =>
        obtain ⟨c, held⟩ := w
        cases held with
        | nil => simp
        | cons v rest => exact absurd hw (hno c v rest)
    · simp [h]

/-! ### What every step keeps -/

/-- The lists do not overlap, and what they hold has been given out. -/
structure Wired (b : Broadcaster) : Prop where
  nodup : ∀ project, (b.channelsOf project).Nodup
  apart : ∀ project project' c, c ∈ b.channelsOf project → c ∈ b.channelsOf project' →
    project = project'
  lt_fresh : ∀ project c, c ∈ b.channelsOf project → c < b.fresh

/-- A waiter is there, and its channel is on the list of a project. -/
def Listens (b : Broadcaster) (name project : String) : Prop :=
  ∃ w, b.waiters.find? name = some w ∧ w.channel ∈ b.channelsOf project

theorem wired_empty : Wired empty where
  nodup _ := List.nodup_nil
  apart _ _ _ h := absurd h List.not_mem_nil
  lt_fresh _ _ h := absurd h List.not_mem_nil

/-- Lists that only lose channels stay apart. -/
theorem Wired.of_sublist (hb : Wired b) {b' : Broadcaster} (hfresh : b'.fresh = b.fresh)
    (hsub : ∀ project, (b'.channelsOf project).Sublist (b.channelsOf project)) :
    Wired b' where
  nodup project := (hb.nodup project).sublist (hsub project)
  apart project project' c hc hc' :=
    hb.apart project project' c ((hsub project).mem hc) ((hsub project').mem hc')
  lt_fresh project c hc := hfresh ▸ hb.lt_fresh project c ((hsub project).mem hc)

/-- A new channel is on no list yet. -/
theorem Wired.subscribe (hb : Wired b) (name project : String) :
    Wired (b.subscribe name project) := by
  have hnew : ∀ p, b.fresh ∉ b.channelsOf p := fun p h =>
    absurd (hb.lt_fresh p _ h) (Nat.lt_irrefl _)
  have hmem : ∀ p c, c ∈ (b.subscribe name project).channelsOf p ↔
      c ∈ b.channelsOf p ∨ p = project ∧ c = b.fresh := by
    intro p c
    rw [channelsOf_subscribe]
    by_cases h : project = p
    · simp [h]
    · simp [h, Ne.symm h]
  refine ⟨fun p => ?_, fun p q c hp hq => ?_, fun p c hp => ?_⟩
  · rw [channelsOf_subscribe]
    split
    · refine List.nodup_append.2 ⟨hb.nodup p, by simp, fun c hc d hd hcd => ?_⟩
      rw [hcd, List.mem_singleton.1 hd] at hc
      exact hnew p hc
    · exact hb.nodup p
  · rcases (hmem p c).1 hp with hp | ⟨hp, hc⟩ <;> rcases (hmem q c).1 hq with hq | ⟨hq, hc'⟩
    · exact hb.apart p q c hp hq
    · exact absurd (hc' ▸ hp) (hnew p)
    · exact absurd (hc ▸ hq) (hnew q)
    · exact hp.trans hq.symm
  · show c < b.fresh + 1
    rcases (hmem p c).1 hp with hp | ⟨-, rfl⟩
    · exact Nat.lt_succ_of_lt (hb.lt_fresh p c hp)
    · exact Nat.lt_succ_self _

theorem Wired.perform (hb : Wired b) (s : Step) : Wired (b.perform s) := by
  cases s with
  | subscribe name project => exact hb.subscribe name project
  | drop name => exact hb.of_sublist rfl fun _ => List.Sublist.refl _
  | emit u =>
    refine hb.of_sublist fresh_emit fun project => ?_
    rw [Broadcaster.perform, channelsOf_emit]
    split
    · exact List.filter_sublist
    · exact List.Sublist.refl _
  | next name =>
    refine hb.of_sublist fresh_next fun project => ?_
    have hsame : (b.perform (.next name)).channelsOf project = b.channelsOf project :=
      channelsOf_next
    exact hsame ▸ List.Sublist.refl _

theorem Wired.run (hb : Wired b) (steps : List Step) : Wired (b.run steps) := by
  induction steps generalizing b with
  | nil => exact hb
  | cons s steps ih => exact ih (hb.perform s)

/-- A new waiter listens to its project, and holds nothing. -/
theorem listens_subscribe : Listens (b.subscribe name project) name project := by
  refine ⟨⟨b.fresh, []⟩, ?_, ?_⟩
  · simp [subscribe, SortedMap.find?_insert]
  · simp [channelsOf_subscribe]

/-- A waiter listens on until it is ended: sending over its channel does not take it off the
list. -/
theorem Listens.perform (hl : Listens b name project) (hb : Wired b) (hs : ¬ s.Ends name) :
    Listens (b.perform s) name project := by
  obtain ⟨w, hw, hc⟩ := hl
  cases s with
  | subscribe name' project' =>
    have hne : name' ≠ name := hs
    refine ⟨w, ?_, ?_⟩
    · rw [Broadcaster.perform, subscribe, SortedMap.find?_insert, if_neg hne]
      exact hw
    · rw [Broadcaster.perform, channelsOf_subscribe]
      split
      · exact List.mem_append_left _ hc
      · exact hc
  | drop name' =>
    have hne : name' ≠ name := hs
    refine ⟨w, ?_, hc⟩
    rw [Broadcaster.perform, drop, SortedMap.find?_erase, if_neg hne]
    exact hw
  | emit u =>
    refine ⟨_, by rw [Broadcaster.perform, find?_waiters_emit (hb.nodup _), hw]; rfl, ?_⟩
    have hlive : hasReceiver b.waiters w.channel = true := hasReceiver_iff.2 ⟨name, w, hw, rfl⟩
    rw [Broadcaster.perform, channelsOf_emit, apply_ite Waiter.channel, ite_self]
    split
    · exact List.mem_filter.2 ⟨hc, hlive⟩
    · exact hc
  | next name' =>
    refine ⟨_, by rw [Broadcaster.perform, find?_waiters_next, hw]; rfl, ?_⟩
    rw [Broadcaster.perform, channelsOf_next, apply_ite Waiter.channel, ite_self]
    exact hc

/-! ### Delivery -/

/-- **One step delivers what it emits.**  What a live waiter takes at a step and holds after it
is what it held before, and the update that the step emits for its project. -/
theorem takenAt_append_waiting (hb : Wired b) (hl : Listens b name project)
    (hs : ¬ s.Ends name) :
    b.takenAt name s ++ (b.perform s).waiting name = b.waiting name ++ emittedAt project s := by
  obtain ⟨w, hw, hc⟩ := hl
  cases s with
  | subscribe name' project' =>
    simp [takenAt, emittedAt, perform, waiting, subscribe, SortedMap.find?_insert,
      show name' ≠ name from hs]
  | drop name' =>
    simp [takenAt, emittedAt, perform, waiting, drop, SortedMap.find?_erase,
      show name' ≠ name from hs]
  | emit u =>
    -- the waiter's channel is on no list but its project's
    have hlist : w.channel ∈ b.channelsOf u.project ↔ u.project = project :=
      ⟨fun h => hb.apart _ _ _ h hc, fun h => h ▸ hc⟩
    simp only [takenAt, emittedAt, perform, waiting, find?_waiters_emit (hb.nodup _), hw]
    by_cases h : u.project = project
    · simp [h, hc]
    · simp [h, hlist]
  | next name' =>
    by_cases h : name' = name
    · subst h
      cases htook : (b.next name').2 with
      | none =>
        have hrest := (next_eq_none_iff b name').1 htook
        have hsame : (b.next name').1.waiting name' = [] := by
          simp only [waiting, hw, Option.map_some, Option.getD_some] at hrest
          simp [waiting, find?_waiters_next, hw, hrest]
        simp [takenAt, emittedAt, perform, htook, hrest, hsame]
      | some v =>
        simp [takenAt, emittedAt, perform, htook, waiting_eq_cons_of_next htook]
    · simp [takenAt, emittedAt, perform, waiting, find?_waiters_next, h]

/-- A run delivers what it emits to whoever listens throughout it. -/
theorem taken_append_waiting (hb : Wired b) (hl : Listens b name project)
    (hafter : ∀ s ∈ after, ¬ s.Ends name) :
    b.taken name after ++ (b.run after).waiting name =
      b.waiting name ++ emittedFor project after := by
  induction after generalizing b with
  | nil => simp [taken, run, emittedFor]
  | cons s after ih =>
    have hs := hafter s List.mem_cons_self
    have hrest := ih (hb.perform s) (hl.perform hb hs) fun s' hs' =>
      hafter s' (List.mem_cons_of_mem _ hs')
    calc b.taken name (s :: after) ++ (b.run (s :: after)).waiting name
      _ = b.takenAt name s ++
          ((b.perform s).taken name after ++ ((b.perform s).run after).waiting name) := by
        rw [taken, List.append_assoc]
        rfl
      _ = b.takenAt name s ++ (b.perform s).waiting name ++ emittedFor project after := by
        rw [hrest, List.append_assoc]
      _ = b.waiting name ++ emittedFor project (s :: after) := by
        rw [takenAt_append_waiting hb hl hs, List.append_assoc]
        rfl

theorem emittedFor_append :
    emittedFor project (before ++ after) = emittedFor project before ++ emittedFor project after :=
  List.flatMap_append

theorem project_of_mem_emittedFor (hu : u ∈ emittedFor project after) :
    u.project = project ∧ .emit u ∈ after := by
  obtain ⟨s, hs, hu⟩ := List.mem_flatMap.1 hu
  cases s with
  | emit v =>
    by_cases h : v.project = project
    · rw [emittedAt, if_pos h, List.mem_singleton] at hu
      exact ⟨hu ▸ h, hu ▸ hs⟩
    · simp [emittedAt, h] at hu
  | subscribe _ _ => simp [emittedAt] at hu
  | drop _ => simp [emittedAt] at hu
  | next _ => simp [emittedAt] at hu

/-- What a waiter has got since it subscribed is what was emitted for its project. -/
theorem delivered_since (project : String) (hb : Wired b) (hafter : ∀ s ∈ after, ¬ s.Ends name) :
    (b.subscribe name project).taken name after ++
        ((b.subscribe name project).run after).waiting name =
      emittedFor project after := by
  have hnew : (b.subscribe name project).waiting name = [] := by
    simp [waiting, subscribe, SortedMap.find?_insert]
  have hgot := taken_append_waiting (hb.subscribe name project) listens_subscribe hafter
  rwa [hnew, List.nil_append] at hgot

/-- **Exactly once and in order.**  After any steps, a waiter subscribes to a project, and
is neither dropped nor replaced in the steps after that.  Then what it took in them, followed
by what it still holds, is what they emitted for its project: each update as often as it was
emitted, in that order, and none of another project.  Whoever subscribed to the project in
between, when no update of it had been emitted yet, got the same. -/
theorem delivers_in_order (before after : List Step) (name project : String)
    (hafter : ∀ s ∈ after, ¬ s.Ends name) :
    let b := empty.run (before ++ [.subscribe name project])
    let got := b.taken name after ++ (b.run after).waiting name
    got = emittedFor project after ∧
    (∀ u ∈ got, u.project = project ∧ .emit u ∈ after) ∧
    ∀ between name' later, after = between ++ .subscribe name' project :: later →
      emittedFor project between = [] → (∀ s ∈ later, ¬ s.Ends name') →
      let b' := b.run (between ++ [.subscribe name' project])
      b'.taken name' later ++ (b'.run later).waiting name' = got := by
  have hrun : ∀ (b : Broadcaster) (steps : List Step) (n p : String),
      b.run (steps ++ [.subscribe n p]) = (b.run steps).subscribe n p := fun b steps n p => by
    simp [run, perform]
  have hb : Wired (empty.run before) := wired_empty.run before
  have hgot := delivered_since project hb hafter
  simp only [hrun, hgot]
  refine ⟨trivial, fun u hu => project_of_mem_emittedFor hu, ?_⟩
  intro between name' later hsplit hnone hlater
  have hb' := (hb.subscribe name project).run between
  rw [delivered_since project hb' hlater, hsplit, emittedFor_append, hnone]
  rfl

/-- Waiters of two projects: `first` is there throughout, `second` joins before any update
and `gone` leaves before the first one. -/
def crowd : List Step := [
  .subscribe "gone" "a",
  .subscribe "second" "a",
  .drop "gone",
  .emit ⟨"a", 1, .published 1⟩,
  .emit ⟨"b", 1, .published 1⟩,
  .next "first",
  .subscribe "gone" "b",
  .emit ⟨"a", 2, .degraded 1 "missing"⟩,
  .next "second",
  .next "second",
  .next "second"]

/-- The first waiter took one update of its project and holds the other one, and the second one
took both. -/
theorem delivers_in_order_crowd :
    (∀ s ∈ crowd, ¬ s.Ends "first") ∧
    (let b := empty.run ([.subscribe "other" "b"] ++ [.subscribe "first" "a"])
    b.taken "first" crowd = [⟨"a", 1, .published 1⟩] ∧
    (b.run crowd).waiting "first" = [⟨"a", 2, .degraded 1 "missing"⟩] ∧
    b.taken "first" crowd ++ (b.run crowd).waiting "first" = emittedFor "a" crowd ∧
    (b.run (crowd.take 2)).taken "second" (crowd.drop 2) ++ (b.run crowd).waiting "second" =
      [⟨"a", 1, .published 1⟩, ⟨"a", 2, .degraded 1 "missing"⟩]) := by
  have hlive : ∀ s ∈ crowd, ¬ s.Ends "first" := by simp [crowd, Step.Ends]
  obtain ⟨hgot, -, hsame⟩ :=
    delivers_in_order [.subscribe "other" "b"] crowd "first" "a" hlive
  refine ⟨hlive, by decide +kernel, by decide +kernel, hgot, ?_⟩
  have hsecond := hsame [.subscribe "gone" "a"] "second" (crowd.drop 2) rfl rfl
    (by simp [crowd, Step.Ends])
  exact hsecond.trans hgot

/-- **An update takes the dropped waiters off the list of its project.**  Every channel that
is left there is the channel of a waiter. -/
theorem pruned (hb : Wired b) {c : Nat} (hc : c ∈ (b.emit u).channelsOf u.project) :
    ∃ name w, (b.emit u).waiters.find? name = some w ∧ w.channel = c := by
  rw [channelsOf_emit, if_pos rfl, List.mem_filter, hasReceiver_iff] at hc
  obtain ⟨-, name, w, hw, rfl⟩ := hc
  refine ⟨name, _, by rw [find?_waiters_emit (hb.nodup _), hw]; rfl, ?_⟩
  rw [apply_ite Waiter.channel, ite_self]

end Broadcaster
end LintWorkspace
