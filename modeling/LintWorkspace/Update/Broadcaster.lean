/-
# Handing out updates

Every waiter has a name and the receiving end of a channel of its own.  The sending
ends are listed by project: whoever subscribes to a project adds its channel to the
project's list, and an update is sent over every channel of the list of its project.
A sending end learns of a waiter that was dropped only by sending to it; the channel
is taken off the list then.

Sending over a list of different channels leaves the update last with every waiter at
one of them (`find?_sendAll`), and the channels without a waiter are gone
(`sendAll_fst`).  `next_eq_none_iff` and `waiting_eq_cons_of_next` say what a waiter
takes.
-/

import LintWorkspace.SortedMap
import LintWorkspace.Update.Basic

namespace LintWorkspace

/-- One who waits for updates: the channel it receives from, with what came over it and was
not taken yet. -/
structure Waiter where
  channel : Nat
  waiting : List Update
deriving DecidableEq

/-- The waiters, and where updates are sent. -/
structure Broadcaster where
  /-- for each project, the channels that its updates are sent over, the oldest first -/
  channels : SortedMap (List Nat)
  /-- the waiters, by their names -/
  waiters : SortedMap Waiter
  /-- the number of the next channel -/
  fresh : Nat
deriving DecidableEq

/-- The waiter after an update has been sent over a channel. -/
def Waiter.hear (u : Update) (c : Nat) (w : Waiter) : Waiter :=
  if w.channel = c then { w with waiting := w.waiting ++ [u] } else w

@[simp] theorem Waiter.channel_hear (u : Update) (c : Nat) (w : Waiter) :
    (w.hear u c).channel = w.channel := by
  unfold hear
  split <;> rfl

namespace Broadcaster

/-- Nobody waits. -/
def empty : Broadcaster := ⟨.empty, .empty, 0⟩

/-- What a waiter still holds. -/
def waiting (b : Broadcaster) (name : String) : List Update :=
  ((b.waiters.find? name).map Waiter.waiting).getD []

/-- The channels that the updates of a project are sent over. -/
def channelsOf (b : Broadcaster) (project : String) : List Nat :=
  (b.channels.find? project).getD []

/-- A new waiter, in place of an older one of its name. -/
def subscribe (b : Broadcaster) (name project : String) : Broadcaster where
  channels := b.channels.insert project (b.channelsOf project ++ [b.fresh])
  waiters := b.waiters.insert name ⟨b.fresh, []⟩
  fresh := b.fresh + 1

/-- Without a waiter.  Its channel stays on the list that it is on. -/
def drop (b : Broadcaster) (name : String) : Broadcaster :=
  { b with waiters := b.waiters.erase name }

/-- Whether a waiter receives from a channel. -/
def hasReceiver (waiters : SortedMap Waiter) (c : Nat) : Bool :=
  waiters.entries.any fun e => e.2.channel = c

/-- Sends an update over channels, one after the other, and keeps those over which it could
be sent. -/
def sendAll (u : Update) : List Nat → SortedMap Waiter → List Nat × SortedMap Waiter
  | [], waiters => ([], waiters)
  | c :: cs, waiters =>
    if hasReceiver waiters c then
      let (kept, waiters) := sendAll u cs (waiters.map (Waiter.hear u c))
      (c :: kept, waiters)
    else sendAll u cs waiters

/-- Announces an update to those who wait for its project. -/
def emit (b : Broadcaster) (u : Update) : Broadcaster :=
  match b.channels.find? u.project with
  | none => b
  | some cs =>
    let (kept, waiters) := sendAll u cs b.waiters
    { b with channels := b.channels.insert u.project kept, waiters }

/-- Takes the oldest update that a waiter holds, if there is one.  To wait for no time at all
is the same. -/
def next (b : Broadcaster) (name : String) : Broadcaster × Option Update :=
  match b.waiters.find? name with
  | some ⟨channel, u :: rest⟩ =>
    ({ b with waiters := b.waiters.insert name ⟨channel, rest⟩ }, some u)
  | _ => (b, none)

variable {b : Broadcaster} {name : String} {u : Update} {waiters : SortedMap Waiter}

theorem hasReceiver_iff {c : Nat} :
    hasReceiver waiters c = true ↔ ∃ name w, waiters.find? name = some w ∧ w.channel = c := by
  simp only [hasReceiver, List.any_eq_true, decide_eq_true_eq, Prod.exists,
    SortedMap.mem_entries_iff]

/-- A channel has its receiver whatever comes over it. -/
theorem hasReceiver_map_hear (u : Update) (c : Nat) :
    hasReceiver (waiters.map (Waiter.hear u c)) = hasReceiver waiters := by
  funext d
  simp [hasReceiver, SortedMap.map, List.any_map, Function.comp_def]

/-- The channels that an update was sent over are those with a receiver. -/
theorem sendAll_fst (u : Update) (cs : List Nat) (waiters : SortedMap Waiter) :
    (sendAll u cs waiters).1 = cs.filter (hasReceiver waiters) := by
  induction cs generalizing waiters with
  | nil => rfl
  | cons c cs ih =>
    rw [sendAll]
    by_cases hc : hasReceiver waiters c = true
    · simp [hc, ih, hasReceiver_map_hear]
    · simp [hc, ih]

/-- Over different channels every waiter at one of them hears the update once. -/
theorem find?_sendAll {cs : List Nat} (hcs : cs.Nodup) (waiters : SortedMap Waiter)
    (name : String) :
    (sendAll u cs waiters).2.find? name = (waiters.find? name).map fun w =>
      if w.channel ∈ cs then { w with waiting := w.waiting ++ [u] } else w := by
  induction cs generalizing waiters with
  | nil => simp [sendAll]
  | cons c cs ih =>
    obtain ⟨hc, hcs⟩ := List.nodup_cons.1 hcs
    rw [sendAll]
    split
    · simp only [ih hcs, SortedMap.find?_map, Option.map_map]
      refine congrFun (congrArg Option.map (funext fun w => ?_)) _
      by_cases hw : w.channel = c
      · simp [Waiter.hear, hw, hc]
      · simp [Waiter.hear, hw]
    · rename_i hno
      rw [ih hcs]
      refine Option.map_congr fun w hw => ?_
      -- nobody receives from the first channel
      have hne : w.channel ≠ c := fun h => hno (hasReceiver_iff.2 ⟨name, w, hw, h⟩)
      simp [hne]

theorem next_eq_none_iff (b : Broadcaster) (name : String) :
    (b.next name).2 = none ↔ b.waiting name = [] := by
  unfold next waiting
  cases b.waiters.find? name with
  | none => simp
  | some w =>
    obtain ⟨channel, held⟩ := w
    cases held <;> simp

/-- What is taken was the oldest, and the others stay. -/
theorem waiting_eq_cons_of_next (h : (b.next name).2 = some u) :
    b.waiting name = u :: (b.next name).1.waiting name := by
  unfold next waiting at *
  cases hw : b.waiters.find? name with
  | none => simp [hw] at h
  | some w =>
    obtain ⟨channel, held⟩ := w
    cases held with
    | nil => simp [hw] at h
    | cons v rest =>
      simp only [hw, Option.some.injEq] at h
      simp [h, SortedMap.find?_insert]

end Broadcaster
end LintWorkspace
