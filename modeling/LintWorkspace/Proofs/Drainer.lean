/-
# One drainer, and no work lost

Any number of callers share the queue of a project.  What they do to it comes in steps
that nothing falls into, in any order: a caller takes work into the queue, or a caller
that drains it asks for the next work.  `Shared` is every order that such steps can come
in, with the queue that they lead to.

| after every order of steps | |
| --- | --- |
| the pending work | is merged from the work taken in since the last work was handed out |
| the queue is worked on | exactly while a caller drains it, and never by two |
| the queue is not worked on | nothing is pending |

So nothing is stranded between a drainer that finds the queue empty and the next
caller: that caller drains (`hands_out_everything`).
-/

import LintWorkspace.Workspace.Queue
import Mathlib.Data.List.Induction

namespace LintWorkspace
namespace Queue

/-- What one step of a caller was, with the answer it got. -/
inductive Event (κ : Type) where
  /-- the caller took work into the queue and was told whether to drain it -/
  | enqueued (caller : κ) (scope : Scope) (drains : Bool)
  /-- the caller asked for the next work and got it, if there was any -/
  | asked (caller : κ) (got : Option Scope)
deriving DecidableEq

variable {κ : Type}

/-- A caller drains the queue: it was told to, and has not been told since that nothing is
left. -/
def Drains (h : List (Event κ)) (c : κ) : Prop :=
  ∃ before s after, h = before ++ .enqueued c s true :: after ∧ .asked c none ∉ after

/-- The events of callers that share a queue, in any order, and the queue after them.
Whoever asks for work drains the queue. -/
inductive Shared : List (Event κ) → Queue → Prop
  | start : Shared [] .empty
  | enqueue {h q} (c : κ) (s : Scope) (hq : Shared h q) :
    Shared (h ++ [.enqueued c s (q.enqueue s).2]) (q.enqueue s).1
  | next {h q} (c : κ) (hq : Shared h q) (hc : Drains h c) :
    Shared (h ++ [.asked c q.next.2]) q.next.1

variable {h before between after : List (Event κ)} {q : Queue} {c c' : κ} {s e : Scope}
  {b : Bool} {got : Option Scope} {ss : List Scope}

/-- The work taken into the queue. -/
def takenIn (h : List (Event κ)) : List Scope :=
  h.filterMap fun
    | .enqueued _ s _ => some s
    | .asked _ _ => none

/-- The work handed out. -/
def handedOut (h : List (Event κ)) : List Scope :=
  h.filterMap fun
    | .enqueued _ _ _ => none
    | .asked _ got => got

/-- The work that waits after one more event. -/
def Event.waiting (ss : List Scope) : Event κ → List Scope
  | .enqueued _ s _ => ss ++ [s]
  | .asked _ none => ss
  | .asked _ (some _) => []

/-- The work taken in since work was handed out last. -/
def waiting (h : List (Event κ)) : List Scope := h.foldl Event.waiting []

/-- Work merged in order; there is none without any. -/
def merged? : List Scope → Option Scope
  | [] => none
  | s :: ss => some (ss.foldl Scope.merge s)

/-! ### Merged work -/

theorem merged?_concat (ss : List Scope) (s : Scope) :
    merged? (ss ++ [s]) = some ((merged? ss).elim s fun p => p.merge s) := by
  cases ss with
  | nil => rfl
  | cons t ts => simp [merged?]

theorem merged?_eq_none : merged? ss = none ↔ ss = [] := by
  cases ss <;> simp [merged?]

/-- Merged work covers what it was merged from. -/
theorem covers_of_merged? (he : merged? ss = some e) (hs : s ∈ ss) : e.covers s = true := by
  cases ss with
  | nil => simp at hs
  | cons t ts =>
    obtain rfl := Option.some.inj he
    rcases List.mem_cons.1 hs with rfl | hs
    · exact Scope.covers_foldl_merge id ts (Scope.covers_refl s)
    · exact Scope.covers_foldl_merge_of_mem id hs t

/-! ### Events one by one -/

/-- An event stands before the last one, or is the last one. -/
theorem eq_concat_cases {x y : Event κ} (heq : h ++ [x] = before ++ y :: after) :
    after = [] ∧ h = before ∧ x = y ∨ ∃ rest, after = rest ++ [x] ∧ h = before ++ y :: rest := by
  rcases List.eq_nil_or_concat after with rfl | ⟨rest, z, rfl⟩
  · obtain ⟨hh, hx⟩ := List.append_inj' heq rfl
    exact Or.inl ⟨rfl, hh, (List.cons.inj hx).1⟩
  · rw [List.concat_eq_append, ← List.cons_append, ← List.append_assoc] at heq
    obtain ⟨hh, hx⟩ := List.append_inj' heq rfl
    rw [(List.cons.inj hx).1, List.concat_eq_append]
    exact Or.inr ⟨rest, rfl, hh⟩

theorem waiting_concat (h : List (Event κ)) (x : Event κ) :
    waiting (h ++ [x]) = x.waiting (waiting h) := by
  simp [waiting]

/-- Work waits until work is handed out. -/
theorem mem_waiting (hquiet : ∀ c e, .asked c (some e) ∉ between) :
    s ∈ waiting (before ++ .enqueued c s b :: between) := by
  induction between using List.reverseRecOn with
  | nil => simp [waiting_concat, Event.waiting]
  | append_singleton between x ih =>
    have hx : ∀ c e, x ≠ .asked c (some e) := fun c e hx => hquiet c e (by simp [hx])
    have hin := ih fun c e hmem => hquiet c e (List.mem_append_left _ hmem)
    rw [show before ++ .enqueued c s b :: (between ++ [x]) =
      (before ++ .enqueued c s b :: between) ++ [x] by simp, waiting_concat]
    cases x with
    | enqueued c' t b' => exact List.mem_append_left _ hin
    | asked c' got =>
      cases got with
      | none => exact hin
      | some e => exact absurd rfl (hx c' e)

theorem drains_enqueued :
    Drains (h ++ [.enqueued c' s b]) c ↔ Drains h c ∨ b = true ∧ c' = c := by
  constructor
  · rintro ⟨before, t, after, heq, hafter⟩
    rcases eq_concat_cases heq with ⟨rfl, rfl, hlast⟩ | ⟨rest, rfl, rfl⟩
    · simp only [Event.enqueued.injEq] at hlast
      exact Or.inr ⟨hlast.2.2, hlast.1⟩
    · exact Or.inl ⟨before, t, rest, rfl, fun hmem => hafter (List.mem_append_left _ hmem)⟩
  · rintro (⟨before, t, after, rfl, hafter⟩ | ⟨rfl, rfl⟩)
    · exact ⟨before, t, after ++ [.enqueued c' s b], by simp, by simpa using hafter⟩
    · exact ⟨h, s, [], rfl, by simp⟩

theorem drains_asked :
    Drains (h ++ [.asked c' got]) c ↔ Drains h c ∧ ¬ (got = none ∧ c' = c) := by
  constructor
  · rintro ⟨before, t, after, heq, hafter⟩
    rcases eq_concat_cases heq with ⟨-, -, hlast⟩ | ⟨rest, rfl, rfl⟩
    · simp at hlast
    · refine ⟨⟨before, t, rest, rfl, fun hmem => hafter (List.mem_append_left _ hmem)⟩, ?_⟩
      rintro ⟨rfl, rfl⟩
      exact hafter (List.mem_append_right _ (List.mem_singleton.2 rfl))
  · rintro ⟨⟨before, t, after, rfl, hafter⟩, hnot⟩
    refine ⟨before, t, after ++ [.asked c' got], by simp, ?_⟩
    simp only [List.mem_append, List.mem_singleton, Event.asked.injEq, not_or]
    exact ⟨hafter, fun ⟨hc, hgot⟩ => hnot ⟨hgot.symm, hc.symm⟩⟩

/-! ### What every step keeps -/

/-- How a queue fits what happened to it. -/
structure Accounts (h : List (Event κ)) (q : Queue) : Prop where
  pending : q.pending = merged? (waiting h)
  running : q.running = true ↔ ∃ c, Drains h c
  unique : ∀ c c', Drains h c → Drains h c' → c = c'
  idle : q.running = false → waiting h = []
  /-- the work taken in falls into the work handed out, group by group, and what waits -/
  groups : ∃ groups : List (List Scope),
    groups.flatten ++ waiting h = takenIn h ∧ groups.map merged? = (handedOut h).map some

theorem Accounts.start : Accounts ([] : List (Event κ)) .empty where
  pending := rfl
  running := by simp [Drains, empty]
  unique := by simp [Drains]
  idle _ := rfl
  groups := ⟨[], rfl, rfl⟩

/-- Work that is taken in waits behind the rest.  Who finds nobody at work drains. -/
theorem Accounts.enqueue (ha : Accounts h q) (c : κ) (s : Scope) :
    Accounts (h ++ [.enqueued c s (q.enqueue s).2]) (q.enqueue s).1 where
  pending := by
    rw [waiting_concat, Event.waiting, merged?_concat, ← ha.pending]
    cases hp : q.pending <;> simp [Queue.enqueue, hp]
  running := by
    have hdrain : ∃ c', Drains (h ++ [.enqueued c s (q.enqueue s).2]) c' := by
      by_cases hrun : q.running = true
      · obtain ⟨c', hc'⟩ := ha.running.1 hrun
        exact ⟨c', drains_enqueued.2 (Or.inl hc')⟩
      · exact ⟨c, drains_enqueued.2 (Or.inr ⟨by simpa [Queue.enqueue] using hrun, rfl⟩)⟩
    exact ⟨fun _ => hdrain, fun _ => rfl⟩
  unique := by
    -- a caller is told to drain only while nobody does
    have hnone : (q.enqueue s).2 = true → ∀ c', ¬ Drains h c' := by
      intro htold c' hc'
      have hrun := ha.running.2 ⟨c', hc'⟩
      simp [Queue.enqueue, hrun] at htold
    intro c₁ c₂ h₁ h₂
    rcases drains_enqueued.1 h₁ with h₁ | ⟨htold, rfl⟩ <;>
      rcases drains_enqueued.1 h₂ with h₂ | ⟨htold', h₂⟩
    · exact ha.unique c₁ c₂ h₁ h₂
    · exact absurd h₁ (hnone htold' c₁)
    · exact absurd h₂ (hnone htold c₂)
    · exact h₂
  idle := by simp [Queue.enqueue]
  groups := by
    obtain ⟨groups, hin, hout⟩ := ha.groups
    refine ⟨groups, ?_, ?_⟩
    · rw [waiting_concat, Event.waiting, ← List.append_assoc, hin]
      simp [takenIn]
    · simpa [handedOut] using hout

/-- A drainer gets all the work that waits, or stops draining when there is none. -/
theorem Accounts.next (ha : Accounts h q) (hc : Drains h c) :
    Accounts (h ++ [.asked c q.next.2]) q.next.1 := by
  obtain ⟨groups, hin, hout⟩ := ha.groups
  have hpending := ha.pending
  cases hp : q.pending with
  | none =>
    have hwait : waiting h = [] := merged?_eq_none.1 (by rw [← hpending, hp])
    have hstopped : ∀ c', ¬ Drains (h ++ [.asked c none]) c' := by
      intro c' hc'
      obtain ⟨hold, hnot⟩ := drains_asked.1 hc'
      exact hnot ⟨rfl, ha.unique c c' hc hold⟩
    simp only [Queue.next, hp]
    exact {
      pending := by simp [waiting_concat, Event.waiting, hwait, merged?]
      running := by simpa using hstopped
      unique := fun c₁ _ h₁ => absurd h₁ (hstopped c₁)
      idle := fun _ => by simp [waiting_concat, Event.waiting, hwait]
      groups := ⟨groups, by simpa [waiting_concat, Event.waiting, takenIn] using hin,
        by simpa [handedOut] using hout⟩ }
  | some e =>
    have hsame : ∀ c', Drains (h ++ [.asked c (some e)]) c' ↔ Drains h c' := by
      intro c'
      simp [drains_asked]
    simp only [Queue.next, hp]
    exact {
      pending := by simp [waiting_concat, Event.waiting, merged?]
      running := by simpa only [hsame] using ha.running
      unique := by simpa only [hsame] using ha.unique
      idle := fun _ => by simp [waiting_concat, Event.waiting]
      groups := by
        refine ⟨groups ++ [waiting h], ?_, ?_⟩
        · simpa [waiting_concat, Event.waiting, takenIn] using hin
        · simp only [List.map_append, List.map_cons, List.map_nil, hout, ← hpending, hp]
          simp [handedOut] }

/-- What happened to a queue accounts for it, in whatever order it happened. -/
theorem Shared.accounts (hq : Shared h q) : Accounts h q := by
  induction hq with
  | start => exact .start
  | enqueue c s _ ih => exact ih.enqueue c s
  | next c _ hc ih => exact ih.next hc

/-- What came before work was handed out led to a queue with that work pending. -/
theorem Shared.exists_pending (hq : Shared (before ++ .asked c (some e) :: after) q) :
    ∃ q', Shared before q' ∧ q'.pending = some e := by
  generalize hh : before ++ .asked c (some e) :: after = h at hq
  induction hq generalizing after with
  | start => simp at hh
  | enqueue c' s hq ih =>
    rcases eq_concat_cases hh.symm with ⟨-, -, hlast⟩ | ⟨rest, -, hrest⟩
    · simp at hlast
    · exact ih hrest.symm
  | @next h q c' hq hc ih =>
    rcases eq_concat_cases hh.symm with ⟨-, rfl, hlast⟩ | ⟨rest, -, hrest⟩
    · simp only [Event.asked.injEq] at hlast
      refine ⟨q, hq, ?_⟩
      cases hp : q.pending with
      | none => simp [Queue.next, hp] at hlast
      | some e' => simpa [Queue.next, hp] using hlast.2
    · exact ih hrest.symm

/-- **A shared queue has one drainer and hands out everything.**  In whatever order callers
take work in and drain: never two of them drain; the first work that is handed out after
some work was taken in covers it; what is handed out is merged, in order, from what was
taken in since the last time, so that the work taken in falls into groups, one for each
time that work was handed out, and what still waits; and while nobody drains, nothing is
pending, and whoever takes work in next drains. -/
theorem hands_out_everything (hq : Shared h q) :
    (∀ c c', Drains h c → Drains h c' → c = c') ∧
    (∀ before c s b between c' e after,
      h = before ++ .enqueued c s b :: between ++ .asked c' (some e) :: after →
      (∀ d f, .asked d (some f) ∉ between) → e.covers s = true) ∧
    (∀ before c e after, h = before ++ .asked c (some e) :: after →
      some e = merged? (waiting before)) ∧
    (∃ groups : List (List Scope), groups.flatten ++ waiting h = takenIn h ∧
      groups.map merged? = (handedOut h).map some) ∧
    (handedOut h).length ≤ (takenIn h).length ∧
    ((∀ c, ¬ Drains h c) → q = .empty ∧ ∀ s, (q.enqueue s).2 = true) := by
  have ha := hq.accounts
  have hmerged : ∀ before c e after, h = before ++ .asked c (some e) :: after →
      some e = merged? (waiting before) := by
    rintro before c e after rfl
    obtain ⟨q', hq', hpending⟩ := hq.exists_pending
    rw [← hpending, hq'.accounts.pending]
  refine ⟨ha.unique, ?_, hmerged, ha.groups, ?_, ?_⟩
  · intro before c s b between c' e after hh hquiet
    exact covers_of_merged? (hmerged _ c' e after hh).symm (mem_waiting hquiet)
  · obtain ⟨groups, hin, hout⟩ := ha.groups
    have hlength : groups.length = (handedOut h).length := by
      simpa using congrArg List.length hout
    have hne : ∀ g ∈ groups, 1 ≤ g.length := by
      intro g hg
      have hsome : merged? g ∈ (handedOut h).map some := hout ▸ List.mem_map_of_mem hg
      cases g with
      | nil => simp [merged?] at hsome
      | cons s ss => simp
    have hflat : groups.length ≤ groups.flatten.length := by
      clear hin hout hlength
      induction groups with
      | nil => simp
      | cons g groups ih =>
        have hg := hne g List.mem_cons_self
        have hrest := ih fun g' hg' => hne g' (List.mem_cons_of_mem _ hg')
        simp only [List.length_cons, List.flatten_cons, List.length_append]
        omega
    rw [← hin, List.length_append]
    omega
  · intro hnobody
    have hstill : q.running = false := by
      cases hrun : q.running with
      | false => rfl
      | true =>
        obtain ⟨c, hc⟩ := ha.running.1 hrun
        exact absurd hc (hnobody c)
    have hpending : q.pending = none := by rw [ha.pending, ha.idle hstill]; rfl
    refine ⟨?_, fun s => by simp [Queue.enqueue, hstill]⟩
    obtain ⟨pending, running⟩ := q
    simp only at hpending hstill
    rw [hpending, hstill, empty]

/-- One caller drains, and another one takes work in, before and while it is worked on. -/
def relay : List (Event Bool) := [
  .enqueued false .rulesetOnly true,
  .enqueued true .sourcesOnly false,
  .asked false (some (Scope.rulesetOnly.merge .sourcesOnly)),
  .enqueued true .analyzersOnly false,
  .asked false (some .analyzersOnly),
  .asked false none]

theorem shared_relay : Shared relay .empty := by
  have hdrains : ∀ after : List (Event Bool), .asked false none ∉ after →
      Drains (.enqueued false .rulesetOnly true :: after) false :=
    fun after hafter => ⟨[], _, after, rfl, hafter⟩
  have hfirst := (Shared.start.enqueue false .rulesetOnly).enqueue true .sourcesOnly
  have hmerged := (hfirst.next false (hdrains _ (by decide))).enqueue true .analyzersOnly
  exact (hmerged.next false (hdrains _ (by decide))).next false (hdrains _ (by decide))

/-- The relay hands out the first two pieces of work together and the third by itself; then
nobody drains, and nothing is left. -/
theorem hands_out_everything_relay :
    Shared relay .empty ∧ (∀ c c', Drains relay c → Drains relay c' → c = c') ∧
    handedOut relay = [Scope.rulesetOnly.merge .sourcesOnly, .analyzersOnly] ∧
    (∃ groups : List (List Scope), groups.flatten ++ waiting relay = takenIn relay ∧
      groups.map merged? = (handedOut relay).map some) ∧
    ∀ s, (Queue.empty.enqueue s).2 = true := by
  obtain ⟨hunique, -, -, hgroups, -, hidle⟩ := hands_out_everything shared_relay
  have hnobody : ∀ c, ¬ Drains relay c := by
    intro c hc
    simpa [empty] using shared_relay.accounts.running.2 ⟨c, hc⟩
  exact ⟨shared_relay, hunique, rfl, hgroups, (hidle hnobody).2⟩

end Queue
end LintWorkspace
