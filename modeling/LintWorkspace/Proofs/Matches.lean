/-
# The matches of a regular expression, one behind the other

A search moves threads over a text.  Whatever the program is, no thread starts anywhere but
at a place the search came by, so a match that is found lies between the place where the
search began and the end of the text (`find_within`).

The matches in a text are found by one search after another: each begins where the last match
ended, and where it finds nothing but that same end once more, one character further
(`Matches`).  `findAll` gives all of them (`matches_findAll`): its bound is never reached.
They stand in the order of the text and none overlaps another (`Matches.apart`).
-/

import LintWorkspace.Regex.Search

namespace LintWorkspace
namespace Regex

variable {p : Program} {code : Code} {cs : List Char} {m : Span} {before after : Option Char}

/-! ### Where threads start -/

/-- A start that one of some threads has. -/
def Starts (threads : List Thread) (start : Nat) : Prop := ∃ t ∈ threads, t.start = start

theorem starts_of_follow (start n : Nat) (stack : List Nat) (front : Front) {t : Thread}
    (ht : t ∈ (follow code before after start n stack front).threads) :
    t.start = start ∨ t ∈ front.threads := by
  induction n generalizing stack front with
  | zero => exact Or.inr ht
  | succ n ih =>
    cases stack with
    | nil => exact Or.inr ht
    | cons place stack =>
      rw [follow] at ht
      split at ht
      · exact ih _ _ ht
      · split at ht
        · exact ih _ { front with seen := front.seen.setIfInBounds place true } ht
        · exact ih _ { front with seen := front.seen.setIfInBounds place true } ht
        · rcases ih _ _ ht with h | h
          · exact Or.inl h
          · rcases List.mem_cons.1 h with rfl | h
            · exact Or.inl rfl
            · exact Or.inr h

/-- Threads that are reached from others start where those do. -/
theorem starts_of_reach {threads : List Thread} {t : Thread}
    (ht : t ∈ reach code before after threads) : Starts threads t.start := by
  have hfold (bound : Nat) : ∀ (ts : List Thread) (front : Front),
      t ∈ (ts.foldl (fun front t => follow code before after t.start bound [t.place] front)
        front).threads → Starts ts t.start ∨ t ∈ front.threads := by
    intro ts
    induction ts with
    | nil => exact fun _ h => Or.inr h
    | cons u ts ih =>
      intro front h
      rcases ih _ h with ⟨v, hv, hs⟩ | h
      · exact Or.inl ⟨v, List.mem_cons_of_mem _ hv, hs⟩
      · rcases starts_of_follow _ _ _ _ h with h | h
        · exact Or.inl ⟨u, List.mem_cons_self, h.symm⟩
        · exact Or.inr h
  rw [reach, List.mem_reverse] at ht
  exact (hfold _ threads _ ht).resolve_right List.not_mem_nil

theorem starts_of_cut {threads : List Thread} :
    (∀ t ∈ (cut code threads).1, Starts threads t.start) ∧
      ∀ start, (cut code threads).2 = some start → Starts threads start := by
  induction threads with
  | nil => simp [cut]
  | cons u ts ih =>
    have hcons {start : Nat} (h : Starts ts start) : Starts (u :: ts) start :=
      let ⟨v, hv, hs⟩ := h
      ⟨v, List.mem_cons_of_mem _ hv, hs⟩
    rw [cut]
    split
    · exact ⟨by simp, fun start h => ⟨u, List.mem_cons_self, Option.some.inj h⟩⟩
    · refine ⟨fun t ht => ?_, fun start h => hcons (ih.2 start h)⟩
      rcases List.mem_cons.1 ht with rfl | ht
      · exact ⟨t, List.mem_cons_self, rfl⟩
      · exact hcons (ih.1 t ht)

theorem starts_of_move {c : Char} {threads : List Thread} {t : Thread}
    (ht : t ∈ move code c threads) : Starts threads t.start := by
  obtain ⟨u, hu, h⟩ := List.mem_filterMap.1 ht
  split at h
  · split at h
    · cases h
      exact ⟨u, hu, rfl⟩
    · simp at h
  · simp at h

/-! ### One search -/

/-- A span between two places. -/
structure Span.Within (m : Span) (start stop : Nat) : Prop where
  start_le : start ≤ m.start
  start_le_stop : m.start ≤ m.stop
  stop_le : m.stop ≤ stop

/-- What a search holds at a place keeps between where it began and that place. -/
theorem best_within {threads kept : List Thread} {best : Option Span} {hit : Option Nat}
    {start place : Nat} (hplace : start ≤ place)
    (hthreads : ∀ t ∈ threads, start ≤ t.start ∧ t.start ≤ place)
    (hbest : ∀ b, best = some b → b.Within start place)
    (hcut : cut p.code (reach p.code before after
      (if best.isNone then threads ++ [⟨p.start, place⟩] else threads)) = (kept, hit)) :
    (∀ b, (hit.map fun s => (⟨s, place⟩ : Span)).or best = some b → b.Within start place) ∧
      ∀ t ∈ kept, start ≤ t.start ∧ t.start ≤ place := by
  have hnew : ∀ s, Starts (reach p.code before after
      (if best.isNone then threads ++ [⟨p.start, place⟩] else threads)) s →
      start ≤ s ∧ s ≤ place := by
    rintro s ⟨t, ht, rfl⟩
    obtain ⟨u, hu, hs⟩ := starts_of_reach ht
    rw [← hs]
    split at hu
    · rcases List.mem_append.1 hu with hu | hu
      · exact hthreads u hu
      · rw [List.mem_singleton.1 hu]
        exact ⟨hplace, Nat.le_refl _⟩
    · exact hthreads u hu
  obtain ⟨hkept, hhit⟩ := @starts_of_cut p.code (reach p.code before after
    (if best.isNone then threads ++ [⟨p.start, place⟩] else threads))
  rw [hcut] at hkept hhit
  refine ⟨fun b hb => ?_, fun t ht => hnew _ (hkept t ht)⟩
  cases hit with
  | none => exact hbest b hb
  | some s =>
    cases hb
    exact ⟨(hnew s (hhit s rfl)).1, (hnew s (hhit s rfl)).2, Nat.le_refl _⟩

/-- What a search holds at a place: the threads it goes on with, those that come after the
preferred match dropped, and the best match so far. -/
theorem search_eq (p : Program) (before : Option Char) (threads : List Thread)
    (best : Option Span) (place : Nat) (cs : List Char) :
    ∃ (kept : List Thread) (hit : Option Nat),
      cut p.code (reach p.code before cs.head?
        (if best.isNone then threads ++ [⟨p.start, place⟩] else threads)) = (kept, hit) ∧
      search p before threads best place cs =
        let best := (hit.map fun start => ⟨start, place⟩).or best
        match cs with
        | [] => best
        | c :: cs =>
          if kept.isEmpty && best.isSome then best
          else search p (some c) (move p.code c kept) best (place + 1) cs := by
  rcases hcut : cut p.code (reach p.code before cs.head?
    (if best.isNone then threads ++ [⟨p.start, place⟩] else threads)) with ⟨kept, hit⟩
  refine ⟨kept, hit, hcut, ?_⟩
  rw [search, hcut]
  cases hit <;> rfl

/-- A search finds a match between where it began and the end of the text. -/
theorem search_within {threads : List Thread} {best : Option Span} {start place : Nat}
    (hplace : start ≤ place) (hthreads : ∀ t ∈ threads, start ≤ t.start ∧ t.start ≤ place)
    (hbest : ∀ b, best = some b → b.Within start place)
    (h : search p before threads best place cs = some m) :
    m.Within start (place + cs.length) := by
  induction cs generalizing before threads best place with
  | nil =>
    obtain ⟨kept, hit, hcut, heq⟩ := search_eq p before threads best place []
    rw [heq] at h
    exact (best_within hplace hthreads hbest hcut).1 m h
  | cons c cs ih =>
    obtain ⟨kept, hit, hcut, heq⟩ := search_eq p before threads best place (c :: cs)
    obtain ⟨hbest', hkept⟩ := best_within hplace hthreads hbest hcut
    rw [heq] at h
    dsimp only at h
    split at h
    · obtain ⟨h₁, h₂, h₃⟩ := hbest' m h
      exact ⟨h₁, h₂, by omega⟩
    · obtain ⟨h₁, h₂, h₃⟩ := ih (by omega)
        (fun t ht => by
          obtain ⟨u, hu, hs⟩ := starts_of_move ht
          have := hkept u hu
          omega)
        (fun b hb => by
          obtain ⟨h₁, h₂, h₃⟩ := hbest' b hb
          exact ⟨h₁, h₂, by omega⟩) h
      exact ⟨h₁, h₂, by rw [List.length_cons]; omega⟩

/-- The leftmost match in a text lies between where the search began and the end of the text. -/
theorem find_within {place : Nat} (h : find p before place cs = some m) :
    m.Within place (place + cs.length) :=
  search_within (Nat.le_refl _) (by simp) (by simp) h

/-! ### One search after another -/

/-- The character before a place of a text. -/
def charAt (cs : List Char) (place : Nat) : Option Char := if place = 0 then none else cs[place - 1]?


/-- The matches in a text from a place on, one behind the other; `last` is where the last match
ended.  A match without characters at that end does not count. -/
inductive Matches (p : Program) (cs : List Char) : Option Nat → Nat → List Span → Prop
  | none {last : Option Nat} {place : Nat}
      (hfind : find p (charAt cs place) place (cs.drop place) = none) : Matches p cs last place []
  | stop {last : Option Nat} {place : Nat} {m : Span}
      (hfind : find p (charAt cs place) place (cs.drop place) = some m)
      (hempty : m.start = m.stop ∧ last = some m.stop) (hend : cs.length ≤ place) :
      Matches p cs last place []
  | skip {last : Option Nat} {place : Nat} {m : Span} {ms : List Span}
      (hfind : find p (charAt cs place) place (cs.drop place) = some m)
      (hempty : m.start = m.stop ∧ last = some m.stop) (hend : place < cs.length)
      (hrest : Matches p cs .none (place + 1) ms) : Matches p cs last place ms
  | hit {last : Option Nat} {place : Nat} {m : Span} {ms : List Span}
      (hfind : find p (charAt cs place) place (cs.drop place) = some m)
      (hnew : ¬(m.start = m.stop ∧ last = some m.stop))
      (hrest : Matches p cs (some m.stop) m.stop ms) : Matches p cs last place (m :: ms)

theorem find_within_text {place : Nat} (hplace : place ≤ cs.length)
    (h : find p before place (cs.drop place) = some m) : m.Within place cs.length := by
  have hm := find_within h
  rwa [List.length_drop, Nat.add_sub_cancel' hplace] at hm

/-- Matches lie in the text, in order, and none begins before the one before it ends. -/
theorem Matches.apart {last : Option Nat} {place : Nat} {ms : List Span}
    (h : Matches p cs last place ms) (hplace : place ≤ cs.length) :
    (∀ m ∈ ms, m.Within place cs.length) ∧ ms.Pairwise fun a b => a.stop ≤ b.start := by
  induction h with
  | none | stop => simp
  | @skip last place m ms hfind hempty hend hrest ih =>
    obtain ⟨hin, hpair⟩ := ih hend
    exact ⟨fun m hm => { hin m hm with start_le := Nat.le_of_succ_le (hin m hm).start_le }, hpair⟩
  | @hit last place m ms hfind hnew hrest ih =>
    have hm := find_within_text hplace hfind
    obtain ⟨hin, hpair⟩ := ih hm.stop_le
    refine ⟨fun k hk => ?_, List.pairwise_cons.2 ⟨fun k hk => (hin k hk).start_le, hpair⟩⟩
    rcases List.mem_cons.1 hk with rfl | hk
    · exact hm
    · have := hm.start_le
      have := hm.start_le_stop
      exact { hin k hk with start_le := by have := (hin k hk).start_le; omega }

theorem charBefore_drop {place target : Nat} (h : place ≤ target) :
    charBefore (charAt cs place) place (cs.drop place) target = charAt cs target := by
  rw [charBefore]
  split
  · rw [show target = place by omega]
  · rw [charAt, if_neg (by omega), List.getElem?_drop]
    congr 1
    omega

/-- From every place of a text all matches are found: each step leaves less of the text, or
ends a match that it then may not find again. -/
theorem matches_findAllFrom (n : Nat) {last : Option Nat} {place : Nat}
    (hplace : place ≤ cs.length) (hlast : last = none ∨ last = some place)
    (hn : 2 * (cs.length - place) + (if last = none then 1 else 0) < n) :
    Matches p cs last place (findAllFrom p n last (charAt cs place) place (cs.drop place)) := by
  induction n generalizing last place with
  | zero => omega
  | succ n ih =>
    rw [findAllFrom.eq_def]
    dsimp only
    cases hfind : find p (charAt cs place) place (cs.drop place) with
    | none => exact .none hfind
    | some m =>
      have hm := find_within_text hplace hfind
      dsimp only
      by_cases hempty : m.start = m.stop ∧ last = some m.stop
      · rw [if_pos (by simpa using hempty)]
        rcases Nat.lt_or_ge place cs.length with hlt | hge
        · rw [List.drop_eq_getElem_cons hlt]
          refine .skip hfind hempty hlt ?_
          have hnext := @ih none (place + 1) hlt (Or.inl rfl) (by
            simp only [hempty.2, reduceCtorEq, if_true, if_false] at hn ⊢
            omega)
          rwa [show charAt cs (place + 1) = some cs[place] by
            rw [charAt, if_neg (by omega), Nat.add_sub_cancel, List.getElem?_eq_getElem hlt]]
            at hnext
        · rw [List.drop_eq_nil_of_le hge]
          exact .stop hfind hempty hge
      · rw [if_neg (by simpa using hempty), charBefore_drop
          (Nat.le_trans hm.start_le hm.start_le_stop), List.drop_drop,
          Nat.add_sub_cancel' (Nat.le_trans hm.start_le hm.start_le_stop)]
        refine .hit hfind hempty (ih hm.stop_le (Or.inr rfl) ?_)
        have h₁ := hm.start_le
        have h₂ := hm.start_le_stop
        have h₃ := hm.stop_le
        rw [if_neg (by simp)]
        -- a match that ends where the search began is empty, so no match ended there before
        rcases Nat.lt_or_ge place m.stop with hlt | hge
        · split at hn <;> omega
        · have hend : m.stop = place := by omega
          have hnone : last = none :=
            hlast.resolve_right fun h => hempty ⟨by omega, by rw [h, hend]⟩
          rw [if_pos hnone] at hn
          omega

/-- **All matches in a text are found,** one behind the other. -/
theorem matches_findAll (p : Program) (cs : List Char) : Matches p cs none 0 (findAll p cs) := by
  have h := @matches_findAllFrom p cs (2 * cs.length + 2) none 0 (Nat.zero_le _)
    (Or.inl rfl) (by simp)
  rwa [charAt, if_pos rfl, List.drop_zero] at h

end Regex
end LintWorkspace
