/-
# Scopes: what a reload has to do again

A scope names parts of a project: the ruleset, the analyzers, the sources, and
the definition, which stands for all of them.
-/

namespace LintWorkspace

/-- The parts of a project that a reload has to do again. -/
structure Scope where
  ruleset : Bool
  analyzers : Bool
  sources : Bool
  definition : Bool
deriving DecidableEq, Repr

namespace Scope

/-- Nothing. -/
def none : Scope := ⟨false, false, false, false⟩

/-- The ruleset alone. -/
def rulesetOnly : Scope := { none with ruleset := true }

/-- The analyzers alone. -/
def analyzersOnly : Scope := { none with analyzers := true }

/-- The sources alone. -/
def sourcesOnly : Scope := { none with sources := true }

/-- Everything, from the definition on. -/
def full : Scope := ⟨true, true, true, true⟩

/-- Whether there is nothing to do. -/
def isEmpty (s : Scope) : Bool := s = none

/-- The work of both scopes; with a definition that is everything. -/
def merge (s t : Scope) : Scope :=
  if s.definition || t.definition then full
  else ⟨s.ruleset || t.ruleset, s.analyzers || t.analyzers, s.sources || t.sources, false⟩

/-- Whether all the work of `t` is part of the work of `s`. -/
def covers (s t : Scope) : Bool :=
  (s.ruleset || !t.ruleset) && (s.analyzers || !t.analyzers) && (s.sources || !t.sources) &&
    (s.definition || !t.definition)

theorem merge_comm (s t : Scope) : s.merge t = t.merge s := by
  unfold merge
  simp only [Bool.or_comm]

/-- Merged work covers the work it was merged from. -/
theorem covers_merge_left (s t : Scope) : (s.merge t).covers s = true := by
  unfold merge covers
  split
  · simp [full]
  · rename_i h
    simp only [Bool.or_eq_true, not_or, Bool.not_eq_true] at h
    cases hr : s.ruleset <;> cases ha : s.analyzers <;> cases hs : s.sources <;> simp [h.1]

theorem covers_merge_right (s t : Scope) : (s.merge t).covers t = true := by
  rw [merge_comm]
  exact covers_merge_left t s

/-- A scope covers another exactly if it has all its parts. -/
theorem covers_iff {s t : Scope} :
    s.covers t = true ↔ (t.ruleset = true → s.ruleset = true) ∧
      (t.analyzers = true → s.analyzers = true) ∧ (t.sources = true → s.sources = true) ∧
      (t.definition = true → s.definition = true) := by
  unfold covers
  cases s.ruleset <;> cases s.analyzers <;> cases s.sources <;> cases s.definition <;>
    simp [and_assoc]

theorem covers_refl (s : Scope) : s.covers s = true := by
  rw [covers_iff]
  exact ⟨id, id, id, id⟩

theorem covers_trans {s t u : Scope} (h : s.covers t = true) (h' : t.covers u = true) :
    s.covers u = true := by
  rw [covers_iff] at *
  obtain ⟨hr, ha, hs, hd⟩ := h
  exact ⟨hr ∘ h'.1, ha ∘ h'.2.1, hs ∘ h'.2.2.1, hd ∘ h'.2.2.2⟩

/-- Merging more work in loses none. -/
theorem covers_foldl_merge {α : Type} (f : α → Scope) (l : List α) {s t : Scope}
    (h : s.covers t = true) : (l.foldl (fun s a => s.merge (f a)) s).covers t = true := by
  induction l generalizing s with
  | nil => exact h
  | cons a l ih => exact ih (covers_trans (covers_merge_left s (f a)) h)

theorem covers_foldl_merge_of_mem {α : Type} (f : α → Scope) {l : List α} {a : α} (ha : a ∈ l)
    (s : Scope) : (l.foldl (fun s a => s.merge (f a)) s).covers (f a) = true := by
  induction l generalizing s with
  | nil => simp at ha
  | cons b l ih =>
    rcases List.mem_cons.1 ha with rfl | ha
    · exact covers_foldl_merge f l (covers_merge_right s (f a))
    · exact ih ha (s.merge (f b))

/-- A scope that covers some work is some work. -/
theorem not_isEmpty_of_covers {s t : Scope} (h : s.covers t = true) (ht : t.isEmpty = false) :
    s.isEmpty = false := by
  rw [covers_iff] at h
  cases hs : s.isEmpty with
  | false => rfl
  | true =>
    have hnone : s = none := by simpa [isEmpty] using hs
    subst hnone
    obtain ⟨r, a, src, d⟩ := t
    simp_all [none, isEmpty]

/-- Merged work with a definition is everything. -/
theorem ruleset_merge_of_definition {s t : Scope} (h : (s.merge t).definition = true) :
    (s.merge t).ruleset = true := by
  unfold merge at h ⊢
  split
  · rfl
  · rename_i hd
    rw [if_neg hd] at h
    simp at h

end Scope
end LintWorkspace
