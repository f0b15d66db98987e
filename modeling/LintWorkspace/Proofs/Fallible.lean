/-
# Steps that can fail

A step that can fail comes to a value or to a fault.  What is built from such steps comes to a
value exactly if the steps do:

| what is built | comes to a value |
| --- | --- |
| one step after another | if both do (`bind_eq_ok_iff`) |
| a step with its value put differently | if the step does (`map_eq_ok_iff`) |
| a step with its fault put differently | if the step does, to the same one (`mapError_eq_ok_iff`) |
| one step for every element of a list | if each does (`mapM_eq_ok_iff`) |
-/

import Mathlib.Data.List.Forall2

namespace LintWorkspace

variable {α β ε ε' : Type} {x : Except ε α} {a : α} {b : β}

@[simp] theorem mapError_ok (f : ε → ε') (a : α) :
    (Except.ok a : Except ε α).mapError f = .ok a := rfl

@[simp] theorem mapError_error (f : ε → ε') (fault : ε) :
    (Except.error fault : Except ε α).mapError f = .error (f fault) := rfl

theorem bind_eq_ok_iff {f : α → Except ε β} :
    (x >>= f) = .ok b ↔ ∃ a, x = .ok a ∧ f a = .ok b := by
  cases x <;> simp [bind, Except.bind]

theorem map_eq_ok_iff {f : α → β} : x.map f = .ok b ↔ ∃ a, x = .ok a ∧ f a = b := by
  cases x <;> simp [Except.map]

theorem mapError_eq_ok_iff {f : ε → ε'} : x.mapError f = .ok a ↔ x = .ok a := by
  cases x <;> simp

theorem toOption_eq_some_iff : x.toOption = some a ↔ x = .ok a := by
  cases x <;> simp [Except.toOption]

theorem mapM_cons_eq_ok_iff {f : α → Except ε β} {as : List α} {bs : List β} :
    (a :: as).mapM f = .ok bs ↔
      ∃ b bs', f a = .ok b ∧ as.mapM f = .ok bs' ∧ bs = b :: bs' := by
  simp only [List.mapM_cons, bind_eq_ok_iff, pure, Except.pure, Except.ok.injEq,
    exists_and_left, eq_comm (b := bs)]

theorem mapM_eq_ok_iff {f : α → Except ε β} {as : List α} {bs : List β} :
    as.mapM f = .ok bs ↔ List.Forall₂ (fun a b => f a = .ok b) as bs := by
  induction as generalizing bs with
  | nil => cases bs <;> simp [pure, Except.pure]
  | cons a as ih => simp only [mapM_cons_eq_ok_iff, List.forall₂_cons_left_iff, ih]

/-- Lists of steps that fail alike fail alike. -/
theorem mapM_eq_error {f g : α → Except ε β}
    (hfg : ∀ a fault, f a = .error fault → g a = .error fault)
    (hgf : ∀ a b, f a = .ok b → ∃ c, g a = .ok c) {as : List α} {fault : ε}
    (h : as.mapM f = .error fault) : as.mapM g = .error fault := by
  induction as with
  | nil => simp [pure, Except.pure] at h
  | cons a as ih =>
    rw [List.mapM_cons] at h ⊢
    cases ha : f a with
    | error x =>
      rw [ha] at h
      rw [hfg a x ha]
      simpa [bind, Except.bind] using h
    | ok b =>
      obtain ⟨c, hc⟩ := hgf a b ha
      rw [ha] at h
      rw [hc]
      cases has : as.mapM f with
      | error x =>
        rw [has] at h
        obtain rfl : x = fault := by simpa [bind, Except.bind] using h
        rw [ih has]
        rfl
      | ok bs => simp [has, bind, Except.bind, pure, Except.pure] at h

end LintWorkspace
