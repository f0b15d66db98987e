/-
# What is reported of a function head

| head | reported |
| --- | --- |
| behind a control word | nothing |
| with a brace that nothing closes | nothing |
| any other | of each piece of its parameters the declared name, if the body does not use it |

A name is kept where it stands, with all the text before it.  This is where the offsets come
from: those of a list of pieces are added up from their lengths, and `located` says that the
sum is right.
-/

import LintWorkspace.Proofs.Heads
import LintWorkspace.Proofs.Names
import LintWorkspace.Proofs.Pieces

namespace LintWorkspace
namespace Diagnostic

open Unicode (isWord)

variable {cs body before piece rest : List Char} {pieces : List (List Char)}

/-- A name where it stands: the text before it, and the name. -/
structure Occurrence where
  before : List Char
  name : List Char

namespace Occurrence

/-- The hit that reports an occurrence. -/
def hit (o : Occurrence) : Hit := ⟨o.before.length, o.name⟩

/-- An occurrence lies inside the parentheses of a head. -/
def Within (o : Occurrence) (s : Site) : Prop :=
  ∃ u v, s.params = u ++ o.name ++ v ∧ o.before = s.opened ++ u

end Occurrence

/-- The pieces of a list that starts behind a text, each with what stands before it. -/
def located : List Char → List (List Char) → List (List Char × List Char)
  | _, [] => []
  | before, piece :: pieces => (before, piece) :: located (before ++ piece ++ [',']) pieces

/-- The occurrence of a parameter that a body does not use. -/
def unused? (body : List Char) (before piece : List Char) : Option Occurrence :=
  (declaredName? piece).bind fun h =>
    if h.text = "self".toList ∨ h.text = "this".toList ∨ h.text.head? = some '_' ∨
        mentions body h.text = true then none
    else some ⟨before ++ piece.take h.offset, h.text⟩

/-- The parameters reported for a function head. -/
inductive Reported (s : Site) : List Occurrence → Prop
  /-- none behind a control word -/
  | control (hname : s.name ∈ controlWords) : Reported s []
  /-- none where the brace is not closed -/
  | unclosed (hname : s.name ∉ controlWords) (hbody : ∀ body, ¬ IsBody s.rest body) : Reported s []
  /-- those of all pieces that are not used -/
  | closed {body : List Char} {pieces : List (List Char)} (hname : s.name ∉ controlWords)
    (hbody : IsBody s.rest body) (hpieces : IsSplit 0 s.params pieces) :
    Reported s ((located s.opened pieces).filterMap fun p => unused? body p.1 p.2)

/-- The parameters found at a function head. -/
def Site.unused (s : Site) : List Occurrence :=
  if controlWords.contains s.name then []
  else match body? 0 s.rest with
    | none => []
    | some body =>
      (located s.opened (splitParams 0 s.params)).filterMap fun p => unused? body p.1 p.2

/-- **What is found at a head is what is to be reported.** -/
theorem Site.reported_unused (s : Site) : Reported s s.unused := by
  rw [Site.unused]
  split
  · rename_i hname
    exact .control (List.contains_iff_mem.1 hname)
  · rename_i hname
    have hname : s.name ∉ controlWords := fun h => hname (List.contains_iff_mem.2 h)
    cases hbody : body? 0 s.rest with
    | none =>
      refine .unclosed hname fun body hclosed => ?_
      rw [body?_eq_some_iff.2 hclosed] at hbody
      simp at hbody
    | some body => exact .closed hname (body?_eq_some_iff.1 hbody) (isSplit_splitParams 0 s.params)

/-- **Nothing else is to be reported.** -/
theorem Reported.eq_unused {s : Site} {found : List Occurrence} (h : Reported s found) :
    found = s.unused := by
  rw [Site.unused]
  cases h with
  | control hname => rw [if_pos (List.contains_iff_mem.2 hname)]
  | unclosed hname hbody =>
    rw [if_neg (mt List.contains_iff_mem.1 hname)]
    cases hfound : body? 0 s.rest with
    | none => rfl
    | some body => exact absurd (body?_eq_some_iff.1 hfound) (hbody body)
  | closed hname hbody hpieces =>
    rw [if_neg (mt List.contains_iff_mem.1 hname), body?_eq_some_iff.2 hbody,
      hpieces.eq_splitParams]

/-! ### Where the names stand -/

/-- A piece stands in its list where it is located, between commas or the ends of the list. -/
theorem exists_of_mem_located {p : List Char × List Char} (hp : p ∈ located before pieces) :
    ∃ u v, [','].intercalate pieces = u ++ p.2 ++ v ∧ p.1 = before ++ u ∧
      (u = [] ∨ u.getLast? = some ',') ∧ (v = [] ∨ v.head? = some ',') := by
  induction pieces generalizing before with
  | nil => simp [located] at hp
  | cons piece pieces ih =>
    rcases List.mem_cons.1 hp with rfl | hp
    · cases pieces with
      | nil => exact ⟨[], [], by simp, (List.append_nil _).symm, .inl rfl, .inl rfl⟩
      | cons second pieces =>
        exact ⟨[], ',' :: [','].intercalate (second :: pieces), rfl, (List.append_nil _).symm,
          .inl rfl, .inr rfl⟩
    · cases pieces with
      | nil => simp [located] at hp
      | cons second pieces =>
        obtain ⟨u, v, hjoin, hbefore, hu, hv⟩ := ih hp
        refine ⟨piece ++ ',' :: u, v, ?_, by simp [hbefore], .inr ?_, hv⟩
        · change piece ++ ',' :: [','].intercalate (second :: pieces) = _
          rw [hjoin]
          simp
        · rcases hu with rfl | hu
          · exact List.getLast?_concat
          · rw [List.getLast?_append, List.getLast?_cons, hu]
            rfl

/-- An unused parameter is the declared name of a piece of its head. -/
theorem Site.exists_of_mem_unused {s : Site} {o : Occurrence} (ho : o ∈ s.unused) :
    ∃ p h, p ∈ located s.opened (splitParams 0 s.params) ∧ declaredName? p.2 = some h ∧
      o = ⟨p.1 ++ p.2.take h.offset, h.text⟩ := by
  rw [Site.unused] at ho
  split at ho
  · simp at ho
  · split at ho
    · simp at ho
    · obtain ⟨p, hp, ho⟩ := List.mem_filterMap.1 ho
      obtain ⟨h, hh, ho⟩ := Option.bind_eq_some_iff.1 ho
      split at ho
      · simp at ho
      · exact ⟨p, h, hp, hh, (Option.some.inj ho).symm⟩

/-- **An unused parameter stands inside the parentheses of its head.** -/
theorem Site.within_of_mem_unused {s : Site} {o : Occurrence} (ho : o ∈ s.unused) : o.Within s := by
  obtain ⟨p, h, hp, hh, rfl⟩ := Site.exists_of_mem_unused ho
  obtain ⟨u, v, hjoin, hbefore, -⟩ := exists_of_mem_located hp
  rw [(isSplit_splitParams 0 s.params).join] at hjoin
  obtain ⟨front, pre, back, hpiece, hoffset, -⟩ := nameAt_of_declaredName? hh
  have htake : p.2.take h.offset = front ++ pre := by
    rw [hpiece, hoffset, List.append_assoc, List.take_left]
  exact ⟨u ++ (front ++ pre), back ++ v, by simp [hjoin, hpiece], by simp [hbefore, htake]⟩

/-! ### Offsets -/

theorem isExempt_iff {name : List Char} : isExempt name = true ↔
    name = "self".toList ∨ name = "this".toList ∨ name.head? = some '_' := by
  simp only [isExempt, Bool.or_eq_true, decide_eq_true_eq, or_assoc]

/-- The hits of a list of pieces are those of its occurrences. -/
theorem unusedIn_eq (body before : List Char) (pieces : List (List Char)) :
    unusedIn body before.length pieces =
      ((located before pieces).filterMap fun p => unused? body p.1 p.2).map Occurrence.hit := by
  induction pieces generalizing before with
  | nil => rfl
  | cons piece pieces ih =>
    have hrest := ih (before ++ piece ++ [','])
    rw [List.length_append, List.length_append, List.length_singleton] at hrest
    rw [unusedIn, located, List.filterMap_cons, hrest, unused?]
    cases hh : declaredName? piece with
    | none => rfl
    | some h =>
      have hlength := (nameAt_of_declaredName? hh).length_take
      simp only [Bool.or_eq_true, isExempt_iff, Option.bind_some, or_assoc]
      split
      · rfl
      · rw [List.map_cons, Occurrence.hit, List.length_append, hlength]

/-- The hits of a head are its unused parameters. -/
theorem Site.unused_head (s : Site) : s.head.unused = s.unused.map Occurrence.hit := by
  rw [Head.unused, Site.unused, Site.head]
  split
  · rfl
  · cases body? 0 s.rest with
    | none => rfl
    | some body => exact unusedIn_eq body s.opened _

end Diagnostic
end LintWorkspace
