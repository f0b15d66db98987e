/-
# The course of a resolution

A resolution visits documents, and for every document that it reads it visits the
documents that one imports.  `Visits` says how this goes without a bound on the
length of the chain of imports: what can happen at the next document of a list,
one rule for each.

| rule | the document | ends the visits |
| --- | --- | --- |
| `again` | is finished | no |
| `cycle` | is on the way to itself | yes |
| `unreadable` | cannot be read | yes |
| `broken` | imports something that fails | yes |
| `unruly` | has a rule that cannot be applied | yes |
| `settled` | says something, and is finished now | no |

Every resolution takes such a course (`visits_resolve`): the bound leaves room for
all files that can still join the chain, so it is never met.  What is true of a
resolution is proved by induction on its course.
-/

import LintWorkspace.Proofs.Footprint

namespace LintWorkspace
namespace Ruleset

/-- The progress of a visit that has finished one more document. -/
def Progress.finish (p : Progress) (l : Location) (m : Severities) : Progress :=
  { p with done := (l, m) :: p.done }

/-- The documents that are finished. -/
def Progress.settled (p : Progress) : List Location := p.done.map Prod.fst

/-- How visiting the documents of a list along a chain of imports goes: what they say is
laid over `m`, and the progress `p` becomes `q`.

This is one relation on lists and not two that call each other: a single document is a list
of one, and so a proof along a course is a plain induction. -/
inductive Visits (d : Disk) : List Location → List Location → Severities → Progress →
    Except RulesetFault Severities → Progress → Prop
  | none {chain m p} : Visits d chain [] m p (.ok m) p
  | again {chain l ls m n p q out} (hdone : p.done.lookup l = some n)
    (hrest : Visits d chain ls (m.merge n) p out q) : Visits d chain (l :: ls) m p out q
  | cycle {chain l ls m p} (hnew : p.done.lookup l = none) (hmem : l ∈ chain) :
    Visits d chain (l :: ls) m p (.error (.cycle (chain.dropWhile (· ≠ l) ++ [l]))) p
  | unreadable {chain l ls m p fault} (hnew : p.done.lookup l = none) (hmem : l ∉ chain)
    (hread : Document.read d l = .error fault) :
    Visits d chain (l :: ls) m p (.error fault) (p.reach l)
  | broken {chain l ls m p q fault} {doc : Document} (hnew : p.done.lookup l = none)
    (hmem : l ∉ chain) (hread : Document.read d l = .ok doc)
    (hbelow : Visits d (chain ++ [l]) (targets l doc) ∅ (p.reach l) (.error fault) q) :
    Visits d chain (l :: ls) m p (.error fault) q
  | unruly {chain l ls m below p q fault} {doc : Document} (hnew : p.done.lookup l = none)
    (hmem : l ∉ chain) (hread : Document.read d l = .ok doc)
    (hbelow : Visits d (chain ++ [l]) (targets l doc) ∅ (p.reach l) (.ok below) q)
    (hrules : applyRules l doc.rules below = .error fault) :
    Visits d chain (l :: ls) m p (.error fault) q
  | settled {chain l ls m n below p q q' out} {doc : Document} (hnew : p.done.lookup l = none)
    (hmem : l ∉ chain) (hread : Document.read d l = .ok doc)
    (hbelow : Visits d (chain ++ [l]) (targets l doc) ∅ (p.reach l) (.ok below) q)
    (hrules : applyRules l doc.rules below = .ok n)
    (hrest : Visits d chain ls (m.merge n) (q.finish l n) out q') :
    Visits d chain (l :: ls) m p out q'

variable {d : Disk} {chain ls : List Location} {l : Location} {m : Severities} {p : Progress}

/-- Rules are applied one after the other. -/
theorem applyRules_cons (rule : Rule) (rules : List Rule) (below : Severities) :
    applyRules l (rule :: rules) below =
      match Severity.ofText rule.action with
      | .ok s => applyRules l rules (below.insert rule.code s)
      | .error cause => .error (.invalid l.toPath (.unknownAction rule.code cause)) := by
  simp only [applyRules, List.foldlM_cons, bind, Except.bind]
  cases Severity.ofText rule.action <;> rfl

/-- A chain of imports grows by a document that is not on it. -/
theorem nodup_concat (hnodup : chain.Nodup) (hmem : l ∉ chain) :
    (chain ++ [l]).Nodup := by
  rw [List.nodup_append]
  refine ⟨hnodup, by simp, fun x hx y hy e => hmem ?_⟩
  rw [← List.mem_singleton.1 hy, ← e]
  exact hx

/-- What visits do that are bounded well enough: the bound leaves room for every file that
is not on the chain yet. -/
theorem visits_visitAll {k : Nat} (hnodup : chain.Nodup)
    (hfiles : chain ⊆ d.entries.map Prod.fst)
    (hk : (d.entries.map Prod.fst).length < k + chain.length) :
    Visits d chain ls m p (visitAll (visit (Document.read d) k chain) ls m p).1
      (visitAll (visit (Document.read d) k chain) ls m p).2 := by
  induction k generalizing chain ls m p with
  | zero =>
    have := hnodup.length_le_of_subset hfiles
    omega
  | succ k ih =>
    induction ls generalizing m p with
    | nil => exact .none
    | cons l ls ihls =>
      rw [visitAll, visit_succ]
      cases hdone : p.done.lookup l with
      | some n => exact .again hdone ihls
      | none =>
        by_cases hmem : l ∈ chain
        · simp only [if_pos hmem]
          exact .cycle hdone hmem
        · simp only [if_neg hmem]
          cases hread : Document.read d l with
          | error fault => exact .unreadable hdone hmem hread
          | ok doc =>
            have hfiles' : chain ++ [l] ⊆ d.entries.map Prod.fst :=
              List.append_subset.2 ⟨hfiles, by simpa using mem_of_read hread⟩
            have hk' : (d.entries.map Prod.fst).length < k + (chain ++ [l]).length := by
              rw [List.length_append, List.length_singleton]
              omega
            have hbelow : Visits d (chain ++ [l]) (targets l doc) ∅ (p.reach l) _ _ :=
              ih (nodup_concat hnodup hmem) hfiles' hk'
            simp only
            revert hbelow
            rcases visitAll (visit (Document.read d) k (chain ++ [l])) (targets l doc) ∅
              (p.reach l) with ⟨fault | below, q⟩
            · exact fun hbelow => .broken hdone hmem hread hbelow
            · intro hbelow
              simp only [conclude]
              cases hrules : applyRules l doc.rules below with
              | error fault => exact .unruly hdone hmem hread hbelow hrules
              | ok n => exact .settled hdone hmem hread hbelow hrules ihls

/-- A table laid over the empty one is that table. -/
theorem merge_empty_left (m : Severities) : (∅ : Severities).merge m = m :=
  SortedMap.ext_find? fun x => by
    rw [SortedMap.find?_merge]
    exact Option.or_none

/-- What is left of a resolution besides the list of documents. -/
theorem resolve_eq (d : Disk) (root : Location) :
    (resolve d root).1.map Resolved.severities =
        (visit (Document.read d) (d.entries.length + 1) [] root ⟨[], []⟩).1 ∧
      (resolve d root).2 =
        (visit (Document.read d) (d.entries.length + 1) [] root ⟨[], []⟩).2.reached := by
  unfold resolve
  rcases visit (Document.read d) (d.entries.length + 1) [] root ⟨[], []⟩ with ⟨fault | m, q⟩ <;>
    exact ⟨rfl, rfl⟩

/-- **Every resolution takes its course.** -/
theorem visits_resolve (d : Disk) (root : Location) :
    ∃ q, Visits d [] [root] ∅ ⟨[], []⟩ ((resolve d root).1.map Resolved.severities) q ∧
      (resolve d root).2 = q.reached := by
  obtain ⟨hsaid, hreached⟩ := resolve_eq d root
  refine ⟨_, ?_, hreached⟩
  have hcourse : Visits d [] [root] ∅ ⟨[], []⟩
      (visitAll (visit (Document.read d) (d.entries.length + 1) []) [root] ∅ ⟨[], []⟩).1 _ :=
    visits_visitAll List.nodup_nil (List.nil_subset _) (by simp)
  rw [hsaid]
  rw [visitAll] at hcourse
  revert hcourse
  rcases visit (Document.read d) (d.entries.length + 1) [] root ⟨[], []⟩ with ⟨fault | m, q⟩
  · exact id
  · simp only [visitAll, merge_empty_left]
    exact id

end Ruleset
end LintWorkspace
