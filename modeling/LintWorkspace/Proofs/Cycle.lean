/-
# Cycles of imports

A document on the way to itself is a cycle, and nothing else is: a document that is
imported twice is finished when the second import comes to it.

* The chain that is reported is a circle (`Circle`): it closes at the document it
  starts from, passes no other document twice, and every document of it imports the
  next (`Visits.circle`).
* While all documents can be used nothing but a cycle can stop a visit
  (`Visits.exists_cycle_of_usable`).
* What is finished holds no cycle (`Finished.not_transGen`), so no cycle is missed.

So a resolution reports a cycle exactly if there is one, and it always ends
(`cycle_detection`).
-/

import LintWorkspace.Proofs.Reach
import Mathlib.Data.List.Chain

namespace LintWorkspace
namespace Ruleset

/-- A way along imports from a document back to it, which stands at both ends. -/
structure Circle (d : Disk) (chain : List Location) : Prop where
  two_le_length : 2 ≤ chain.length
  closed : chain.head? = chain.getLast?
  /-- only the ends are alike -/
  nodup : chain.dropLast.Nodup
  linked : chain.IsChain (Imports d)

/-- Some document that the root leads to leads back to itself. -/
def Cyclic (d : Disk) (root : Location) : Prop :=
  ∃ l, Reaches d root l ∧ Relation.TransGen (Imports d) l l

/-- A document that can be read and whose rules name known severities. -/
def Usable (d : Disk) (l : Location) : Prop :=
  ∃ doc, Document.read d l = .ok doc ∧ ∀ rule ∈ doc.rules, ∃ s, Severity.ofText rule.action = .ok s

variable {d : Disk} {chain c ls : List Location} {l t : Location} {m : Severities}
  {p q : Progress} {doc : Document} {out : Except RulesetFault Severities} {fault : RulesetFault}

/-! ### A chain that closes -/

/-- What is left of a chain from a document on starts with that document. -/
theorem exists_dropWhile_eq_cons (hmem : l ∈ chain) :
    ∃ rest, chain.dropWhile (· ≠ l) = l :: rest := by
  induction chain with
  | nil => simp at hmem
  | cons x xs ih =>
    by_cases hx : x = l
    · exact ⟨xs, by simp [hx]⟩
    · obtain ⟨rest, hrest⟩ := ih ((List.mem_cons.1 hmem).resolve_left (Ne.symm hx))
      exact ⟨rest, by simpa [hx] using hrest⟩

/-- A chain whose last document imports one of it holds a circle. -/
theorem circle_of_mem (hnodup : chain.Nodup) (hlinked : (chain ++ [l]).IsChain (Imports d))
    (hmem : l ∈ chain) : Circle d (chain.dropWhile (· ≠ l) ++ [l]) where
  two_le_length := by
    obtain ⟨rest, hrest⟩ := exists_dropWhile_eq_cons hmem
    rw [hrest]
    simp
  closed := by
    obtain ⟨rest, hrest⟩ := exists_dropWhile_eq_cons hmem
    rw [hrest, List.getLast?_concat]
    rfl
  nodup := by
    rw [List.dropLast_concat]
    exact hnodup.sublist (List.dropWhile_sublist _)
  linked := by
    refine hlinked.suffix ?_
    obtain ⟨front, hfront⟩ := List.dropWhile_suffix (l := chain) (· ≠ l)
    exact ⟨front, by rw [← List.append_assoc, hfront]⟩

/-- A circle leads from its start back to it. -/
theorem Circle.exists_transGen (h : Circle d chain) :
    ∃ l ∈ chain, Relation.TransGen (Imports d) l l := by
  match chain, h with
  | [], h => simpa using h.two_le_length
  | [l], h => simpa using h.two_le_length
  | l :: t :: rest, h =>
    refine ⟨l, by simp, ?_⟩
    have hlast : l ∈ t :: rest := by
      have hclosed := h.closed
      rw [List.head?_cons, List.getLast?_cons_cons] at hclosed
      exact List.mem_of_getLast? hclosed.symm
    have hall := List.isChain_iff_pairwise.1
      (h.linked.imp fun _ _ himports => Relation.TransGen.single himports)
    exact (List.pairwise_cons.1 hall).1 l hlast

/-- One more document on a chain that can still be followed. -/
theorem isChain_concat_of_mem (hlinked : (chain ++ [l]).IsChain (Imports d))
    (hread : Document.read d l = .ok doc) (ht : t ∈ targets l doc) :
    (chain ++ [l] ++ [t]).IsChain (Imports d) := by
  rw [List.isChain_append]
  exact ⟨hlinked, List.isChain_singleton t, by simpa using (imports_iff hread).2 ht⟩

/-! ### Faults that are no cycles -/

theorem read_ne_cycle : Document.read d l ≠ .error (.cycle chain) := by
  unfold Document.read
  split
  · simp
  · split <;> simp

theorem applyRules_ne_cycle {rules : List Rule} {below : Severities} :
    applyRules l rules below ≠ .error (.cycle chain) := by
  induction rules generalizing below with
  | nil => exact nofun
  | cons rule rules ih =>
    rw [applyRules_cons]
    split
    · exact ih
    · simp

/-- Rules that name known severities can be applied. -/
theorem applyRules_ne_error {rules : List Rule} {below : Severities}
    (h : ∀ rule ∈ rules, ∃ s, Severity.ofText rule.action = .ok s) :
    applyRules l rules below ≠ .error fault := by
  induction rules generalizing below with
  | nil => exact nofun
  | cons rule rules ih =>
    obtain ⟨s, hs⟩ := h rule List.mem_cons_self
    rw [applyRules_cons, hs]
    exact ih fun rule hrule => h rule (List.mem_cons_of_mem _ hrule)

/-! ### Along a course -/

/-- **A cycle that visits end with is a circle** of documents that they reached. -/
theorem Visits.circle (h : Visits d chain ls m p out q) (hout : out = .error (.cycle c))
    (hnodup : chain.Nodup) (hlinked : ∀ l ∈ ls, (chain ++ [l]).IsChain (Imports d))
    (hreached : chain ⊆ p.reached) : Circle d c ∧ c ⊆ q.reached := by
  -- how the hypotheses pass on to what a document imports
  have hdown : ∀ {chain ls : List Location} {l} {p : Progress} {doc : Document},
      chain.Nodup → (∀ l ∈ ls, (chain ++ [l]).IsChain (Imports d)) → chain ⊆ p.reached →
      l ∈ ls → l ∉ chain → Document.read d l = .ok doc →
      (chain ++ [l]).Nodup ∧
        (∀ t ∈ targets l doc, (chain ++ [l] ++ [t]).IsChain (Imports d)) ∧
        chain ++ [l] ⊆ (p.reach l).reached := by
    intro chain ls l p doc hnodup hlinked hreached hl hmem hread
    refine ⟨nodup_concat hnodup hmem, fun t => isChain_concat_of_mem (hlinked l hl) hread, ?_⟩
    exact List.append_subset.2 ⟨List.subset_append_of_subset_left _ hreached,
      List.subset_append_right _ _⟩
  induction h with
  | none => exact nomatch hout
  | again _ _ ih =>
    exact ih hout hnodup (fun l hl => hlinked l (List.mem_cons_of_mem _ hl)) hreached
  | cycle hnew hmem =>
    obtain rfl := RulesetFault.cycle.inj (Except.error.inj hout)
    refine ⟨circle_of_mem hnodup (hlinked _ List.mem_cons_self) hmem, ?_⟩
    refine List.append_subset.2 ⟨List.Subset.trans (List.dropWhile_sublist _).subset hreached, ?_⟩
    simpa using hreached hmem
  | unreadable _ _ hread =>
    rw [Except.error.inj hout] at hread
    exact absurd hread read_ne_cycle
  | broken _ hmem hread _ ih =>
    obtain ⟨hnodup, hlinked, hreached⟩ :=
      hdown hnodup hlinked hreached List.mem_cons_self hmem hread
    exact ih hout hnodup hlinked hreached
  | unruly _ _ _ _ hrules =>
    rw [Except.error.inj hout] at hrules
    exact absurd hrules applyRules_ne_cycle
  | settled _ _ _ hbelow _ _ _ ihrest =>
    refine ihrest hout hnodup (fun l hl => hlinked l (List.mem_cons_of_mem _ hl)) ?_
    exact List.Subset.trans hreached
      ((List.prefix_append _ _).trans hbelow.prefix_reached).subset

/-- **Nothing but a cycle stops visits** of documents that lead to usable ones only. -/
theorem Visits.exists_cycle_of_usable (h : Visits d chain ls m p out q)
    (hout : out = .error fault) (husable : ∀ l ∈ ls, ∀ x, Reaches d l x → Usable d x) :
    ∃ c, fault = .cycle c := by
  have hdown : ∀ {ls : List Location} {l} {doc : Document},
      (∀ l ∈ ls, ∀ x, Reaches d l x → Usable d x) → l ∈ ls → Document.read d l = .ok doc →
      ∀ t ∈ targets l doc, ∀ x, Reaches d t x → Usable d x :=
    fun husable hl hread t ht x hx => husable _ hl x (.head ((imports_iff hread).2 ht) hx)
  induction h with
  | none => exact nomatch hout
  | again _ _ ih => exact ih hout fun l hl => husable l (List.mem_cons_of_mem _ hl)
  | cycle => exact ⟨_, (Except.error.inj hout).symm⟩
  | unreadable _ _ hread =>
    obtain ⟨doc, hdoc, -⟩ := husable _ List.mem_cons_self _ .refl
    simp [hdoc] at hread
  | broken _ _ hread _ ih => exact ih hout (hdown husable List.mem_cons_self hread)
  | unruly _ _ hread _ hrules =>
    obtain ⟨doc, hdoc, hknown⟩ := husable _ List.mem_cons_self _ .refl
    obtain rfl := Except.ok.inj (hdoc.symm.trans hread)
    exact absurd hrules (applyRules_ne_error hknown)
  | settled _ _ _ _ _ _ _ ihrest =>
    exact ihrest hout fun l hl => husable l (List.mem_cons_of_mem _ hl)

/-- **A finished document is on no cycle:** what it imports was finished before it. -/
theorem Finished.not_transGen (h : Finished d ls) (hl : l ∈ ls) :
    ¬ Relation.TransGen (Imports d) l l := by
  induction h with
  | nil => simp at hl
  | cons hread hnew hbelow hrest ih =>
    rcases List.mem_cons.1 hl with rfl | hl
    · intro hcycle
      obtain ⟨t, himports, hback⟩ := Relation.TransGen.head'_iff.1 hcycle
      exact hnew (hrest.mem_of_reaches (hbelow ((imports_iff hread).1 himports)) hback)
    · exact ih hl

/-! ### Resolutions -/

/-- A resolution that succeeds proves that there is no cycle. -/
theorem not_cyclic_of_resolve {root : Location} {r : Resolved}
    (hr : (resolve d root).1 = .ok r) : ¬ Cyclic d root := by
  rintro ⟨l, hreaches, hcycle⟩
  obtain ⟨q, hcourse, -⟩ := visits_resolve d root
  obtain ⟨hq, hroot⟩ := (hcourse.sound (sound_nil d)).2 r.severities (by rw [hr]; rfl)
  exact hq.finished.not_transGen
    (hq.finished.mem_of_reaches (hroot List.mem_cons_self) hreaches) hcycle

/-- A cycle that a resolution reports is a circle. -/
theorem circle_of_resolve {root : Location} (hc : (resolve d root).1 = .error (.cycle chain)) :
    Circle d chain ∧ chain ⊆ (resolve d root).2 := by
  obtain ⟨q, hcourse, hreached⟩ := visits_resolve d root
  rw [hreached]
  exact hcourse.circle (by rw [hc]; rfl) List.nodup_nil (fun l _ => List.isChain_singleton l)
    (List.nil_subset _)

/-- The documents of a cycle that a resolution reports are documents the root leads to. -/
theorem cyclic_of_resolve {root : Location} (hc : (resolve d root).1 = .error (.cycle chain)) :
    Cyclic d root := by
  obtain ⟨hcircle, hsubset⟩ := circle_of_resolve hc
  obtain ⟨l, hl, hback⟩ := hcircle.exists_transGen
  obtain ⟨q, hcourse, hreached⟩ := visits_resolve d root
  refine ⟨l, ?_, hback⟩
  rcases hcourse.reaches (hreached ▸ hsubset hl) with hl | ⟨t, ht, hreaches⟩
  · simp at hl
  · rwa [List.mem_singleton.1 ht] at hreaches

/-- **Resolutions end, and they report a cycle exactly if there is one.**

A resolution takes its course, and a larger bound on the length of a chain of imports does
not change it.  A cycle that is reported is a circle of documents that were reached.  If all
documents that the root leads to are usable, then a cycle is reported if one of them leads
back to itself, and the resolution succeeds otherwise. -/
theorem cycle_detection (d : Disk) (root : Location) :
    ((∃ q, Visits d [] [root] ∅ ⟨[], []⟩ ((resolve d root).1.map Resolved.severities) q ∧
        (resolve d root).2 = q.reached) ∧
      ∀ n, d.entries.length < n → visit (Document.read d) n [] root ⟨[], []⟩ =
        visit (Document.read d) (d.entries.length + 1) [] root ⟨[], []⟩) ∧
    (∀ chain, (resolve d root).1 = .error (.cycle chain) →
      Circle d chain ∧ chain ⊆ (resolve d root).2) ∧
    ((∀ l, Reaches d root l → Usable d l) →
      ((∃ chain, (resolve d root).1 = .error (.cycle chain)) ↔ Cyclic d root) ∧
      ((∃ r, (resolve d root).1 = .ok r) ↔ ¬ Cyclic d root)) := by
  refine ⟨⟨visits_resolve d root, fun n hn => ?_⟩, fun chain => circle_of_resolve,
    fun husable => ?_⟩
  · exact visit_congr (fun l doc => mem_of_read) (fun l doc => mem_of_read) List.nodup_nil
      (List.nil_subset _) (List.nil_subset _) (by simp) (by simpa using hn) fun _ _ => rfl
  · cases hout : (resolve d root).1 with
    | ok r =>
      have hnot := not_cyclic_of_resolve hout
      exact ⟨⟨nofun, fun h => absurd h hnot⟩, ⟨fun _ => hnot, fun _ => ⟨r, rfl⟩⟩⟩
    | error fault =>
      obtain ⟨q, hcourse, -⟩ := visits_resolve d root
      rw [hout] at hcourse
      obtain ⟨chain, rfl⟩ := hcourse.exists_cycle_of_usable rfl
        fun l hl => List.mem_singleton.1 hl ▸ husable
      have hcyclic := cyclic_of_resolve hout
      exact ⟨⟨fun _ => hcyclic, fun _ => ⟨chain, rfl⟩⟩, ⟨nofun, fun h => absurd hcyclic h⟩⟩

/-- Two documents that import each other, one of them by a detour, and a third that both
import. -/
def ring : Disk :=
  ⟨.root, [
    (place "/a", .file "imports = [\"c\", \"./b\"]".toUTF8),
    (place "/b", .file "imports = [\"c\", \"d/../a\"]".toUTF8),
    (place "/c", .file "rules = [[\"X\", \"warn\"]]".toUTF8)]⟩

/-- What a decision about a document that is read says. -/
theorem exists_read_of_any {f : Document → Bool}
    (h : (Document.read d l).toOption.any f = true) :
    ∃ doc, Document.read d l = .ok doc ∧ f doc = true := by
  obtain ⟨doc, hread, hdoc⟩ := (Option.any_eq_true _ _).1 h
  exact ⟨doc, toOption_eq_some_iff.1 hread, hdoc⟩

/-- The ring is found, whatever else its documents import. -/
theorem cycle_ring :
    (∀ l, Reaches ring (place "/a") l → Usable ring l) ∧ Cyclic ring (place "/a") ∧
      ∃ chain, (resolve ring (place "/a")).1 = .error (.cycle chain) ∧ Circle ring chain ∧
        chain ⊆ (resolve ring (place "/a")).2 := by
  have hall : ∀ l ∈ [place "/a", place "/b", place "/c"],
      (Document.read ring l).toOption.any (fun doc =>
        decide (targets l doc ⊆ [place "/a", place "/b", place "/c"]) &&
          doc.rules.all fun rule => (Severity.ofText rule.action).toOption.isSome) = true := by
    decide +kernel
  have hclosed : ∀ l ∈ [place "/a", place "/b", place "/c"], ∀ t, Imports ring l t →
      t ∈ [place "/a", place "/b", place "/c"] := by
    intro l hl t himports
    obtain ⟨doc, hread, hdoc⟩ := exists_read_of_any (hall l hl)
    rw [Bool.and_eq_true, decide_eq_true_eq] at hdoc
    exact hdoc.1 ((imports_iff hread).1 himports)
  have husable : ∀ l, Reaches ring (place "/a") l → Usable ring l := by
    intro l hreaches
    obtain ⟨doc, hread, hdoc⟩ :=
      exists_read_of_any (hall l (mem_of_reaches hclosed List.mem_cons_self hreaches))
    rw [Bool.and_eq_true, List.all_eq_true] at hdoc
    refine ⟨doc, hread, fun rule hrule => ?_⟩
    have hknown := hdoc.2 rule hrule
    cases hs : Severity.ofText rule.action with
    | error cause => simp [hs, Except.toOption] at hknown
    | ok s => exact ⟨s, rfl⟩
  have hcyclic : Cyclic ring (place "/a") := by
    obtain ⟨a, hreada, ha⟩ := exists_read_of_any (d := ring) (l := place "/a")
      (f := fun doc => decide (place "/b" ∈ targets (place "/a") doc)) (by decide +kernel)
    obtain ⟨b, hreadb, hb⟩ := exists_read_of_any (d := ring) (l := place "/b")
      (f := fun doc => decide (place "/a" ∈ targets (place "/b") doc)) (by decide +kernel)
    exact ⟨place "/a", .refl,
      .tail (.single ((imports_iff hreada).2 (of_decide_eq_true ha)))
        ((imports_iff hreadb).2 (of_decide_eq_true hb))⟩
  obtain ⟨-, hcircle, hexact⟩ := cycle_detection ring (place "/a")
  obtain ⟨chain, hchain⟩ := (hexact husable).1.2 hcyclic
  exact ⟨husable, hcyclic, chain, hchain, hcircle chain hchain⟩

end Ruleset
end LintWorkspace
