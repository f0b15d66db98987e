/-
# The findings in a text

Every analyzer has rules and every rule has hits; each of them is reported once
(`analyze_exact`).

| what a finding says | where it comes from |
|---|---|
| code | the rule |
| severity | the table of severities, or else the default of the rule |
| line, column | the line feeds before the hit, and the characters behind the last of them |
| message | that of the rule, with the text of the hit in every place of `{name}` |

Findings are put in order by line, column and code.  The sort keeps the findings of one key
in the order they were made in, which `filter_mergeSort` says of any order: what a sort leaves
of the elements of one key is the list of them before it.
-/

import LintWorkspace.Analyzer.Staging
import LintWorkspace.Diagnostic.Analysis
import LintWorkspace.Proofs.Matches
import Mathlib.Data.List.Forall2
import Mathlib.Data.List.Induction
import Mathlib.Data.Prod.Lex
import Mathlib.Data.String.Basic

namespace LintWorkspace
namespace Diagnostic

open Analyzer (Rule Matcher Loaded)

variable {cs part value : List Char} {file text : String} {m : SortedMap Severity}

/-! ### Positions -/

/-- The column of a position is one more than the characters between it and the last line feed
before it. -/
theorem positionAt_column (cs : List Char) (offset : Nat) :
    (positionAt cs offset).column =
      ((cs.take offset).reverse.takeWhile (· ≠ '\n')).length + 1 := by
  rw [positionAt]
  induction cs.take offset using List.reverseRecOn with
  | nil => rfl
  | append_singleton before c ih =>
    rw [List.foldl_append, List.foldl_cons, List.foldl_nil, Position.next, List.reverse_append,
      List.reverse_singleton, List.singleton_append, List.takeWhile_cons]
    by_cases h : c = '\n'
    · simp [h]
    · simp [h, ih]

/-! ### Messages -/

/-- A text that is another one with a value in every place of a part. -/
def Filled (part value cs out : List Char) : Prop :=
  ∃ pieces : List (List Char), (∀ p ∈ pieces, ¬part <:+: p) ∧
    cs = part.intercalate pieces ∧ out = value.intercalate pieces

/-- Replacing a part from the left fills all its places. -/
theorem filled_replaceFrom (hpart : part ≠ []) (n : Nat) (hn : cs.length ≤ n) :
    Filled part value cs (replaceFrom part value n cs) := by
  suffices ∃ piece pieces, (∀ p ∈ piece :: pieces, ¬part <:+: p) ∧
      cs = part.intercalate (piece :: pieces) ∧
      replaceFrom part value n cs = value.intercalate (piece :: pieces) by
    obtain ⟨piece, pieces, h⟩ := this
    exact ⟨piece :: pieces, h⟩
  induction n generalizing cs with
  | zero =>
    obtain rfl : cs = [] := by simpa using hn
    exact ⟨[], [], by simpa using hpart, by simp [List.intercalate],
      by simp [replaceFrom, List.intercalate]⟩
  | succ n ih =>
    cases cs with
    | nil =>
      exact ⟨[], [], by simpa using hpart, by simp [List.intercalate],
        by simp [replaceFrom, List.intercalate]⟩
    | cons c cs =>
      rw [replaceFrom]
      split
      next hprefix =>
        obtain ⟨rest, hrest⟩ := List.isPrefixOf_iff_prefix.1 hprefix
        have hlength : 0 < part.length := List.length_pos_iff.2 hpart
        have hdrop : (c :: cs).drop part.length = rest := by rw [← hrest, List.drop_left]
        obtain ⟨piece, pieces, hfree, hcs, hout⟩ := @ih rest (by
          have := congrArg List.length hrest
          rw [List.length_append, List.length_cons] at this
          rw [List.length_cons] at hn
          omega)
        refine ⟨[], piece :: pieces, ?_, ?_, ?_⟩
        · refine List.forall_mem_cons.2 ⟨?_, hfree⟩
          simpa using hpart
        · rw [← hrest, hcs]
          simp [List.intercalate]
        · rw [hdrop, hout]
          simp [List.intercalate]
      next hprefix =>
        obtain ⟨piece, pieces, hfree, hcs, hout⟩ := @ih cs (by simpa using hn)
        refine ⟨c :: piece, pieces, ?_, ?_, ?_⟩
        · intro p hp
          rcases List.mem_cons.1 hp with rfl | hp
          · rintro hinfix
            rcases List.infix_cons_iff.1 hinfix with h | h
            · refine hprefix (List.isPrefixOf_iff_prefix.2 (h.trans ?_))
              rw [hcs, ← List.intercalate_cons_cons_left]
              cases pieces <;> simp [List.intercalate]
            · exact hfree piece List.mem_cons_self h
          · exact hfree p (List.mem_cons_of_mem _ hp)
        · rw [List.intercalate_cons_cons_left, ← hcs]
        · rw [List.intercalate_cons_cons_left, ← hout]

theorem filled_fillName (template : String) (name : List Char) :
    Filled "\x7bname\x7d".toList name template.toList (fillName template name).toList := by
  rw [fillName, String.toList_ofList (l := replaceFrom _ _ _ _)]
  exact filled_replaceFrom (by decide) _ (Nat.le_refl _)

/-! ### One finding -/

/-- What a finding says of a hit of a rule. -/
structure Reports (file : String) (cs : List Char) (m : SortedMap Severity) (r : Rule) (h : Hit)
    (d : Diagnostic) : Prop where
  code : d.code = r.code
  severity : d.severity = (m.find? r.code).getD r.default
  file : d.file = file
  line : d.line = (cs.take h.offset).count '\n' + 1
  column : d.column = ((cs.take h.offset).reverse.takeWhile (· ≠ '\n')).length + 1
  message : Filled "\x7bname\x7d".toList h.text r.message.toList d.message.toList

theorem reports_ofHit (file : String) (cs : List Char) (m : SortedMap Severity) (r : Rule)
    (h : Hit) : Reports file cs m r h (ofHit file cs m r h) where
  code := rfl
  severity := rfl
  file := rfl
  line := positionAt_line cs h.offset
  column := positionAt_column cs h.offset
  message := filled_fillName r.message h.text

/-! ### The hits of a rule -/

/-- The hits of a matcher in a text: of a regular expression all matches, one behind the other,
each with its text. -/
def Found (cs : List Char) : Matcher → List Hit → Prop
  | .pattern _ program, hits =>
    (∃ spans, Regex.Matches program cs none 0 spans ∧
      List.Forall₂ (fun (s : Regex.Span) (h : Hit) => s.Within 0 cs.length ∧
        h.offset = s.start ∧ h.text = (cs.take s.stop).drop s.start) spans hits) ∧
      hits.Pairwise fun h k => h.offset + h.text.length ≤ k.offset
  | .unusedParameter, hits => hits = unusedHits cs

theorem found_hits (cs : List Char) (matcher : Matcher) :
    Found cs matcher (matcher.hits cs) := by
  cases matcher with
  | unusedParameter => rfl
  | pattern text program =>
    have hmatches := Regex.matches_findAll program cs
    obtain ⟨hin, hpair⟩ := hmatches.apart (Nat.zero_le _)
    refine ⟨⟨_, hmatches, ?_⟩, ?_⟩
    · rw [Matcher.hits, List.forall₂_map_right_iff]
      exact List.forall₂_same.2 fun s hs => ⟨hin s hs, rfl, (List.drop_take ..).symm⟩
    · rw [Matcher.hits, List.pairwise_map]
      refine hpair.imp_of_mem fun {a b} ha _ hab => ?_
      have := (hin a ha).start_le_stop
      rw [List.length_take]
      dsimp only
      omega

/-- The hits of the rules of analyzers, each with its rule. -/
def occurrences (cs : List Char) (analyzers : List Loaded) : List (Rule × Hit) :=
  analyzers.flatMap fun a => a.rules.flatMap fun r => (r.matcher.hits cs).map fun h => (r, h)

theorem collect_rules (file : String) (cs : List Char) (m : SortedMap Severity)
    (analyzers : List Loaded) :
    collect file cs m (analyzers.flatMap Loaded.rules) =
      (occurrences cs analyzers).map fun x => ofHit file cs m x.1 x.2 := by
  simp only [collect, occurrences, List.flatMap_assoc, List.map_flatMap, List.map_map,
    Function.comp_def]

/-! ### The order of a report -/

/-- What findings are put in order by: line, column and code. -/
def key (d : Diagnostic) : ℕ ×ₗ ℕ ×ₗ String := toLex (d.line, toLex (d.column, d.code))

theorem inOrder_iff (a b : Diagnostic) : inOrder a b = true ↔ a.key ≤ b.key := by
  rw [inOrder, key, key, Prod.Lex.toLex_le_toLex, Prod.Lex.toLex_le_toLex]
  by_cases hline : a.line = b.line
  · by_cases hcolumn : a.column = b.column
    · simp [hline, hcolumn]
    · simp [hline, hcolumn]
  · simp [hline]

theorem inOrder_trans (a b c : Diagnostic) (hab : inOrder a b = true) (hbc : inOrder b c = true) :
    inOrder a c = true :=
  (inOrder_iff a c).2 (((inOrder_iff a b).1 hab).trans ((inOrder_iff b c).1 hbc))

theorem inOrder_total (a b : Diagnostic) : (inOrder a b || inOrder b a) = true := by
  rw [Bool.or_eq_true, inOrder_iff, inOrder_iff]
  exact le_total a.key b.key

/-- A sort leaves the elements of a kind in the order they had, if its order is indifferent
between them. -/
theorem filter_mergeSort {α : Type} {le : α → α → Bool} {kind : α → Bool}
    (htrans : ∀ a b c, le a b = true → le b c = true → le a c = true)
    (htotal : ∀ a b, (le a b || le b a) = true)
    (hkind : ∀ a b, kind a = true → kind b = true → le a b = true) (l : List α) :
    (l.mergeSort le).filter kind = l.filter kind := by
  have hsorted : (l.filter kind).Pairwise fun a b => le a b = true :=
    List.pairwise_of_forall_mem_list fun a ha b hb =>
      hkind a b (List.mem_filter.1 ha).2 (List.mem_filter.1 hb).2
  have hsub : (l.filter kind).Sublist (l.mergeSort le) :=
    List.sublist_mergeSort htrans htotal hsorted List.filter_sublist
  have hfilter : (l.filter kind).Sublist ((l.mergeSort le).filter kind) := by
    have := hsub.filter kind
    simpa only [List.filter_filter, Bool.and_self] using this
  exact (hfilter.eq_of_length ((List.mergeSort_perm l le).filter kind).length_eq.symm).symm

/-- **Every hit of every rule is reported, and nothing else is.** -/
theorem analyze_exact (file text : String) (m : SortedMap Severity) (analyzers : List Loaded) :
    (∀ a ∈ analyzers, ∀ r ∈ a.rules, Found text.toList r.matcher (r.matcher.hits text.toList)) ∧
    ∃ made : List Diagnostic,
      List.Forall₂ (fun x d => Reports file text.toList m x.1 x.2 d)
        (occurrences text.toList analyzers) made ∧
      (analyze file text m (analyzers.flatMap Loaded.rules)).Perm made ∧
      (analyze file text m (analyzers.flatMap Loaded.rules)).Pairwise (fun a b => a.key ≤ b.key) ∧
      ∀ k, (analyze file text m (analyzers.flatMap Loaded.rules)).filter (fun d => d.key = k) =
        made.filter fun d => d.key = k := by
  refine ⟨fun _ _ r _ => found_hits text.toList r.matcher,
    collect file text.toList m (analyzers.flatMap Loaded.rules), ?_, ?_, ?_, fun k => ?_⟩
  · rw [collect_rules, List.forall₂_map_right_iff]
    exact List.forall₂_same.2 fun x _ => reports_ofHit file text.toList m x.1 x.2
  · exact List.mergeSort_perm _ _
  · exact (List.pairwise_mergeSort inOrder_trans inOrder_total _).imp fun h =>
      (inOrder_iff _ _).1 h
  · refine filter_mergeSort inOrder_trans inOrder_total (fun a b ha hb => ?_) _
    rw [inOrder_iff, of_decide_eq_true ha, of_decide_eq_true hb]

end Diagnostic
end LintWorkspace
