/-
# Positions in the order of the text

A position is read off the text before a place by two scans, one for the line and one for the
column.  Behind one more character it is a later one, in the same line or at the start of the
next:

| text | before each character, and at the end |
| --- | --- |
| `ab⏎` | 1:1, 1:2, 1:3, 2:1 |
| `⏎⏎` | 1:1, 2:1, 3:1 |

So positions are ordered as places are (`strictMonoOn_positionAt`), whether places are counted in
characters or in bytes, and two places never have one position.  A report, which is put in order by
line and column, is in the order of the places of its findings.
-/

import LintWorkspace.Proofs.Findings
import LintWorkspace.Proofs.Slices
import Mathlib.Algebra.Order.SuccPred
import Mathlib.Data.Nat.SuccPred
import Mathlib.Order.Interval.Set.Monotone

namespace LintWorkspace
namespace Diagnostic

open Analyzer (Rule Matcher Loaded)
open Text (byteLength byteLength_append byteLength_cons cutAt? cutAt?_eq_some_iff)

variable {cs : List Char} {i j n : Nat} {p q : Position}

/-! ### One more character -/

/-- Positions as pairs, the line first. -/
def Position.key (p : Position) : ℕ ×ₗ ℕ := toLex (p.line, p.column)

theorem Position.precedes_iff : p.precedes q = true ↔ p.key < q.key := by
  rw [precedes, key, key, Prod.Lex.toLex_lt_toLex]
  simp only [Bool.or_eq_true, Bool.and_eq_true, decide_eq_true_eq]

theorem Position.key_inj : p.key = q.key ↔ p = q := by
  obtain ⟨line, column⟩ := p
  obtain ⟨line', column'⟩ := q
  rw [key, key, toLex_inj, Prod.mk.injEq, Position.mk.injEq]

/-- The position behind a character is a later one. -/
theorem Position.key_lt_next (p : Position) (c : Char) : p.key < (p.next c).key := by
  rw [← precedes_iff, precedes, next]
  split <;> simp

theorem positionAt_succ (hn : n < cs.length) :
    positionAt cs (n + 1) = (positionAt cs n).next cs[n] := by
  rw [positionAt, positionAt, List.take_succ_eq_append_getElem hn, List.foldl_append,
    List.foldl_cons, List.foldl_nil]

/-- **Positions grow with the number of characters before them,** up to the end of the text. -/
theorem strictMonoOn_positionAt (cs : List Char) :
    StrictMonoOn (fun n => (positionAt cs n).key) (Set.Iic cs.length) :=
  strictMonoOn_Iic_of_lt_succ fun n hn => by
    rw [Order.succ_eq_add_one, positionAt_succ hn]
    exact Position.key_lt_next _ _

/-- So do numbers of bytes. -/
theorem strictMonoOn_byteAt (cs : List Char) : StrictMonoOn (byteAt cs) (Set.Iic cs.length) :=
  strictMonoOn_Iic_of_lt_succ fun n hn => by
    have hsize := cs[n].utf8Size_pos
    rw [Order.succ_eq_add_one, byteAt, byteAt, List.take_succ_eq_append_getElem hn,
      byteLength_append, byteLength_cons]
    omega

/-! ### Places in bytes -/

/-- The position before a byte, scanned for in the text before it: the line feeds, and the
characters behind the last of them.  There is none if the byte is out of range or inside a
character. -/
def scannedAt? (cs : List Char) (i : Nat) : Option Position :=
  (cutAt? i cs).map fun cut =>
    ⟨cut.1.count '\n' + 1, (cut.1.reverse.takeWhile (· ≠ '\n')).length + 1⟩

/-- What is scanned for is the position behind so many characters as end at the byte. -/
theorem scannedAt?_eq_some_iff :
    scannedAt? cs i = some p ↔ ∃ n ≤ cs.length, byteAt cs n = i ∧ positionAt cs n = p := by
  have hscan : ∀ n, (⟨(cs.take n).count '\n' + 1,
      ((cs.take n).reverse.takeWhile (· ≠ '\n')).length + 1⟩ : Position) = positionAt cs n :=
    fun n => by rw [← positionAt_line, ← positionAt_column]
  rw [scannedAt?, Option.map_eq_some_iff]
  constructor
  · rintro ⟨⟨u, v⟩, hcut, rfl⟩
    obtain ⟨rfl, rfl⟩ := cutAt?_eq_some_iff.1 hcut
    refine ⟨u.length, by simp, byteAt_append u v, ?_⟩
    rw [← hscan, List.take_left]
  · rintro ⟨n, -, rfl, rfl⟩
    have hcut : cutAt? (byteAt cs n) cs = some (cs.take n, cs.drop n) :=
      cutAt?_eq_some_iff.2 ⟨(List.take_append_drop n cs).symm, rfl⟩
    exact ⟨_, hcut, hscan n⟩

/-- **Bytes and their positions are in one order.** -/
theorem lt_iff_precedes (hi : scannedAt? cs i = some p) (hj : scannedAt? cs j = some q) :
    (i < j ↔ p.precedes q = true) ∧ (i = j ↔ p = q) := by
  obtain ⟨n, hn, rfl, rfl⟩ := scannedAt?_eq_some_iff.1 hi
  obtain ⟨k, hk, rfl, rfl⟩ := scannedAt?_eq_some_iff.1 hj
  have hbytes := strictMonoOn_byteAt cs
  have hpositions := strictMonoOn_positionAt cs
  rw [Position.precedes_iff, hbytes.lt_iff_lt hn hk, hbytes.eq_iff_eq hn hk, ← Position.key_inj]
  exact ⟨(hpositions.lt_iff_lt hn hk).symm, (hpositions.eq_iff_eq hn hk).symm⟩

/-! ### The order of a report -/

/-- Every hit starts in the text, or at its end. -/
theorem offset_le_of_mem_hits {matcher : Matcher} {h : Hit} (hh : h ∈ matcher.hits cs) :
    h.offset ≤ cs.length := by
  cases matcher with
  | pattern text program =>
    rw [Matcher.hits] at hh
    obtain ⟨s, hs, rfl⟩ := List.mem_map.1 hh
    have hwithin := ((Regex.matches_findAll program cs).apart (Nat.zero_le _)).1 s hs
    exact Nat.le_trans hwithin.start_le_stop hwithin.stop_le
  | unusedParameter =>
    obtain ⟨sites, hscan, hheads⟩ := exists_scan_heads cs
    rw [Matcher.hits, unusedHits, hheads, List.flatMap_map] at hh
    obtain ⟨s, hs, hh⟩ := List.mem_flatMap.1 hh
    rw [s.unused_head] at hh
    obtain ⟨o, ho, rfl⟩ := List.mem_map.1 hh
    obtain ⟨u, v, hparams, hbefore⟩ := Site.within_of_mem_unused ho
    obtain ⟨-, rfl⟩ := hscan.of_mem s hs
    simp only [Occurrence.hit, hbefore, Site.text, Site.entered, hparams, List.length_append]
    omega

/-- The position of a finding. -/
def position (d : Diagnostic) : Position := ⟨d.line, d.column⟩

/-- Of two findings at different positions the one at the earlier goes first. -/
theorem inOrder_of_precedes {a b : Diagnostic} (h : a.position.precedes b.position = true) :
    inOrder a b = true ∧ inOrder b a = false := by
  rw [Position.precedes_iff, Position.key, Position.key, Prod.Lex.toLex_lt_toLex] at h
  rw [inOrder, inOrder]
  obtain hline | ⟨hline, hcolumn⟩ : a.line < b.line ∨ a.line = b.line ∧ a.column < b.column := h
  · rw [if_pos (by omega), if_pos (by omega)]
    exact ⟨decide_eq_true hline, decide_eq_false (by omega)⟩
  · rw [if_neg (by omega), if_pos (by omega), if_neg (by omega), if_pos (by omega)]
    exact ⟨decide_eq_true hcolumn, decide_eq_false (by omega)⟩

/-- Whether a hit of a rule may stand before another: by place, and then by code. -/
def placedInOrder (x y : Rule × Hit) : Bool :=
  if x.2.offset ≠ y.2.offset then x.2.offset < y.2.offset else decide (x.1.code ≤ y.1.code)

/-- Findings are in order exactly if their places are. -/
theorem placedInOrder_eq {file : String} {m : SortedMap Severity} {x y : Rule × Hit}
    (hx : x.2.offset ≤ cs.length) (hy : y.2.offset ≤ cs.length) :
    placedInOrder x y = inOrder (ofHit file cs m x.1 x.2) (ofHit file cs m y.1 y.2) := by
  have hlt : ∀ {a b : Rule × Hit}, a.2.offset ≤ cs.length → b.2.offset ≤ cs.length →
      a.2.offset < b.2.offset →
      (ofHit file cs m a.1 a.2).position.precedes (ofHit file cs m b.1 b.2).position = true :=
    fun ha hb hab => Position.precedes_iff.2 (strictMonoOn_positionAt cs ha hb hab)
  rcases lt_trichotomy x.2.offset y.2.offset with h | h | h
  · rw [(inOrder_of_precedes (hlt hx hy h)).1, placedInOrder, if_pos (Nat.ne_of_lt h),
      decide_eq_true h]
  · simp [placedInOrder, inOrder, ofHit, h]
  · rw [(inOrder_of_precedes (hlt hy hx h)).2, placedInOrder, if_pos (Nat.ne_of_gt h),
      decide_eq_false (Nat.not_lt_of_gt h)]

/-- A report lists the hits of the rules by their places. -/
theorem analyze_eq_placed (file text : String) (m : SortedMap Severity)
    (analyzers : List Loaded) : analyze file text m (analyzers.flatMap Loaded.rules) =
      ((occurrences text.toList analyzers).mergeSort placedInOrder).map
        fun x => ofHit file text.toList m x.1 x.2 := by
  have hoffset : ∀ x ∈ occurrences text.toList analyzers, x.2.offset ≤ text.toList.length := by
    intro x hx
    obtain ⟨a, -, hx⟩ := List.mem_flatMap.1 hx
    obtain ⟨r, -, hx⟩ := List.mem_flatMap.1 hx
    obtain ⟨h, hh, rfl⟩ := List.mem_map.1 hx
    exact offset_le_of_mem_hits hh
  rw [analyze, collect_rules]
  exact (List.map_mergeSort fun x hx y hy =>
    @placedInOrder_eq text.toList file m x y (hoffset x hx) (hoffset y hy)).symm

/-- **Positions order like places.**  Of two bytes between characters the first is the one at the
lexicographically smaller position, and no two of them have one position; the position scanned for
at a place is the one that findings get there.  So a report, in order by line and column, is the
list of the hits in order by place. -/
theorem positions_order (file text : String) (m : SortedMap Severity) (analyzers : List Loaded) :
    (∀ i j p q, scannedAt? text.toList i = some p → scannedAt? text.toList j = some q →
      (i < j ↔ p.precedes q = true) ∧ (i = j ↔ p = q)) ∧
    (∀ u v, text.toList = u ++ v →
      scannedAt? text.toList (byteLength u) = some (positionAt text.toList u.length)) ∧
    analyze file text m (analyzers.flatMap Loaded.rules) =
      ((occurrences text.toList analyzers).mergeSort placedInOrder).map
        fun x => ofHit file text.toList m x.1 x.2 := by
  refine ⟨fun i j p q hi hj => lt_iff_precedes hi hj, fun u v htext => ?_,
    analyze_eq_placed file text m analyzers⟩
  refine scannedAt?_eq_some_iff.2 ⟨u.length, by simp [htext], ?_, rfl⟩
  rw [htext, byteAt_append]

/-- Before a line break and behind it, after a letter of two bytes. -/
theorem positions_order_accented :
    scannedAt? "é\nb".toList 2 = some ⟨1, 2⟩ ∧ scannedAt? "é\nb".toList 3 = some ⟨2, 1⟩ ∧
    (2 < 3 ↔ Position.precedes ⟨1, 2⟩ ⟨2, 1⟩ = true) ∧ "é\nb".toList = ['é'] ++ ['\n', 'b'] ∧
    scannedAt? "é\nb".toList (byteLength ['é']) = some (positionAt "é\nb".toList 1) :=
  have hbefore : scannedAt? "é\nb".toList 2 = some ⟨1, 2⟩ := by decide +kernel
  have hbehind : scannedAt? "é\nb".toList 3 = some ⟨2, 1⟩ := by decide +kernel
  have htext : "é\nb".toList = ['é'] ++ ['\n', 'b'] := by decide
  have horder := positions_order "f" "é\nb" .empty []
  ⟨hbefore, hbehind, (horder.1 2 3 _ _ hbefore hbehind).1, htext, horder.2.1 _ _ htext⟩

end Diagnostic
end LintWorkspace
