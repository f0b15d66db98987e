/-
# Values do not end with a line break

A line of a document ends with a line break, but for the last one, which may end with the text.
Which of the two it was can be told from the text alone, because nothing that stands on a line
ends with a line break of its own: a literal ends with a quote, a list with a bracket, a run
with one of its characters (`shut_text`), and what follows on the line has no line break at all
(`break_not_mem_of_lineEnd?`).
-/

import LintWorkspace.Proofs.Legible

namespace LintWorkspace
namespace Toml

variable {cs rest s : List Char} {c : Char}

/-- What stands in front of the rest of a text is not empty and does not end with a line
break. -/
def Shut (cs rest : List Char) : Prop := ∃ text c, cs = text ++ c :: rest ∧ c ≠ '\n'

theorem Shut.append (h : Shut cs rest) (ds : List Char) : Shut (ds ++ cs) rest := by
  obtain ⟨text, c, rfl, hc⟩ := h
  exact ⟨ds ++ text, c, by simp, hc⟩

theorem Shut.cons (h : Shut cs rest) (c : Char) : Shut (c :: cs) rest := h.append [c]

theorem Shut.of_forall (hne : cs ≠ []) (h : '\n' ∉ cs) : Shut cs [] :=
  ⟨cs.dropLast, cs.getLast hne, (List.dropLast_concat_getLast hne).symm,
    fun he => h (he ▸ List.getLast_mem hne)⟩

/-- Nothing without a line break behind it changes that. -/
theorem Shut.append_right (h : Shut cs []) {ds : List Char} (hds : '\n' ∉ ds) :
    Shut (cs ++ ds) [] := by
  by_cases hne : ds = []
  · rwa [hne, List.append_nil]
  · exact (Shut.of_forall hne hds).append cs

theorem Shut.getLast?_ne (h : Shut cs []) : cs.getLast? ≠ some '\n' := by
  obtain ⟨text, c, rfl, hc⟩ := h
  simpa using hc

/-! ### Literals -/

theorem shut_closing {q : Char} (hq : q ≠ '\n') (h : closing q (q :: q :: q :: cs) = (s, rest)) :
    Shut (q :: q :: q :: cs) rest := by
  obtain ⟨rfl, rfl⟩ := Prod.mk.inj h
  have hrun : (q :: q :: q :: cs).takeWhile (· = q) = q :: q :: q :: cs.takeWhile (· = q) := by simp
  generalize hkept : min (((q :: q :: q :: cs).takeWhile (· = q)).length - 3) 2 = kept
  rw [hrun] at hkept
  have hle : kept ≤ (cs.takeWhile (· = q)).length := by
    simp only [List.length_cons] at hkept
    omega
  -- the last of the quotes that are dropped is one of the run
  have hlt : kept + 2 < ((q :: q :: q :: cs).takeWhile (· = q)).length := by
    rw [hrun]
    simp only [List.length_cons]
    omega
  have hsplit : q :: q :: q :: cs = (q :: q :: q :: cs).take (kept + 2) ++
      (q :: q :: q :: cs).drop (kept + 2) := (List.take_append_drop _ _).symm
  have hpre : (q :: q :: q :: cs).takeWhile (· = q) <+: q :: q :: q :: cs :=
    List.takeWhile_prefix _
  have hlength := Nat.lt_of_lt_of_le hlt hpre.length_le
  have hget : (q :: q :: q :: cs)[kept + 2] = q := by
    have hmem : ((q :: q :: q :: cs).takeWhile (· = q))[kept + 2] ∈
      (q :: q :: q :: cs).takeWhile (· = q) := List.getElem_mem hlt
    rw [hpre.getElem hlt] at hmem
    exact of_decide_eq_true ((span_stops (· = q) _).1 _ hmem)
  refine ⟨(q :: q :: q :: cs).take (kept + 2), q, ?_, hq⟩
  conv => lhs; rw [hsplit, List.drop_eq_getElem_cons hlength, hget]

theorem shut_escapedWithin? {n : Nat} (h : escapedWithin? n cs = some (s, rest)) :
    Shut cs rest := by
  fun_induction escapedWithin? n cs generalizing s with
  | case1 | case2 | case6 => cases h
  | case3 n cs =>
    obtain ⟨rfl, rfl⟩ := Prod.mk.inj (Option.some.inj h)
    exact ⟨[], '"', rfl, by decide⟩
  | case4 n cs ih =>
    obtain ⟨⟨c, cs'⟩, hescape, h⟩ := Option.bind_eq_some_iff.1 h
    obtain ⟨s, rfl, hread⟩ := exists_of_bind h
    obtain ⟨d, text, rfl, -⟩ := exists_spells_escape? hescape
    exact ((ih _ hread).append (d :: text)).cons _
  | case5 n c cs _ _ _ ih =>
    obtain ⟨s, rfl, hread⟩ := exists_of_bind h
    exact (ih hread).cons _

theorem shut_verbatim? (h : verbatim? cs = some (s, rest)) : Shut cs rest := by
  fun_induction verbatim? cs generalizing s with
  | case1 | case4 => cases h
  | case2 cs =>
    obtain ⟨rfl, rfl⟩ := Prod.mk.inj (Option.some.inj h)
    exact ⟨[], '\'', rfl, by decide⟩
  | case3 c cs _ _ ih =>
    obtain ⟨s, rfl, hread⟩ := exists_of_bind h
    exact (ih hread).cons _

theorem shut_escapedLinesWithin? {n : Nat} (h : escapedLinesWithin? n cs = some (s, rest)) :
    Shut cs rest := by
  fun_induction escapedLinesWithin? n cs generalizing s with
  | case1 | case2 | case8 => cases h
  | case3 n cs => exact shut_closing (by decide) (Option.some.inj h)
  | case4 n cs after hjoin ih =>
    obtain ⟨-, join, rfl, -⟩ := exists_afterJoin? hjoin
    exact ((ih h).append join).cons _
  | case5 n cs hjoin ih =>
    obtain ⟨⟨c, cs'⟩, hescape, h⟩ := Option.bind_eq_some_iff.1 h
    obtain ⟨s, rfl, hread⟩ := exists_of_bind h
    obtain ⟨d, text, rfl, -⟩ := exists_spells_escape? hescape
    exact ((ih _ hread).append (d :: text)).cons _
  | case6 n cs ih =>
    obtain ⟨⟨s', rest'⟩, hread, he⟩ := Option.bind_eq_some_iff.1 h
    obtain ⟨rfl, rfl⟩ := Prod.mk.inj (Option.some.inj he)
    exact ((ih hread).cons _).cons _
  | case7 n c cs _ _ _ _ ih =>
    obtain ⟨s, rfl, hread⟩ := exists_of_bind h
    exact (ih hread).cons _

theorem shut_verbatimLines? (h : verbatimLines? cs = some (s, rest)) : Shut cs rest := by
  fun_induction verbatimLines? cs generalizing s with
  | case1 | case4 | case6 => cases h
  | case2 cs => exact shut_closing (by decide) (Option.some.inj h)
  | case3 cs ih =>
    obtain ⟨s, rfl, hread⟩ := exists_of_bind h
    exact (ih hread).cons _
  | case5 c cs _ _ _ ih =>
    obtain ⟨s, rfl, hread⟩ := exists_of_bind h
    exact (ih hread).cons _

/-- A literal ends with a quote. -/
theorem shut_literal? (h : literal? cs = some (s, rest)) : Shut cs rest := by
  have hbreak : ∀ {cs : List Char}, Shut (dropBreak cs) rest → Shut cs rest := fun {cs} h => by
    obtain ⟨brk, hcs, -⟩ := exists_dropBreak cs
    rw [hcs]
    exact h.append brk
  unfold literal? at h
  split at h
  · exact (((hbreak (shut_escapedLinesWithin? h)).cons _).cons _).cons _
  · exact (((hbreak (shut_verbatimLines? h)).cons _).cons _).cons _
  · unfold lineLiteral? at h
    split at h
    · exact (shut_escapedWithin? h).cons _
    · exact (shut_verbatim? h).cons _
    · cases h

/-! ### Values -/

/-- A run has no characters but those of a run, and the blank in front of a time. -/
theorem not_mem_run (hrun : isRun c = false) (hblank : c ≠ ' ') (cs : List Char) :
    c ∉ (run cs).1 := by
  have hnot : ∀ ds : List Char, c ∉ ds.takeWhile isRun := fun ds hmem =>
    absurd ((span_stops isRun ds).1 _ hmem) (by simp [hrun])
  unfold run
  dsimp only
  split
  · split
    · rename_i hdate
      simp only [List.mem_append, List.mem_cons, not_or]
      refine ⟨hnot cs, hblank, fun he => ?_, hnot _⟩
      rw [← he] at hdate
      simp [isRun, isBare, Char.isAlphanum, hdate.2] at hrun
    · exact hnot cs
  · exact hnot cs

theorem shut_spelling {layout : Layout} {depth : Nat} {spelling : List Char} {v : Scalar}
    (h : Legible layout depth (.scalar spelling v)) : Shut spelling [] := by
  rw [Legible] at h
  have hread := h [] endsValue_nil
  rw [List.append_nil] at hread
  unfold scalar? at hread
  split at hread
  · obtain ⟨⟨s, left⟩, hliteral, he⟩ := Option.bind_eq_some_iff.1 hread
    obtain ⟨-, rfl⟩ := Prod.mk.inj (Option.some.inj he)
    exact shut_literal? hliteral
  · obtain ⟨⟨s, left⟩, hliteral, he⟩ := Option.bind_eq_some_iff.1 hread
    obtain ⟨-, rfl⟩ := Prod.mk.inj (Option.some.inj he)
    exact shut_literal? hliteral
  · have hnot := not_mem_run (c := '\n') (by decide) (by decide) spelling
    generalize run spelling = taken at hread hnot
    obtain ⟨text, left⟩ := taken
    obtain ⟨w, hw, he⟩ := Option.bind_eq_some_iff.1 hread
    obtain ⟨hnode, -⟩ := Prod.mk.inj (Option.some.inj he)
    obtain ⟨rfl, -⟩ := Node.scalar.inj hnode
    refine Shut.of_forall (fun hnil => ?_) hnot
    rw [hnil, scalarOfRun?_nil] at hw
    cases hw

/-- **A value does not end with a line break.** -/
theorem shut_text {layout : Layout} {depth : Nat} {node : Node} (h : Legible layout depth node) :
    Shut node.text [] := by
  cases node with
  | scalar spelling v =>
    rw [Node.text]
    exact shut_spelling h
  | array items comma tail => exact ⟨_, ']', by rw [Node.text, ← List.cons_append], by decide⟩
  | table fields comma tail => exact ⟨_, '}', by rw [Node.text, ← List.cons_append], by decide⟩

end Toml
end LintWorkspace
