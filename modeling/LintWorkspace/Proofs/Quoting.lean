/-
# A quoted string is read back

`quote` picks one of five ways to write a string; whichever it picks, the literal is read as
that string (`literal?_quote`).  With escapes every string can be written, on one line or on
several, so the choice matters only for the two ways without escapes: they are picked for
strings that hold no controls, and no quotes that would close them.

In triple quotes, up to two quotes stand unescaped in a row.  Where they end the string they
run into the closing ones, so that the reader takes all of them at once; the induction over
the string therefore stops before its last quotes, not behind them.

So the value that writes a string is legible (`legible_ofString`).
-/

import LintWorkspace.Proofs.Legible
import LintWorkspace.Ruleset.Edit

namespace LintWorkspace
namespace Toml

variable {c q : Char} {s e : List Char} {n k : Nat}

/-! ### Escapes -/

theorem escapeOf?_lt (h : escapeOf? c = some e) : c.toNat < 128 := by
  unfold escapeOf? at h
  split at h
  · next hc => subst hc; decide
  split at h
  · next hc => subst hc; decide
  split at h
  · next hc => subst hc; decide
  split at h
  · next hc => subst hc; decide
  split at h
  · next hc => subst hc; decide
  split at h
  · next hc => subst hc; decide
  split at h
  · next hc =>
    rw [isControl, Bool.or_eq_true] at hc
    rcases hc with hc | hc
    · have : c.toNat < 0x20 := by simp at hc; exact hc.1.1
      omega
    · have : c.toNat = 0x7F := by simpa using hc
      omega
  · simp at h

/-- An escape names its character, and does not join lines. -/
theorem escape?_escapeOf? (h : escapeOf? c = some e) :
    ∃ d e', e = '\\' :: d :: e' ∧ Spells escape? Anything (d :: e') c ∧
      isSpace d = false ∧ d ≠ '\n' ∧ d ≠ '\r' := by
  have hall : ∀ n < 128, ∀ e, escapeOf? (Char.ofNat n) = some e →
      e.head? = some '\\' ∧ escape? e.tail = some (Char.ofNat n, []) := by
    decide +kernel
  obtain ⟨hhead, htail⟩ := hall c.toNat (escapeOf?_lt h) e (by rwa [Char.ofNat_toNat])
  rw [Char.ofNat_toNat] at htail
  obtain ⟨e', rfl⟩ := List.head?_eq_some_iff.1 hhead
  obtain ⟨d, text, hcs, hspells, hblank⟩ := exists_spells_escape? htail
  rw [List.append_nil] at hcs
  exact ⟨d, text, by rw [← hcs]; rfl, hspells, hblank⟩

/-- An escape stays on its line. -/
theorem of_mem_escapeOf? (h : escapeOf? c = some e) : ∀ d ∈ e, d ≠ '\n' ∧ d ≠ '\r' := by
  have hall : ∀ n < 128, (escapeOf? (Char.ofNat n)).all (fun e =>
      e.all fun d => d ≠ '\n' ∧ d ≠ '\r') = true := by
    decide +kernel
  have hstays := hall c.toNat (escapeOf?_lt h)
  rw [Char.ofNat_toNat, h, Option.all_some, List.all_eq_true] at hstays
  exact fun d hd => of_decide_eq_true (hstays d hd)

/-- What is no control may stand in a literal as it is, where a line break may. -/
theorem plain_of_isControl (h : isControl c = false) : isPlain c = true ∨ c = '\n' := by
  by_cases hline : c = '\n'
  · exact Or.inr hline
  by_cases htab : c = '\t'
  · exact Or.inl (by rw [htab]; rfl)
  simp only [isControl, hline, htab, ne_eq, not_false_eq_true, decide_true, Bool.and_true,
    Bool.or_eq_false_iff, decide_eq_false_iff_not] at h
  refine Or.inl ?_
  simp only [isPlain, Bool.or_eq_true, Bool.and_eq_true, decide_eq_true_eq]
  exact Or.inr ⟨by omega, h.2⟩

/-- What needs no escape may stand in a literal as it is. -/
theorem plain_of_escapeOf? (h : escapeOf? c = none) :
    isPlain c = true ∧ c ≠ '\\' ∧ c ≠ '\n' ∧ c ≠ '\r' := by
  unfold escapeOf? at h
  split at h
  · simp at h
  split at h
  · simp at h
  split at h
  · simp at h
  next hline =>
  split at h
  · simp at h
  split at h
  · simp at h
  next hreturn =>
  split at h
  · simp at h
  next hslash =>
  split at h
  · simp at h
  next hcontrol =>
  exact ⟨(plain_of_isControl (by simpa using hcontrol)).resolve_right hline, hslash, hline, hreturn⟩

/-! ### On one line -/

/-- A string with escapes is read back on one line. -/
theorem escapedWithin?_escaped (h : (escaped false k s).length < n) :
    escapedWithin? n (escaped false k s ++ ['"']) = some (s, []) := by
  induction s generalizing n k with
  | nil =>
    obtain ⟨n, rfl⟩ : ∃ n', n = n' + 1 := ⟨n - 1, by simp [escaped] at h; omega⟩
    rfl
  | cons c s ih =>
    obtain ⟨n, rfl⟩ : ∃ n', n = n' + 1 := ⟨n - 1, by omega⟩
    rw [escaped] at h ⊢
    simp only [Bool.false_and, Bool.false_eq_true, if_false] at h ⊢
    split
    next hc =>
      subst hc
      rw [if_pos rfl, List.length_cons, List.length_cons] at h
      simp [escapedWithin?, escape?, ih (n := n) (k := 0) (by omega)]
    next hc =>
      rw [if_neg hc] at h
      cases hesc : escapeOf? c with
      | some e =>
        obtain ⟨d, e', rfl, hspells, -⟩ := escape?_escapeOf? hesc
        rw [hesc, List.length_append, List.length_cons, List.length_cons] at h
        have he := hspells (escaped false 0 s ++ ['"']) trivial
        rw [List.cons_append] at he
        simp [escapedWithin?, he, ih (n := n) (k := 0) (by omega)]
      | none =>
        obtain ⟨hplain, hslash, -⟩ := plain_of_escapeOf? hesc
        rw [hesc, List.length_cons] at h
        rw [List.cons_append, escapedWithin?]
        · simp [hplain, ih (n := n) (k := 0) (by omega)]
        · exact hc
        · exact hslash

/-- A string without escapes is read back on one line. -/
theorem verbatim?_append (h : ∀ c ∈ s, isPlain c = true ∧ c ≠ '\'') :
    verbatim? (s ++ ['\'']) = some (s, []) := by
  induction s with
  | nil => rfl
  | cons c s ih =>
    obtain ⟨⟨hplain, hquote⟩, hs⟩ := List.forall_mem_cons.1 h
    rw [List.cons_append, verbatim?]
    · simp [hplain, ih hs]
    · exact hquote

/-! ### On several lines -/

theorem replicate_append_three (q : Char) (k : Nat) :
    List.replicate k q ++ [q, q, q] = q :: q :: q :: List.replicate k q := by
  have hthree : [q, q, q] = List.replicate 3 q := rfl
  rw [hthree, List.replicate_append_replicate]
  rfl

/-- Up to two quotes that end a string run into the closing ones. -/
theorem closing_replicate (q : Char) (hk : k ≤ 2) :
    closing q (q :: q :: q :: List.replicate k q) = (List.replicate k q, []) := by
  obtain rfl | rfl | rfl : k = 0 ∨ k = 1 ∨ k = 2 := by omega
  all_goals simp [closing]

/-- A string with escapes starts with a quote only if it holds one there, with less than two
before it. -/
theorem of_head?_escaped {rest : List Char}
    (h : (escaped true k (c :: s) ++ rest).head? = some '"') : c = '"' ∧ k < 2 := by
  rw [escaped] at h
  split at h
  next hc =>
    split at h
    next hk => exact ⟨hc, by simpa using hk⟩
    next => simp at h
  next hc =>
    split at h
    next => exact absurd (by simpa using h) hc
    next =>
      split at h
      next hesc =>
        obtain ⟨d, e', rfl, -⟩ := escape?_escapeOf? hesc
        simp at h
      next => exact absurd (by simpa using h) hc

/-- Two quotes stand behind another one only where the string ends. -/
theorem exists_replicate_of_quotes {ds : List Char} (hk : 0 < k)
    (h : escaped true k s ++ ['"', '"', '"'] = '"' :: '"' :: ds) (hle : k ≤ 2) :
    ∃ j, s = List.replicate j '"' ∧ j + k ≤ 2 := by
  cases s with
  | nil => exact ⟨0, rfl, by omega⟩
  | cons c s =>
    obtain ⟨rfl, hlt⟩ := of_head?_escaped (by rw [h]; rfl)
    cases s with
    | nil => exact ⟨1, rfl, by omega⟩
    | cons d s =>
      have htail : escaped true (k + 1) (d :: s) ++ ['"', '"', '"'] = '"' :: ds := by
        simpa [escaped, hlt] using h
      have := of_head?_escaped (by rw [htail]; rfl)
      omega

theorem escaped_replicate {j : Nat} (h : j + k ≤ 2) :
    escaped true k (List.replicate j '"') = List.replicate j '"' := by
  induction j generalizing k with
  | zero => rfl
  | succ j ih =>
    have hlt : k < 2 := by omega
    simp [List.replicate_succ, escaped, hlt, ih (k := k + 1) (by omega)]

/-- A string with escapes is read back on several lines. -/
theorem escapedLinesWithin?_escaped (hk : k ≤ 2) (h : (escaped true k s).length < n) :
    escapedLinesWithin? n (escaped true k s ++ ['"', '"', '"']) = some (s, []) := by
  induction s generalizing n k with
  | nil =>
    obtain ⟨n, rfl⟩ : ∃ n', n = n' + 1 := ⟨n - 1, by omega⟩
    exact congrArg some (closing_replicate '"' (Nat.zero_le 2))
  | cons c s ih =>
    obtain ⟨n, rfl⟩ : ∃ n', n = n' + 1 := ⟨n - 1, by omega⟩
    by_cases hend : ∃ j, c :: s = List.replicate j '"' ∧ j + k ≤ 2
    · obtain ⟨j, hj, hle⟩ := hend
      rw [hj, escaped_replicate hle, replicate_append_three]
      exact congrArg some (closing_replicate '"' (by omega))
    rw [escaped] at h ⊢
    by_cases hc : c = '"'
    · subst hc
      by_cases hlt : k < 2
      · simp only [if_true, Bool.true_and, decide_eq_true hlt, List.length_cons] at h ⊢
        have hread := ih (n := n) (k := k + 1) (by omega) (by omega)
        rw [List.cons_append, escapedLinesWithin?]
        · simp [isPlain, hread]
        · rintro ds - hds
          obtain ⟨j, rfl, hle⟩ := exists_replicate_of_quotes (by omega) hds (by omega)
          exact hend ⟨j + 1, rfl, by omega⟩
        · decide
        · exact fun ds he => absurd he (by decide)
      · simp only [if_true, Bool.true_and, decide_eq_false hlt, Bool.false_eq_true, if_false,
          List.length_cons] at h ⊢
        have hread := ih (n := n) (k := 0) (by omega) (by omega)
        have hjoin := @afterJoin?_eq_none (escaped true 0 s ++ ['"', '"', '"']) '"'
          (by decide)
        simp [escapedLinesWithin?, hjoin, escape?, hread]
    rw [if_neg hc] at h ⊢
    by_cases hline : c = '\n'
    · subst hline
      simp only [Bool.true_and, decide_true, if_true, List.length_cons] at h ⊢
      have hread := ih (n := n) (k := 0) (by omega) (by omega)
      simp [escapedLinesWithin?, hread]
    simp only [Bool.true_and, decide_eq_false hline, Bool.false_eq_true, if_false] at h ⊢
    cases hesc : escapeOf? c with
    | some e =>
      obtain ⟨d, e', rfl, hspells, hblank⟩ := escape?_escapeOf? hesc
      rw [hesc] at h
      simp only [List.length_append, List.length_cons] at h
      have he := hspells (escaped true 0 s ++ ['"', '"', '"']) trivial
      have hread := ih (n := n) (k := 0) (by omega) (by omega)
      rw [List.cons_append] at he
      simp [escapedLinesWithin?, afterJoin?_eq_none hblank, he, hread]
    | none =>
      obtain ⟨hplain, hslash, -, hreturn⟩ := plain_of_escapeOf? hesc
      rw [hesc] at h
      simp only [List.length_cons] at h
      have hread := ih (n := n) (k := 0) (by omega) (by omega)
      rw [List.cons_append, escapedLinesWithin?]
      · simp [hplain, hread]
      · exact fun ds he => absurd he hc
      · exact hslash
      · exact fun ds he => absurd he hreturn

theorem le_longestRun (q : Char) (k : Nat) (s : List Char) : k ≤ longestRun q k s := by
  induction s generalizing k with
  | nil => exact Nat.le_refl k
  | cons c s ih =>
    rw [longestRun]
    split
    · exact Nat.le_of_succ_le (ih (k + 1))
    · exact Nat.le_max_left _ _

/-- A string without escapes is read back on several lines. -/
theorem verbatimLines?_append (hplain : ∀ c ∈ s, isPlain c = true ∨ c = '\n')
    (hrun : longestRun '\'' k s ≤ 2) :
    verbatimLines? (s ++ ['\'', '\'', '\'']) = some (s, []) := by
  induction s generalizing k with
  | nil => exact congrArg some (closing_replicate '\'' (Nat.zero_le 2))
  | cons c s ih =>
    by_cases hend : ∃ j, c :: s = List.replicate j '\'' ∧ j ≤ 2
    · obtain ⟨j, hj, hle⟩ := hend
      rw [hj, replicate_append_three]
      exact congrArg some (closing_replicate '\'' hle)
    obtain ⟨hc, hs⟩ := List.forall_mem_cons.1 hplain
    have hread : verbatimLines? (s ++ ['\'', '\'', '\'']) = some (s, []) := by
      rw [longestRun] at hrun
      split at hrun
      · exact ih hs hrun
      · exact ih hs (Nat.le_trans (Nat.le_max_right _ _) hrun)
    have hreturn : c ≠ '\r' := by
      rintro rfl
      exact absurd hc (by decide)
    rw [List.cons_append, verbatimLines?]
    · rw [if_pos (by simpa using hc), hread]
      rfl
    · rintro ds rfl hds
      -- three quotes in a row are more than the string holds, or end it
      rcases s with _ | ⟨d, _ | ⟨d', s⟩⟩
      · exact hend ⟨1, rfl, by omega⟩
      · obtain ⟨rfl, -⟩ := List.cons.inj hds
        exact hend ⟨2, rfl, by omega⟩
      · obtain ⟨rfl, htail⟩ := List.cons.inj hds
        obtain ⟨hd', -⟩ := List.cons.inj htail
        have := le_longestRun '\'' (k + 1 + 1 + 1) s
        rw [longestRun, if_pos rfl, longestRun, if_pos rfl, longestRun, if_pos hd'] at hrun
        omega
    · exact hreturn

/-! ### The literal of a string -/

/-- Which line breaks a string with escapes may hold. -/
theorem of_mem_escaped {lines : Bool} {d : Char} (h : d ∈ escaped lines k s) :
    d ≠ '\r' ∧ (d = '\n' → lines = true ∧ '\n' ∈ s) := by
  induction s generalizing k with
  | nil => simp [escaped] at h
  | cons c s ih =>
    have hmore : ∀ {j}, d ∈ escaped lines j s →
        d ≠ '\r' ∧ (d = '\n' → lines = true ∧ '\n' ∈ c :: s) :=
      fun hd => ⟨(ih hd).1, fun he => ⟨((ih hd).2 he).1, List.mem_cons_of_mem _ ((ih hd).2 he).2⟩⟩
    rw [escaped] at h
    split at h
    next hc =>
      subst hc
      split at h
      · rcases List.mem_cons.1 h with rfl | h
        · simp
        · exact hmore h
      · rcases List.mem_cons.1 h with rfl | h
        · simp
        · rcases List.mem_cons.1 h with rfl | h
          · simp
          · exact hmore h
    split at h
    next hlines =>
      obtain ⟨hmulti, rfl⟩ : lines = true ∧ c = '\n' := by simpa using hlines
      rcases List.mem_cons.1 h with rfl | h
      · simp [hmulti]
      · exact hmore h
    split at h
    next hesc =>
      rcases List.mem_append.1 h with h | h
      · have := of_mem_escapeOf? hesc d h
        exact ⟨this.2, fun he => absurd he this.1⟩
      · exact hmore h
    next hesc =>
      obtain ⟨-, -, hline, hreturn⟩ := plain_of_escapeOf? hesc
      rcases List.mem_cons.1 h with rfl | h
      · exact ⟨hreturn, fun he => absurd he hline⟩
      · exact hmore h

/-- The line break that is put before a body with line breaks is dropped again. -/
theorem dropBreak_onNextLine {body rest : List Char}
    (h : ∀ d ∈ body ++ rest, d ≠ '\r' ∧ (d = '\n' → '\n' ∈ s)) :
    dropBreak (onNextLine s body ++ rest) = body ++ rest := by
  rw [onNextLine]
  by_cases hline : '\n' ∈ s
  · rw [if_pos (by simpa using hline)]
    rfl
  · rw [if_neg (by simpa using hline), dropBreak]
    have hnone : afterBreak? (body ++ rest) = none := by
      unfold afterBreak?
      split
      next he => exact absurd ((h '\n' (by rw [he]; simp)).2 rfl) hline
      next he => exact absurd rfl (h '\r' (by rw [he]; simp)).1
      next => rfl
    rw [hnone, Option.getD_none]

theorem length_le_onNextLine (s body : List Char) : body.length ≤ (onNextLine s body).length := by
  rw [onNextLine]
  split <;> simp

theorem literal?_lines (s : List Char) :
    literal? ('"' :: '"' :: '"' :: (onNextLine s (escaped true 0 s) ++ ['"', '"', '"'])) =
      some (s, []) := by
  rw [literal?, dropBreak_onNextLine]
  · refine escapedLinesWithin?_escaped (Nat.zero_le 2) ?_
    have := length_le_onNextLine s (escaped true 0 s)
    rw [List.length_append]
    simp only [List.length_cons]
    omega
  · intro d hd
    rcases List.mem_append.1 hd with hd | hd
    · exact ⟨(of_mem_escaped hd).1, fun he => ((of_mem_escaped hd).2 he).2⟩
    · obtain rfl : d = '"' := by simpa using hd
      simp

theorem literal?_verbatimLines (hplain : ∀ c ∈ s, isPlain c = true ∨ c = '\n')
    (hrun : longestRun '\'' 0 s ≤ 2) :
    literal? ('\'' :: '\'' :: '\'' :: (onNextLine s s ++ ['\'', '\'', '\''])) = some (s, []) := by
  rw [literal?, dropBreak_onNextLine]
  · exact verbatimLines?_append hplain hrun
  · intro d hd
    rcases List.mem_append.1 hd with hd | hd
    · refine ⟨?_, fun he => he ▸ hd⟩
      rintro rfl
      exact absurd (hplain _ hd) (by decide)
    · obtain rfl : d = '\'' := by simpa using hd
      simp

/-- A string with escapes starts with no quote on one line. -/
theorem head?_escaped_ne : (escaped false k (c :: s)).head? ≠ some '"' := by
  rw [escaped]
  split
  · simp
  next hc =>
    split
    · simpa using hc
    · split
      next hesc =>
        obtain ⟨d, e', rfl, -⟩ := escape?_escapeOf? hesc
        simp
      next => simpa using hc

theorem literal?_line (s : List Char) :
    literal? ('"' :: (escaped false 0 s ++ ['"'])) = some (s, []) := by
  rw [literal?]
  · exact escapedWithin?_escaped (by simp)
  · rintro ds he
    obtain ⟨-, htail⟩ := List.cons.inj he
    cases s with
    | nil => simp [escaped] at htail
    | cons c s =>
      have hhead : (escaped false 0 (c :: s) ++ ['"']).head? = some '"' := by rw [htail]; rfl
      cases hbody : escaped false 0 (c :: s) with
      | nil =>
        rw [hbody] at htail
        simp at htail
      | cons d body =>
        rw [hbody] at hhead
        exact head?_escaped_ne (k := 0) (c := c) (s := s) (by rw [hbody]; exact hhead)
  · simp

theorem literal?_verbatim (h : ∀ c ∈ s, isPlain c = true ∧ c ≠ '\'') :
    literal? ('\'' :: (s ++ ['\''])) = some (s, []) := by
  rw [literal?]
  · exact verbatim?_append h
  · simp
  · rintro ds he
    obtain ⟨-, htail⟩ := List.cons.inj he
    cases s with
    | nil => simp at htail
    | cons c s => exact (h c List.mem_cons_self).2 (List.cons.inj htail).1

theorem ne_of_longestRun_eq_zero (h : longestRun q k s = 0) : ∀ c ∈ s, c ≠ q := by
  induction s generalizing k with
  | nil => simp
  | cons c s ih =>
    rw [longestRun] at h
    split at h
    next =>
      have := le_longestRun q (k + 1) s
      omega
    next hc =>
      have := Nat.le_max_right k (longestRun q 0 s)
      exact List.forall_mem_cons.2 ⟨hc, ih (k := 0) (by omega)⟩

/-- The ways a string may be written, each with what it takes. -/
inductive Quoted (s : List Char) : List Char → Prop
  | line : Quoted s ('"' :: (escaped false 0 s ++ ['"']))
  | verbatim (h : ∀ c ∈ s, isPlain c = true ∧ c ≠ '\'') : Quoted s ('\'' :: (s ++ ['\'']))
  | lines : Quoted s ('"' :: '"' :: '"' :: (onNextLine s (escaped true 0 s) ++ ['"', '"', '"']))
  | verbatimLines (h : ∀ c ∈ s, isPlain c = true ∨ c = '\n') (hrun : longestRun '\'' 0 s ≤ 2) :
    Quoted s ('\'' :: '\'' :: '\'' :: (onNextLine s s ++ ['\'', '\'', '\'']))

theorem quoted_quote (s : List Char) : Quoted s (quote s) := by
  have hplain (h : (!s.any isControl) = true) : ∀ c ∈ s, isPlain c = true ∨ c = '\n' := by
    intro c hc
    refine plain_of_isControl ?_
    simpa using List.any_eq_false.1 (by simpa only [Bool.not_eq_true'] using h) c hc
  unfold quote
  dsimp only
  split
  · exact .line
  split
  next h =>
    simp only [Bool.and_eq_true, decide_eq_true_eq] at h
    obtain ⟨⟨hcontrol, hrun⟩, hline⟩ := h
    refine .verbatim fun c hc => ⟨(hplain hcontrol c hc).resolve_right ?_,
      ne_of_longestRun_eq_zero hrun c hc⟩
    rintro rfl
    simp [hc] at hline
  split
  · exact .lines
  split
  next h =>
    simp only [Bool.and_eq_true, decide_eq_true_eq] at h
    exact .verbatimLines (hplain h.1) h.2
  split
  · exact .lines
  · exact .line

/-- **A quoted string is read as that string.** -/
theorem literal?_quote (s : List Char) : literal? (quote s) = some (s, []) := by
  have hquoted := quoted_quote s
  generalize quote s = text at hquoted ⊢
  cases hquoted with
  | line => exact literal?_line s
  | verbatim h => exact literal?_verbatim h
  | lines => exact literal?_lines s
  | verbatimLines h hrun => exact literal?_verbatimLines h hrun

theorem scalar?_quote (layout : Layout) (s : String) :
    scalar? layout (quote s.toList) = some (.ofString s, []) := by
  have hread := literal?_quote s.toList
  have hquoted := quoted_quote s.toList
  have hconsumed : consumed (quote s.toList) [] = quote s.toList := List.take_length
  rw [Node.ofString]
  generalize quote s.toList = text at hread hquoted hconsumed ⊢
  cases hquoted <;> simp [scalar?, hread, hconsumed]

/-- The value that writes a string is legible. -/
theorem legible_ofString (layout : Layout) (depth : Nat) (s : String) :
    Legible layout depth (.ofString s) :=
  (legible_of_scalar? depth (scalar?_quote layout s)).2

end Toml
end LintWorkspace
