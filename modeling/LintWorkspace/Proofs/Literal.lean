/-
# String literals are read back

A reader takes the head of a text.  What it took spells what it read: put in front of
another text, it is read the same again (`Spells`), unless that text runs into it.

| what was taken | is read the same in front of |
| --- | --- |
| an escape, a literal on its line | anything |
| a literal in three quotes | what does not start with the quote |
| a literal of any kind | what does not start with a quote |

The last line differs from the first because two quotes alone are a literal, and three
open another one.
-/

import LintWorkspace.Toml.Literal

namespace LintWorkspace
namespace Toml

/-- A text spells something for a reader: in front of any text that ends it, it is what the
reader takes. -/
def Spells {α : Type} (read : Reader α) (ends : List Char → Prop) (text : List Char) (x : α) :
    Prop :=
  ∀ rest, ends rest → read (text ++ rest) = some (x, rest)

/-- Any text may follow. -/
def Anything (_ : List Char) : Prop := True

/-- A text does not start with a character. -/
def NotAt (c : Char) (rest : List Char) : Prop := rest.head? ≠ some c

/-- A text does not start with a quote. -/
def NoQuote (rest : List Char) : Prop := NotAt '"' rest ∧ NotAt '\'' rest

/-- A text does not start with a character of a kind. -/
def Stops (p : Char → Bool) (rest : List Char) : Prop := ∀ c ∈ rest.head?, p c = false

variable {cs rest s : List Char} {c : Char} {n : Nat}

/-- Characters of a kind are taken up to where they stop. -/
theorem span_append {p : Char → Bool} {g : List Char} (hg : ∀ c ∈ g, p c = true)
    (hrest : Stops p rest) : (g ++ rest).takeWhile p = g ∧ (g ++ rest).dropWhile p = rest := by
  have hstop : rest.takeWhile p = [] ∧ rest.dropWhile p = rest := by
    cases rest with
    | nil => exact ⟨rfl, rfl⟩
    | cons c rest => simp [hrest c rfl]
  rw [List.takeWhile_append_of_pos hg, List.dropWhile_append_of_pos hg, hstop.1, hstop.2]
  exact ⟨List.append_nil g, rfl⟩

/-- What was taken of a kind is of that kind, and stops there. -/
theorem span_stops (p : Char → Bool) (cs : List Char) :
    (∀ c ∈ cs.takeWhile p, p c = true) ∧ Stops p (cs.dropWhile p) := by
  refine ⟨fun c hc => List.all_eq_true.1 List.all_takeWhile c hc, fun c hc => ?_⟩
  have := List.head?_dropWhile_not p cs
  rw [Option.mem_def.1 hc] at this
  simpa using this

/-! ### Escapes -/

theorem exists_spells_hexChar? {count : Nat} (h : hexChar? count cs = some (c, rest)) :
    ∃ text, cs = text ++ rest ∧ Spells (hexChar? count) Anything text c := by
  unfold hexChar? at h
  by_cases hshort : (cs.take count).length < count
  · rw [if_pos hshort] at h
    simp at h
  · rw [if_neg hshort] at h
    have hlength : (cs.take count).length = count := by
      have := List.length_take_le count cs
      omega
    obtain ⟨values, hvalues, h⟩ := Option.bind_eq_some_iff.1 h
    obtain ⟨d, hd, he⟩ := Option.bind_eq_some_iff.1 h
    obtain ⟨rfl, rfl⟩ := Prod.mk.inj (Option.some.inj he)
    refine ⟨cs.take count, (List.take_append_drop count cs).symm, fun rest' _ => ?_⟩
    unfold hexChar?
    simp [List.take_left' hlength, List.drop_left' hlength, hlength, hvalues, hd]

/-- What an escape takes is read back, and starts with no blank or line break. -/
theorem exists_spells_escape? (h : escape? cs = some (c, rest)) :
    ∃ d text, cs = d :: text ++ rest ∧ Spells escape? Anything (d :: text) c ∧
      isSpace d = false ∧ d ≠ '\n' ∧ d ≠ '\r' := by
  have hhex : ∀ {d : Char} {count : Nat} {ds : List Char},
      (∀ ds, escape? (d :: ds) = hexChar? count ds) → hexChar? count ds = some (c, rest) →
      (isSpace d = false ∧ d ≠ '\n' ∧ d ≠ '\r') →
      ∃ e text, d :: ds = e :: text ++ rest ∧ Spells escape? Anything (e :: text) c ∧
        isSpace e = false ∧ e ≠ '\n' ∧ e ≠ '\r' := by
    intro d count ds hd hds hblank
    obtain ⟨text, rfl, hspells⟩ := exists_spells_hexChar? hds
    exact ⟨d, text, rfl, fun rest' h => (hd _).trans (hspells rest' h), hblank⟩
  unfold escape? at h
  split at h
  all_goals first
    | exact hhex (fun _ => rfl) h (by decide)
    | (obtain ⟨rfl, rfl⟩ := Prod.mk.inj (Option.some.inj h)
       exact ⟨_, [], rfl, fun _ _ => rfl, by decide⟩)
    | simp at h

/-! ### Literals on a line -/

/-- What one more step has to do with a character: the rest of the literal is read in one
step less. -/
theorem exists_of_bind {read : Reader (List Char)} (h : (do
      let (s', rest) ← read cs
      some (c :: s', rest)) = some (s, rest)) : ∃ s', s = c :: s' ∧ read cs = some (s', rest) := by
  obtain ⟨⟨s', rest'⟩, hread, he⟩ := Option.bind_eq_some_iff.1 h
  obtain ⟨rfl, rfl⟩ := Prod.mk.inj (Option.some.inj he)
  exact ⟨s', rfl, hread⟩

/-- Steps that are enough for one more character are one step and enough for the others. -/
theorem exists_step {k m : Nat} (h : k + 1 ≤ m) : ∃ m', m = m' + 1 ∧ k ≤ m' :=
  ⟨m - 1, by omega, by omega⟩

/-- A literal with escapes is read back, by as many steps as it has characters. -/
theorem exists_spells_escapedWithin? (h : escapedWithin? n cs = some (s, rest)) :
    ∃ text, text ≠ [] ∧ cs = text ++ rest ∧ (text.head? = some '"' → text = ['"']) ∧
      ∀ m, text.length ≤ m → Spells (escapedWithin? m) Anything text s := by
  fun_induction escapedWithin? n cs generalizing s with
  | case1 | case2 | case6 => simp at h
  | case3 n cs =>
    obtain ⟨rfl, rfl⟩ := Prod.mk.inj (Option.some.inj h)
    refine ⟨['"'], by simp, rfl, fun _ => rfl, fun m hm rest' _ => ?_⟩
    obtain ⟨m, rfl, -⟩ := exists_step hm
    rfl
  | case4 n cs ih =>
    obtain ⟨⟨c, cs'⟩, hescape, h⟩ := Option.bind_eq_some_iff.1 h
    obtain ⟨s, rfl, hread⟩ := exists_of_bind h
    obtain ⟨d, e, rfl, hspells, -⟩ := exists_spells_escape? hescape
    obtain ⟨text, -, rfl, -, htext⟩ := ih _ hread
    refine ⟨'\\' :: (d :: e ++ text), by simp, by simp, by simp, fun m hm rest' _ => ?_⟩
    rw [List.length_cons, List.length_append] at hm
    obtain ⟨m, rfl, hm'⟩ := exists_step hm
    have he := hspells (text ++ rest') trivial
    have hs := htext m (by omega) rest' trivial
    simp only [List.cons_append, List.append_assoc] at he ⊢
    simp [escapedWithin?, he, hs]
  | case5 n c cs hquote hslash hplain ih =>
    obtain ⟨s, rfl, hread⟩ := exists_of_bind h
    obtain ⟨text, -, rfl, -, htext⟩ := ih hread
    refine ⟨c :: text, by simp, rfl, fun h => absurd (Option.some.inj h) hquote,
      fun m hm rest' _ => ?_⟩
    obtain ⟨m, rfl, hm'⟩ := exists_step hm
    rw [List.cons_append, escapedWithin?]
    · simp [hplain, htext m hm' rest' trivial]
    · exact hquote
    · exact hslash

/-- A literal without escapes is read back. -/
theorem exists_spells_verbatim? (h : verbatim? cs = some (s, rest)) :
    ∃ text, text ≠ [] ∧ cs = text ++ rest ∧ (text.head? = some '\'' → text = ['\'']) ∧
      Spells verbatim? Anything text s := by
  fun_induction verbatim? cs generalizing s with
  | case1 | case4 => simp at h
  | case2 cs =>
    obtain ⟨rfl, rfl⟩ := Prod.mk.inj (Option.some.inj h)
    exact ⟨['\''], by simp, rfl, fun _ => rfl, fun rest' _ => rfl⟩
  | case3 c cs hquote hplain ih =>
    obtain ⟨s, rfl, hread⟩ := exists_of_bind h
    obtain ⟨text, -, rfl, -, htext⟩ := ih hread
    refine ⟨c :: text, by simp, rfl, fun h => absurd (Option.some.inj h) hquote, fun rest' _ => ?_⟩
    rw [List.cons_append, verbatim?]
    · simp [hplain, htext rest' trivial]
    · exact hquote

/-! ### Literals on several lines -/

/-- The quotes that close a literal in three quotes are read back. -/
theorem exists_spells_closing {q : Char} (h : closing q (q :: q :: q :: cs) = (s, rest)) :
    ∃ text, cs = text ++ rest ∧
      ∀ rest', NotAt q rest' → closing q (q :: q :: q :: (text ++ rest')) = (s, rest') := by
  have hthree : ∀ xs : List Char, ((q :: q :: q :: xs).takeWhile (· = q)).length =
      (xs.takeWhile (· = q)).length + 3 := fun xs => by simp
  simp only [closing, hthree, Nat.add_sub_cancel, Prod.mk.injEq] at h
  generalize hkept : min (cs.takeWhile (· = q)).length 2 = kept at h
  obtain ⟨rfl, rfl⟩ := h
  refine ⟨List.replicate kept q, ?_, fun rest' hrest => ?_⟩
  · have hrun : cs.takeWhile (· = q) = List.replicate (cs.takeWhile (· = q)).length q :=
      List.eq_replicate_of_mem fun c hc => by simpa using (span_stops (· = q) cs).1 c hc
    have htake : cs.take kept = List.replicate kept q := by
      conv => lhs; rw [← List.takeWhile_append_dropWhile (p := (· = q)) (l := cs)]
      rw [List.take_append_of_le_length (by omega), hrun, List.take_replicate]
      congr 1
      omega
    rw [← htake]
    exact (List.take_append_drop kept cs).symm
  · have hstop : Stops (· = q) rest' := fun c hc => by
      simpa using fun e : c = q => hrest (by rw [← e]; exact hc)
    have hquotes : ∀ c ∈ List.replicate kept q, decide (c = q) = true := fun c hc => by
      simpa using List.eq_of_mem_replicate hc
    have hrun := (span_append hquotes hstop).1
    simp only [closing, hthree, hrun, List.length_replicate, Nat.add_sub_cancel]
    have hmin : min kept 2 = kept := by omega
    simp [hmin]

/-- What may stand between a backslash at the end of a line and what it joins. -/
def isJoin (c : Char) : Bool := isSpace c || c = '\n' || c = '\r'

/-- A line break is read back. -/
theorem exists_afterBreak? (h : afterBreak? cs = some rest) :
    ∃ text, (text = ['\n'] ∨ text = ['\r', '\n']) ∧ cs = text ++ rest ∧
      ∀ rest', afterBreak? (text ++ rest') = some rest' := by
  unfold afterBreak? at h
  split at h
  · obtain rfl := Option.some.inj h
    exact ⟨['\n'], .inl rfl, rfl, fun _ => rfl⟩
  · obtain rfl := Option.some.inj h
    exact ⟨['\r', '\n'], .inr rfl, rfl, fun _ => rfl⟩
  · simp at h

/-- What a backslash at the end of a line joins is read back in front of another character. -/
theorem exists_afterJoin? (h : afterJoin? cs = some rest) :
    Stops isJoin rest ∧ ∃ text, cs = text ++ rest ∧
      ∀ rest', Stops isJoin rest' → afterJoin? (text ++ rest') = some rest' := by
  obtain ⟨after, hbreak, rfl⟩ := Option.map_eq_some_iff.1 h
  obtain ⟨brk, hkind, hcs, hbrk⟩ := exists_afterBreak? hbreak
  obtain ⟨hspaces, -⟩ := span_stops isSpace cs
  obtain ⟨hjoin, hstops⟩ := span_stops isJoin after
  refine ⟨hstops, cs.takeWhile isSpace ++ (brk ++ after.takeWhile isJoin), ?_, ?_⟩
  · have hafter : after.takeWhile isJoin ++ after.dropWhile isJoin = after :=
      List.takeWhile_append_dropWhile
    rw [List.append_assoc, List.append_assoc]
    change cs = cs.takeWhile isSpace ++ (brk ++ (after.takeWhile isJoin ++ after.dropWhile isJoin))
    rw [hafter, ← hcs]
    exact List.takeWhile_append_dropWhile.symm
  · intro rest' hrest'
    have hstart : Stops isSpace (brk ++ (after.takeWhile isJoin ++ rest')) := by
      rcases hkind with rfl | rfl <;> simp [Stops, isSpace]
    simp only [afterJoin?, spaces, List.append_assoc, (span_append hspaces hstart).2, hbrk,
      Option.map_some, Option.some.injEq]
    exact (span_append hjoin hrest').2

theorem afterJoin?_eq_none (h : isSpace c = false ∧ c ≠ '\n' ∧ c ≠ '\r') :
    afterJoin? (c :: cs) = none := by
  simp [afterJoin?, spaces, h, afterBreak?]

/-- A literal with escapes in three quotes is read back, by as many steps as it has
characters. -/
theorem exists_spells_escapedLinesWithin? (h : escapedLinesWithin? n cs = some (s, rest)) :
    ∃ text, 3 ≤ text.length ∧ cs = text ++ rest ∧
      ∀ m, text.length ≤ m → Spells (escapedLinesWithin? m) (NotAt '"') text s := by
  fun_induction escapedLinesWithin? n cs generalizing s with
  | case1 | case2 | case8 => simp at h
  | case3 n cs =>
    obtain ⟨text, rfl, htext⟩ := exists_spells_closing (Option.some.inj h)
    refine ⟨'"' :: '"' :: '"' :: text, by simp, rfl, fun m hm rest' hrest => ?_⟩
    obtain ⟨m, rfl, -⟩ := exists_step hm
    exact congrArg some (htext rest' hrest)
  | case4 n cs after hjoin ih =>
    obtain ⟨hstops, join, rfl, hjoins⟩ := exists_afterJoin? hjoin
    obtain ⟨text, hlength, rfl, htext⟩ := ih h
    refine ⟨'\\' :: (join ++ text), by simp; omega, by simp, fun m hm rest' hrest => ?_⟩
    rw [List.length_cons, List.length_append] at hm
    obtain ⟨m, rfl, hm'⟩ := exists_step hm
    have hstart : Stops isJoin (text ++ rest') := by
      cases text with
      | nil => simp at hlength
      | cons c text => exact hstops
    rw [List.cons_append, List.append_assoc, escapedLinesWithin?, hjoins _ hstart]
    exact htext m (by omega) rest' hrest
  | case5 n cs hjoin ih =>
    obtain ⟨⟨c, cs'⟩, hescape, h⟩ := Option.bind_eq_some_iff.1 h
    obtain ⟨s, rfl, hread⟩ := exists_of_bind h
    obtain ⟨d, e, rfl, hspells, hblank⟩ := exists_spells_escape? hescape
    obtain ⟨text, hlength, rfl, htext⟩ := ih _ hread
    refine ⟨'\\' :: (d :: e ++ text), by simp; omega, by simp, fun m hm rest' hrest => ?_⟩
    rw [List.length_cons, List.length_append] at hm
    obtain ⟨m, rfl, hm'⟩ := exists_step hm
    have he := hspells (text ++ rest') trivial
    have hs := htext m (by omega) rest' hrest
    simp only [List.cons_append, List.append_assoc] at he ⊢
    simp [escapedLinesWithin?, afterJoin?_eq_none hblank, he, hs]
  | case6 n cs ih =>
    obtain ⟨⟨s', rest'⟩, hread, he⟩ := Option.bind_eq_some_iff.1 h
    obtain ⟨rfl, rfl⟩ := Prod.mk.inj (Option.some.inj he)
    obtain ⟨text, hlength, rfl, htext⟩ := ih hread
    refine ⟨'\r' :: '\n' :: text, by simp; omega, rfl, fun m hm rest' hrest => ?_⟩
    rw [List.length_cons, List.length_cons] at hm
    obtain ⟨m, rfl, hm'⟩ := exists_step hm
    simp [escapedLinesWithin?, htext m (by omega) rest' hrest]
  | case7 n c cs hquote hslash hbreak hplain ih =>
    obtain ⟨s, rfl, hread⟩ := exists_of_bind h
    obtain ⟨text, hlength, rfl, htext⟩ := ih hread
    refine ⟨c :: text, by simp; omega, rfl, fun m hm rest' hrest => ?_⟩
    obtain ⟨m, rfl, hm'⟩ := exists_step hm
    match text, hlength with
    | a :: b :: text, _ =>
      rw [List.cons_append, escapedLinesWithin?]
      · rw [if_pos hplain, htext m hm' rest' hrest]
        rfl
      · rintro ds rfl hds
        obtain ⟨rfl, rfl, -⟩ : a = '"' ∧ b = '"' ∧ text ++ rest' = ds := by simpa using hds
        exact hquote (text ++ rest) rfl rfl
      · exact hslash
      · rintro ds rfl hds
        obtain ⟨rfl, -⟩ : a = '\n' ∧ b :: (text ++ rest') = ds := by simpa using hds
        exact hbreak (b :: (text ++ rest)) rfl rfl

/-- A literal without escapes in three quotes is read back. -/
theorem exists_spells_verbatimLines? (h : verbatimLines? cs = some (s, rest)) :
    ∃ text, 3 ≤ text.length ∧ cs = text ++ rest ∧
      Spells verbatimLines? (NotAt '\'') text s := by
  fun_induction verbatimLines? cs generalizing s with
  | case1 | case4 | case6 => simp at h
  | case2 cs =>
    obtain ⟨text, rfl, htext⟩ := exists_spells_closing (Option.some.inj h)
    refine ⟨'\'' :: '\'' :: '\'' :: text, by simp, rfl, fun rest' hrest => ?_⟩
    exact congrArg some (htext rest' hrest)
  | case3 cs ih =>
    obtain ⟨s, rfl, hread⟩ := exists_of_bind h
    obtain ⟨text, hlength, hcs, htext⟩ := ih hread
    cases text with
    | nil => simp at hlength
    | cons a text =>
      obtain ⟨rfl, rfl⟩ : '\n' = a ∧ cs = text ++ rest := by simpa using hcs
      refine ⟨'\r' :: '\n' :: text, by simp at hlength ⊢; omega, rfl, fun rest' hrest => ?_⟩
      have hs := htext rest' hrest
      rw [List.cons_append] at hs
      simp [verbatimLines?, hs]
  | case5 c cs hquote hreturn hplain ih =>
    obtain ⟨s, rfl, hread⟩ := exists_of_bind h
    obtain ⟨text, hlength, rfl, htext⟩ := ih hread
    refine ⟨c :: text, by simp; omega, rfl, fun rest' hrest => ?_⟩
    match text, hlength with
    | a :: b :: text, _ =>
      rw [List.cons_append, verbatimLines?]
      · rw [if_pos hplain, htext rest' hrest]
        rfl
      · rintro ds rfl hds
        obtain ⟨rfl, rfl, -⟩ : a = '\'' ∧ b = '\'' ∧ text ++ rest' = ds := by simpa using hds
        exact hquote (text ++ rest) rfl rfl
      · exact hreturn

/-! ### Literals of any kind -/

/-- The line break right after three opening quotes is read back. -/
theorem exists_dropBreak (cs : List Char) : ∃ brk, cs = brk ++ dropBreak cs ∧
    ∀ {text rest rest' : List Char}, 2 ≤ text.length → dropBreak cs = text ++ rest →
      dropBreak (brk ++ (text ++ rest')) = text ++ rest' := by
  unfold dropBreak
  cases hbreak : afterBreak? cs with
  | some after =>
    obtain ⟨brk, -, hcs, hbrk⟩ := exists_afterBreak? hbreak
    exact ⟨brk, hcs, fun _ _ => by simp [hbrk]⟩
  | none =>
    refine ⟨[], rfl, fun {text rest rest'} hlength hcs => ?_⟩
    match text, hlength with
    | a :: b :: text, _ =>
      rw [Option.getD_none] at hcs
      subst hcs
      have hnone : afterBreak? (a :: b :: (text ++ rest')) = none := by
        unfold afterBreak? at hbreak ⊢
        split
        · rename_i heq
          obtain ⟨rfl, -⟩ := List.cons.inj heq
          simp at hbreak
        · rename_i heq
          obtain ⟨rfl, htail⟩ := List.cons.inj heq
          obtain ⟨rfl, -⟩ := List.cons.inj htail
          simp at hbreak
        · rfl
      simp [hnone]

/-- A literal that stays on its line is read back. -/
theorem exists_spells_lineLiteral? (h : lineLiteral? cs = some (s, rest)) :
    ∃ q text, (q = '"' ∨ q = '\'') ∧ text ≠ [] ∧ (text.head? = some q → text = [q]) ∧
      cs = q :: text ++ rest ∧ Spells lineLiteral? Anything (q :: text) s := by
  unfold lineLiteral? at h
  split at h
  · obtain ⟨text, hne, rfl, hhead, htext⟩ := exists_spells_escapedWithin? h
    refine ⟨'"', text, .inl rfl, hne, hhead, rfl, fun rest' hrest => ?_⟩
    exact htext _ (by simp) rest' hrest
  · obtain ⟨text, hne, rfl, hhead, htext⟩ := exists_spells_verbatim? h
    exact ⟨'\'', text, .inr rfl, hne, hhead, rfl, fun rest' hrest => htext rest' hrest⟩
  · simp at h

/-- **A string literal is read back** in front of what does not start with a quote. -/
theorem exists_spells_literal? (h : literal? cs = some (s, rest)) :
    ∃ q text, (q = '"' ∨ q = '\'') ∧ cs = q :: text ++ rest ∧
      Spells literal? NoQuote (q :: text) s := by
  unfold literal? at h
  split at h
  · rename_i cs
    obtain ⟨brk, hcs, hbrk⟩ := exists_dropBreak cs
    obtain ⟨text, hlength, htext, hspells⟩ := exists_spells_escapedLinesWithin? h
    refine ⟨'"', '"' :: '"' :: (brk ++ text), .inl rfl, ?_, fun rest' hrest => ?_⟩
    · rw [htext] at hcs
      simp [hcs]
    · have hdrop := @hbrk text rest rest' (by omega) htext
      have hread := hspells (brk ++ (text ++ rest')).length (by simp; omega) rest' hrest.1
      simp only [List.cons_append, List.append_assoc, literal?]
      rw [hdrop, hread]
  · rename_i cs
    obtain ⟨brk, hcs, hbrk⟩ := exists_dropBreak cs
    obtain ⟨text, hlength, htext, hspells⟩ := exists_spells_verbatimLines? h
    refine ⟨'\'', '\'' :: '\'' :: (brk ++ text), .inr rfl, ?_, fun rest' hrest => ?_⟩
    · rw [htext] at hcs
      simp [hcs]
    · have hdrop := @hbrk text rest rest' (by omega) htext
      simp only [List.cons_append, List.append_assoc, literal?]
      rw [hdrop, hspells rest' hrest.2]
  · obtain ⟨q, text, hq, hne, hhead, rfl, hspells⟩ := exists_spells_lineLiteral? h
    refine ⟨q, text, hq, rfl, fun rest' hrest => ?_⟩
    -- a literal of two quotes may not be followed by a third one
    have hthree : ∀ ds, q :: text ++ rest' ≠ q :: q :: q :: ds := by
      intro ds he
      rw [List.cons_append, List.cons.injEq] at he
      cases text with
      | nil => exact hne rfl
      | cons a text =>
        rw [List.cons_append, List.cons.injEq] at he
        obtain ⟨-, rfl, he⟩ := he
        obtain rfl : text = [] := by simpa using hhead rfl
        rw [List.nil_append] at he
        rcases hq with rfl | rfl
        · exact hrest.1 (by rw [he]; rfl)
        · exact hrest.2 (by rw [he]; rfl)
    rw [literal?]
    · exact hspells rest' trivial
    · rintro ds he
      obtain rfl : q = '"' := (List.cons.inj he).1
      exact hthree ds he
    · rintro ds he
      obtain rfl : q = '\'' := (List.cons.inj he).1
      exact hthree ds he

end Toml
end LintWorkspace
