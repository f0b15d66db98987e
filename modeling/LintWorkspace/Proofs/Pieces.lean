/-
# Bodies and pieces

The body behind a brace ends at the first closing brace before which as many are closed as
opened.  A parameter list is cut at the commas before which as many of `<` and `[` are opened as
of `>` and `]` closed; the two kinds are counted together, and the count may fall below zero.

Both are read off the text from the left with a number for what is open.  The invariant of the
recursion is what the number says of the text read so far: `Closes depth` for a body,
`IsSplit depth` for the pieces.  For the pieces a number of 32 bits would do in any list with
fewer than `2 ^ 31` brackets (`splitParams32_eq`).
-/

import LintWorkspace.Proofs.Findings
import Mathlib.Data.List.Basic

namespace LintWorkspace
namespace Diagnostic

variable {cs rest body params : List Char} {pieces : List (List Char)}

/-! ### Bodies -/

/-- As many braces are closed in a text as are opened. -/
def Balances (cs : List Char) : Prop := cs.count '}' = cs.count '{'

instance : DecidablePred Balances := fun _ => inferInstanceAs (Decidable (_ = _))

/-- The body behind a brace: it ends at the first closing brace that balances it. -/
structure IsBody (rest body : List Char) : Prop where
  closing : ∃ after, rest = body ++ '}' :: after
  balances : Balances body
  first : ∀ u after, rest = u ++ '}' :: after → Balances u → body.length ≤ u.length

theorem body?_open (depth : Nat) (cs : List Char) :
    body? depth ('{' :: cs) = (body? (depth + 1) cs).map ('{' :: ·) := by
  rw [body?.eq_def]
  rfl

theorem body?_close (depth : Nat) (cs : List Char) :
    body? (depth + 1) ('}' :: cs) = (body? depth cs).map ('}' :: ·) := by
  rw [body?.eq_def]
  rfl

theorem body?_other {c : Char} (hopen : c ≠ '{') (hclose : c ≠ '}') (depth : Nat)
    (cs : List Char) : body? depth (c :: cs) = (body? depth cs).map (c :: ·) := by
  rw [body?.eq_def]
  simp only [if_neg hopen, if_neg hclose]

/-- What is found from a depth on: a brace stands behind it that closes one more than are open,
and none does before. -/
structure Closes (depth : Nat) (cs body : List Char) : Prop where
  closing : ∃ after, cs = body ++ '}' :: after
  count_eq : body.count '}' = body.count '{' + depth
  count_le : ∀ u, u <+: body → u.count '}' ≤ u.count '{' + depth

theorem Closes.cons {depth depth' : Nat} {c : Char} (h : Closes depth' cs body)
    (hdepth : [c].count '}' + depth' = [c].count '{' + depth) :
    Closes depth (c :: cs) (c :: body) where
  closing := by
    obtain ⟨after, rfl⟩ := h.closing
    exact ⟨after, rfl⟩
  count_eq := by
    have := h.count_eq
    rw [← List.singleton_append, List.count_append, List.count_append]
    omega
  count_le u hu := by
    rcases List.prefix_cons_iff.1 hu with rfl | ⟨v, rfl, hv⟩
    · simp
    · have := h.count_le v hv
      rw [← List.singleton_append, List.count_append, List.count_append]
      omega

theorem closes_of_body? {depth : Nat} (h : body? depth cs = some body) :
    Closes depth cs body := by
  induction cs generalizing depth body with
  | nil => simp [body?] at h
  | cons c cs ih =>
    by_cases hopen : c = '{'
    · subst hopen
      rw [body?_open] at h
      obtain ⟨inner, hinner, rfl⟩ := Option.map_eq_some_iff.1 h
      exact (ih hinner).cons (by simp; omega)
    · by_cases hclose : c = '}'
      · subst hclose
        cases depth with
        | zero =>
          obtain rfl : [] = body := Option.some.inj h
          exact ⟨⟨cs, rfl⟩, rfl, by simp⟩
        | succ depth =>
          rw [body?_close] at h
          obtain ⟨inner, hinner, rfl⟩ := Option.map_eq_some_iff.1 h
          exact (ih hinner).cons (by simp; omega)
      · rw [body?_other hopen hclose] at h
        obtain ⟨inner, hinner, rfl⟩ := Option.map_eq_some_iff.1 h
        exact (ih hinner).cons (by simp [hopen, hclose])

/-- Where a closing brace closes all that is open, something is found. -/
theorem exists_body? {depth : Nat} {u after : List Char} (h : u.count '}' = u.count '{' + depth) :
    ∃ body, body? depth (u ++ '}' :: after) = some body := by
  induction u generalizing depth with
  | nil =>
    obtain rfl : depth = 0 := by simpa using h.symm
    exact ⟨[], rfl⟩
  | cons c u ih =>
    rw [← List.singleton_append, List.count_append, List.count_append] at h
    rw [List.cons_append]
    by_cases hopen : c = '{'
    · subst hopen
      obtain ⟨body, hbody⟩ := @ih (depth + 1) (by simp at h; omega)
      exact ⟨_, by rw [body?_open, hbody]; rfl⟩
    · by_cases hclose : c = '}'
      · subst hclose
        cases depth with
        | zero => exact ⟨[], rfl⟩
        | succ depth =>
          obtain ⟨body, hbody⟩ := @ih depth (by simp at h; omega)
          exact ⟨_, by rw [body?_close, hbody]; rfl⟩
      · obtain ⟨body, hbody⟩ := @ih depth (by simpa [hopen, hclose] using h)
        exact ⟨_, by rw [body?_other hopen hclose, hbody]; rfl⟩

/-- Nothing that closes all comes before what is found. -/
theorem Closes.length_le {depth : Nat} {u after : List Char} (h : Closes depth cs body)
    (hcs : cs = u ++ '}' :: after) (hu : u.count '}' = u.count '{' + depth) :
    body.length ≤ u.length := by
  by_contra hlt
  obtain ⟨behind, hbehind⟩ := h.closing
  have hfront : u ++ ['}'] <+: cs := ⟨after, by simp [hcs]⟩
  have hprefix : u ++ ['}'] <+: body := by
    refine List.prefix_of_prefix_length_le hfront ⟨_, hbehind.symm⟩ ?_
    simp only [List.length_append, List.length_singleton]
    omega
  have := h.count_le _ hprefix
  simp [List.count_append] at this
  omega

/-- **The body is the text up to the first closing brace that balances.** -/
theorem body?_eq_some_iff : body? 0 rest = some body ↔ IsBody rest body := by
  constructor
  · intro h
    have hcloses := closes_of_body? h
    exact ⟨hcloses.closing, hcloses.count_eq, fun u after hrest hu => hcloses.length_le hrest hu⟩
  · intro h
    obtain ⟨after, rfl⟩ := h.closing
    obtain ⟨found, hfound⟩ := @exists_body? 0 body after h.balances
    have hcloses := closes_of_body? hfound
    obtain ⟨after', hafter'⟩ := hcloses.closing
    have hle := hcloses.length_le rfl h.balances
    have hge := h.first found after' hafter' hcloses.count_eq
    obtain ⟨heq, -⟩ := List.append_inj hafter' (by omega)
    rw [hfound, heq]

/-! ### Pieces -/

/-- How many more brackets are opened in a text than closed, counting both kinds together. -/
def height (cs : List Char) : Int :=
  cs.count '<' + cs.count '[' - (cs.count '>' + cs.count ']')

theorem height_append (cs rest : List Char) : height (cs ++ rest) = height cs + height rest := by
  simp only [height, List.count_append]
  omega

theorem height_cons (c : Char) (cs : List Char) : height (c :: cs) = height [c] + height cs :=
  height_append [c] cs

@[simp] theorem height_nil : height [] = 0 := rfl

theorem height_singleton (c : Char) : height [c] =
    if c = '<' ∨ c = '[' then 1 else if c = '>' ∨ c = ']' then -1 else 0 := by
  by_cases h1 : c = '<'
  · subst h1; rfl
  by_cases h2 : c = '['
  · subst h2; rfl
  by_cases h3 : c = '>'
  · subst h3; rfl
  by_cases h4 : c = ']'
  · subst h4; rfl
  simp [height, h1, h2, h3, h4]

/-- What stands before one of the commas between pieces. -/
def Cuts (pieces : List (List Char)) (u : List Char) : Prop :=
  ∃ front back, front ≠ [] ∧ back ≠ [] ∧ pieces = front ++ back ∧ u = [','].intercalate front

theorem not_cuts_singleton (piece u : List Char) : ¬ Cuts [piece] u := by
  rintro ⟨front, back, hfront, hback, heq, -⟩
  have hlength := congrArg List.length heq
  have := List.length_pos_iff.2 hfront
  have := List.length_pos_iff.2 hback
  rw [List.length_append, List.length_singleton] at hlength
  omega

/-- A character in front of the first piece stands before every comma. -/
theorem cuts_cons_head {piece : List Char} (c : Char) (u : List Char) :
    Cuts ((c :: piece) :: pieces) u ↔ ∃ v, u = c :: v ∧ Cuts (piece :: pieces) v := by
  constructor
  · rintro ⟨front, back, hfront, hback, heq, rfl⟩
    obtain ⟨first, front, rfl⟩ := List.exists_cons_of_ne_nil hfront
    obtain ⟨rfl, rfl⟩ := List.cons.inj heq
    exact ⟨_, List.intercalate_cons_cons_left, piece :: front, back, by simp, hback, rfl, rfl⟩
  · rintro ⟨v, rfl, front, back, hfront, hback, heq, rfl⟩
    obtain ⟨first, front, rfl⟩ := List.exists_cons_of_ne_nil hfront
    obtain ⟨rfl, rfl⟩ := List.cons.inj heq
    exact ⟨(c :: piece) :: front, back, by simp, hback, rfl, List.intercalate_cons_cons_left.symm⟩

/-- An empty piece in front ends at the first comma. -/
theorem cuts_nil_cons (hne : pieces ≠ []) (u : List Char) :
    Cuts ([] :: pieces) u ↔ u = [] ∨ ∃ v, u = ',' :: v ∧ Cuts pieces v := by
  constructor
  · rintro ⟨front, back, hfront, hback, heq, rfl⟩
    obtain ⟨first, front, rfl⟩ := List.exists_cons_of_ne_nil hfront
    obtain ⟨rfl, rfl⟩ := List.cons.inj heq
    cases front with
    | nil => exact .inl rfl
    | cons second front =>
      exact .inr ⟨_, rfl, second :: front, back, by simp, hback, rfl, rfl⟩
  · rintro (rfl | ⟨v, rfl, front, back, hfront, hback, rfl, rfl⟩)
    · exact ⟨[[]], pieces, by simp, hne, rfl, rfl⟩
    · obtain ⟨second, front, rfl⟩ := List.exists_cons_of_ne_nil hfront
      exact ⟨[] :: second :: front, back, by simp, hback, rfl, rfl⟩

/-- A parameter list in pieces, cut at the commas before which a number of brackets more are
closed than opened. -/
structure IsSplit (depth : Int) (params : List Char) (pieces : List (List Char)) : Prop where
  ne_nil : pieces ≠ []
  join : [','].intercalate pieces = params
  cuts_iff : ∀ u, Cuts pieces u ↔ (∃ v, params = u ++ ',' :: v) ∧ height u + depth = 0

theorem splitParams_comma (cs : List Char) :
    splitParams 0 (',' :: cs) = [] :: splitParams 0 cs := by
  rw [splitParams.eq_def]
  rfl

theorem splitParams_other {c : Char} {depth : Int} {piece : List Char}
    (hc : ¬(c = ',' ∧ depth = 0)) (h : splitParams (height [c] + depth) cs = piece :: pieces) :
    splitParams depth (c :: cs) = (c :: piece) :: pieces := by
  have hdepth : (if c = '<' ∨ c = '[' then depth + 1
      else if c = '>' ∨ c = ']' then depth - 1 else depth) = height [c] + depth := by
    rw [height_singleton]
    split
    · omega
    · split <;> omega
  rw [splitParams.eq_def]
  simp only [if_neg hc, hdepth, h]

/-- Behind a comma outside brackets the list goes on as one of its own. -/
theorem isSplit_comma (hne : pieces ≠ []) :
    IsSplit 0 (',' :: cs) ([] :: pieces) ↔ IsSplit 0 cs pieces := by
  obtain ⟨piece, more, rfl⟩ := List.exists_cons_of_ne_nil hne
  have hjoin : [','].intercalate ([] :: piece :: more) = ',' :: [','].intercalate (piece :: more) :=
    rfl
  have hcuts : ∀ u, Cuts ([] :: piece :: more) (',' :: u) ↔ Cuts (piece :: more) u := fun u => by
    rw [cuts_nil_cons hne]
    simp
  have hheight : ∀ u, height (',' :: u) = height u := fun u => by
    rw [height_cons, show height [','] = 0 from rfl, Int.zero_add]
  constructor
  · intro h
    refine ⟨hne, by simpa [hjoin] using h.join, fun u => ?_⟩
    rw [← hcuts, h.cuts_iff, hheight]
    simp
  · intro h
    refine ⟨by simp, by rw [hjoin, h.join], fun u => ?_⟩
    cases u with
    | nil =>
      rw [cuts_nil_cons hne]
      simp
    | cons d u =>
      by_cases hd : d = ','
      · subst hd
        rw [hcuts, h.cuts_iff, hheight]
        simp
      · rw [cuts_nil_cons hne]
        simp [hd, Ne.symm hd]

/-- Any other character belongs to the first piece. -/
theorem isSplit_cons {c : Char} {depth : Int} {piece : List Char} (hc : ¬(c = ',' ∧ depth = 0)) :
    IsSplit depth (c :: cs) ((c :: piece) :: pieces) ↔
      IsSplit (height [c] + depth) cs (piece :: pieces) := by
  have hcuts : ∀ u, Cuts ((c :: piece) :: pieces) (c :: u) ↔ Cuts (piece :: pieces) u := fun u => by
    rw [cuts_cons_head]
    simp
  have hheight : ∀ u, height (c :: u) + depth = height u + (height [c] + depth) := fun u => by
    rw [height_cons]
    omega
  constructor
  · intro h
    refine ⟨by simp, ?_, fun u => ?_⟩
    · have hjoin := h.join
      rw [List.intercalate_cons_cons_left] at hjoin
      exact (List.cons.inj hjoin).2
    · rw [← hcuts, h.cuts_iff, hheight u]
      simp
  · intro h
    refine ⟨by simp, by rw [List.intercalate_cons_cons_left, h.join], fun u => ?_⟩
    cases u with
    | nil =>
      rw [cuts_cons_head]
      refine iff_of_false (by simp) ?_
      rintro ⟨⟨v, hv⟩, hdepth⟩
      exact hc ⟨(List.cons.inj hv).1, by simpa using hdepth⟩
    | cons d u =>
      by_cases hd : d = c
      · subst hd
        rw [hcuts, h.cuts_iff, hheight u]
        simp
      · rw [cuts_cons_head]
        simp [hd, Ne.symm hd]

/-- The pieces of a list: the first one is empty exactly where the list is at its end or starts
with a comma outside brackets. -/
theorem IsSplit.head_cases {c : Char} {depth : Int} (h : IsSplit depth (c :: cs) pieces) :
    (c = ',' ∧ depth = 0 ∧ ∃ more, more ≠ [] ∧ pieces = [] :: more) ∨
      (¬(c = ',' ∧ depth = 0) ∧ ∃ piece more, pieces = (c :: piece) :: more) := by
  obtain ⟨first, more, rfl⟩ := List.exists_cons_of_ne_nil h.ne_nil
  have hcut : Cuts (first :: more) [] ↔ c = ',' ∧ depth = 0 := by
    rw [h.cuts_iff]
    simp
  cases first with
  | nil =>
    have hne : more ≠ [] := by
      rintro rfl
      exact absurd h.join (by simp)
    obtain ⟨rfl, rfl⟩ := hcut.1 ((cuts_nil_cons hne []).2 (.inl rfl))
    exact .inl ⟨rfl, rfl, more, hne, rfl⟩
  | cons d piece =>
    have hjoin := h.join
    rw [List.intercalate_cons_cons_left] at hjoin
    obtain rfl := (List.cons.inj hjoin).1
    refine .inr ⟨fun hc => ?_, piece, more, rfl⟩
    obtain ⟨v, hv, -⟩ := (cuts_cons_head d []).1 (hcut.2 hc)
    simp at hv

/-- **A parameter list is cut at the commas outside brackets.** -/
theorem isSplit_splitParams (depth : Int) (params : List Char) :
    IsSplit depth params (splitParams depth params) := by
  induction params generalizing depth with
  | nil =>
    refine ⟨by simp [splitParams], rfl, fun u => iff_of_false (not_cuts_singleton [] u) ?_⟩
    simp
  | cons c cs ih =>
    by_cases hc : c = ',' ∧ depth = 0
    · obtain ⟨rfl, rfl⟩ := hc
      rw [splitParams_comma]
      exact (isSplit_comma (ih 0).ne_nil).2 (ih 0)
    · have h := ih (height [c] + depth)
      obtain ⟨piece, pieces, hpieces⟩ := List.exists_cons_of_ne_nil h.ne_nil
      rw [splitParams_other hc hpieces]
      rw [hpieces] at h
      exact (isSplit_cons hc).2 h

/-- **There is one way only to cut a list there.** -/
theorem IsSplit.eq_splitParams {depth : Int} (h : IsSplit depth params pieces) :
    pieces = splitParams depth params := by
  induction params generalizing depth pieces with
  | nil =>
    obtain ⟨first, more, rfl⟩ := List.exists_cons_of_ne_nil h.ne_nil
    cases more with
    | nil =>
      obtain rfl : first = [] := by simpa using h.join
      rfl
    | cons second more =>
      have hcut : Cuts (first :: second :: more) first :=
        ⟨[first], second :: more, by simp, by simp, rfl, by simp⟩
      obtain ⟨v, hv⟩ := ((h.cuts_iff first).1 hcut).1
      simp at hv
  | cons c cs ih =>
    rcases h.head_cases with ⟨rfl, rfl, more, hne, rfl⟩ | ⟨hc, piece, more, rfl⟩
    · rw [splitParams_comma, ← ih ((isSplit_comma hne).1 h)]
    · rw [splitParams_other hc (ih ((isSplit_cons hc).1 h)).symm]

/-! ### Brackets counted in 32 bits -/

/-- Whether a character is one of the brackets that are counted. -/
def isBracket (c : Char) : Bool := c = '<' || c = '[' || c = '>' || c = ']'

/-- The pieces of a parameter list, with a number of 32 bits for what is open. -/
def splitParams32 : Int32 → List Char → List (List Char)
  | _, [] => [[]]
  | depth, c :: cs =>
    if c = ',' ∧ depth = 0 then [] :: splitParams32 depth cs
    else
      let depth := if c = '<' ∨ c = '[' then depth + 1
        else if c = '>' ∨ c = ']' then depth - 1 else depth
      match splitParams32 depth cs with
      | [] => [[c]]
      | piece :: pieces => (c :: piece) :: pieces

/-- A number that has not reached the end of its range may go on by one in either direction. -/
theorem toInt_step {depth : Int32} (h : depth.toInt.natAbs + 1 < 2 ^ 31) :
    (depth + 1).toInt = depth.toInt + 1 ∧ (depth - 1).toInt = depth.toInt - 1 := by
  have hone : (1 : Int32).toInt = 1 := rfl
  rw [Int32.toInt_add, Int32.toInt_sub, hone]
  constructor
  · rw [Int.bmod_eq_of_le] <;> omega
  · rw [Int.bmod_eq_of_le] <;> omega

theorem splitParams32_eq_of_natAbs (depth : Int32) (params : List Char)
    (h : depth.toInt.natAbs + params.countP isBracket < 2 ^ 31) :
    splitParams32 depth params = splitParams depth.toInt params := by
  induction params generalizing depth with
  | nil => rfl
  | cons c cs ih =>
    have hzero : depth = 0 ↔ depth.toInt = 0 := by
      rw [← Int32.toInt_inj]
      rfl
    -- what is open behind the character, in both numbers
    let after : Int32 := if c = '<' ∨ c = '[' then depth + 1
      else if c = '>' ∨ c = ']' then depth - 1 else depth
    have hafter : after.toInt = (if c = '<' ∨ c = '[' then depth.toInt + 1
        else if c = '>' ∨ c = ']' then depth.toInt - 1 else depth.toInt) ∧
        after.toInt.natAbs + cs.countP isBracket < 2 ^ 31 := by
      rw [List.countP_cons] at h
      simp only [after]
      by_cases hopen : c = '<' ∨ c = '['
      · have hbracket : isBracket c = true := by rcases hopen with rfl | rfl <;> rfl
        rw [if_pos hbracket] at h
        rw [if_pos hopen, if_pos hopen, (toInt_step (by omega)).1]
        exact ⟨rfl, by omega⟩
      · rw [if_neg hopen, if_neg hopen]
        by_cases hclose : c = '>' ∨ c = ']'
        · have hbracket : isBracket c = true := by rcases hclose with rfl | rfl <;> rfl
          rw [if_pos hbracket] at h
          rw [if_pos hclose, if_pos hclose, (toInt_step (by omega)).2]
          exact ⟨rfl, by omega⟩
        · rw [if_neg hclose, if_neg hclose]
          exact ⟨rfl, by omega⟩
    rw [splitParams32, splitParams, ← hafter.1]
    simp only [hzero]
    split
    · rw [ih depth (by rw [List.countP_cons] at h; omega)]
    · have hrest := ih after hafter.2
      cases hsplit : splitParams after.toInt cs with
      | nil =>
        simp only [hsplit, after] at hrest
        simp only [hrest]
      | cons piece pieces =>
        simp only [hsplit, after] at hrest
        simp only [hrest]

/-- **Up to `2 ^ 31` brackets are counted alike in 32 bits.** -/
theorem splitParams32_eq {params : List Char} (h : params.countP isBracket < 2 ^ 31) :
    splitParams32 0 params = splitParams 0 params :=
  splitParams32_eq_of_natAbs 0 params (by simpa using h)

end Diagnostic
end LintWorkspace
