/-
# Names

A name is searched for in what a parameter declares: up to its first colon that stands alone,
or else up to its first `=`.  It starts with an ASCII letter or an underscore, at the first
place of a word where one stands, and goes on to the end of the word:

| declared | names |
| --- | --- |
| `mut count: usize` | `mut`, `count` |
| `std::string s = "x"` | `std`, `string`, `s` |
| `ñame: u8` | `ame` |

What the search has passed is either a text with no name open at its end (`EndsPlain`), or a
name, and then no character of a word follows.  Every name found is so in the part of its word
from the first possible start on.
-/

import LintWorkspace.Proofs.Heads

namespace LintWorkspace
namespace Diagnostic

open Unicode (isWord)

variable {cs before decl piece u v : List Char} {h : Hit} {here n m : Nat}

/-! ### The names in a text -/

/-- What a name in a text is: it starts with an ASCII letter or an underscore and goes on to the
end of the word it is in; before it stand only characters of that word that no name starts with. -/
structure IsName (front pre name back : List Char) : Prop where
  front : front.getLast?.any isWord = false
  pre : ∀ c ∈ pre, isWord c = true ∧ isNameStart c = false
  name : ∃ c tail, name = c :: tail ∧ isNameStart c = true ∧ ∀ d ∈ tail, isWord d = true
  back : back.head?.any isWord = false

/-- A name is found at an offset of a text. -/
def NameAt (cs : List Char) (h : Hit) : Prop :=
  ∃ front pre back, cs = front ++ pre ++ h.text ++ back ∧
    h.offset = (front ++ pre).length ∧ IsName front pre h.text back

/-- A name starts within its text. -/
theorem NameAt.length_take (hh : NameAt cs h) : (cs.take h.offset).length = h.offset := by
  obtain ⟨front, pre, back, rfl, hoffset, -⟩ := hh
  rw [hoffset, List.append_assoc, List.take_left]

/-- A text that ends in a part of a word which no name starts in. -/
def EndsPlain (before : List Char) : Prop :=
  ∃ front pre, before = front ++ pre ∧ front.getLast?.any isWord = false ∧
    ∀ c ∈ pre, isWord c = true ∧ isNameStart c = false

theorem EndsPlain.nil : EndsPlain [] := ⟨[], [], rfl, rfl, by simp⟩

/-- What does not start a name leaves no name open. -/
theorem EndsPlain.concat {c : Char} (hc : isNameStart c = false)
    (h : EndsPlain before ∨ isWord c = false) : EndsPlain (before ++ [c]) := by
  cases hword : isWord c with
  | false => exact ⟨before ++ [c], [], (List.append_nil _).symm, by simp [hword], by simp⟩
  | true =>
    obtain ⟨front, pre, rfl, hfront, hpre⟩ := h.resolve_right (by simp [hword])
    refine ⟨front, pre ++ [c], List.append_assoc _ _ _, hfront, fun d hd => ?_⟩
    rcases List.mem_append.1 hd with hd | hd
    · exact hpre d hd
    · rw [List.mem_singleton.1 hd]
      exact ⟨hword, hc⟩

theorem nameAt_namesFrom (hbefore : EndsPlain before ∨ cs.head?.any isWord = false)
    (hh : h ∈ namesFrom n before.length cs) : NameAt (before ++ cs) h := by
  induction n generalizing before cs with
  | zero => simp [namesFrom] at hh
  | succ n ih =>
    cases cs with
    | nil => simp [namesFrom] at hh
    | cons c cs =>
      rw [namesFrom] at hh
      split at hh
      · rename_i hstart
        obtain ⟨word, back, rfl, hword, hback⟩ := exists_run isWord cs
        dsimp only at hh
        rw [takeWhile_run hword hback, dropWhile_run hword hback] at hh
        rcases List.mem_cons.1 hh with rfl | hh
        · have hplain := hbefore.resolve_right (by simp [isWord_of_isNameStart hstart])
          obtain ⟨front, pre, rfl, hfront, hpre⟩ := hplain
          exact ⟨front, pre, back, by simp, rfl, hfront, hpre, ⟨c, word, rfl, hstart, hword⟩, hback⟩
        · rw [← List.length_append] at hh
          have := ih (.inr hback) hh
          rwa [List.append_assoc, List.cons_append] at this
      · rename_i hstart
        have hc : isNameStart c = false := by simpa using hstart
        have hplain : EndsPlain (before ++ [c]) := .concat hc (by simpa using hbefore)
        have := @ih cs (before ++ [c]) (.inl hplain) (by simpa using hh)
        rwa [List.append_assoc, List.singleton_append] at this

/-- **What counts as a name.** -/
theorem nameAt_of_mem_names (hh : h ∈ names cs) : NameAt cs h :=
  @nameAt_namesFrom cs [] h _ (.inl .nil) hh

/-! ### The names in two texts -/

/-- More steps than characters change nothing. -/
theorem namesFrom_congr (hn : cs.length ≤ n) (hm : cs.length ≤ m) :
    namesFrom n here cs = namesFrom m here cs := by
  induction n generalizing m here cs with
  | zero =>
    obtain rfl : cs = [] := by simpa using hn
    cases m <;> rfl
  | succ n ih =>
    cases cs with
    | nil => cases m <;> rfl
    | cons c cs =>
      obtain ⟨m, rfl⟩ : ∃ k, m = k + 1 := ⟨m - 1, by simp only [List.length_cons] at hm; omega⟩
      simp only [List.length_cons, Nat.add_le_add_iff_right] at hn hm
      have hdrop : (cs.dropWhile isWord).length ≤ cs.length := List.length_dropWhile_le isWord cs
      rw [namesFrom, namesFrom]
      split
      · dsimp only
        rw [ih (Nat.le_trans hdrop hn) (Nat.le_trans hdrop hm)]
      · rw [ih hn hm]

/-- The names of a text that starts later are found later. -/
theorem namesFrom_add (n here k : Nat) (cs : List Char) : namesFrom n (k + here) cs =
    (namesFrom n here cs).map fun h => ⟨k + h.offset, h.text⟩ := by
  induction n generalizing here cs with
  | zero => rfl
  | succ n ih =>
    cases cs with
    | nil => rfl
    | cons c cs =>
      rw [namesFrom, namesFrom]
      split
      · dsimp only
        rw [Nat.add_assoc, ih, List.map_cons]
      · rw [Nat.add_assoc, ih]

theorem any_getLast?_of_append {p : Char → Bool} (h : (u ++ v).getLast?.any p = false) :
    v.getLast?.any p = false := by
  rcases List.eq_nil_or_concat' v with rfl | ⟨init, c, rfl⟩
  · rfl
  · rw [← List.append_assoc, List.getLast?_concat] at h
    rwa [List.getLast?_concat]

/-- No name reaches over a place where no word does. -/
theorem namesFrom_append (hplace : u.getLast?.any isWord = false ∨ v.head?.any isWord = false)
    (hn : u.length + v.length ≤ n) :
    namesFrom n here (u ++ v) = namesFrom n here u ++ namesFrom n (here + u.length) v := by
  induction n generalizing here u with
  | zero =>
    obtain ⟨rfl, -⟩ : u = [] ∧ v = [] := by simpa using hn
    rfl
  | succ n ih =>
    cases u with
    | nil => rfl
    | cons c u =>
      simp only [List.length_cons] at hn
      have hfuel : ∀ k, namesFrom (n + 1) k v = namesFrom n k v := fun k =>
        namesFrom_congr (by omega) (by omega)
      rw [List.cons_append, namesFrom, namesFrom]
      split
      · obtain ⟨word, back, rfl, hword, hback⟩ := exists_run isWord u
        simp only [List.length_append] at hn
        -- the word ends within the first text, or with it
        have hstop : (back ++ v).head?.any isWord = false := by
          cases back with
          | cons d back => exact hback
          | nil =>
            refine hplace.resolve_left fun hlast => ?_
            have hin : ∀ d ∈ c :: word, isWord d = true :=
              List.forall_mem_cons.2 ⟨isWord_of_isNameStart (by assumption), hword⟩
            rw [List.append_nil, List.getLast?_eq_some_getLast (List.cons_ne_nil c word)] at hlast
            exact absurd hlast (by simp [hin _ (List.getLast_mem _)])
        have hplace' : back.getLast?.any isWord = false ∨ v.head?.any isWord = false :=
          hplace.imp_left fun hlast => any_getLast?_of_append (u := c :: word) hlast
        dsimp only
        rw [List.append_assoc, takeWhile_run hword hstop, dropWhile_run hword hstop,
          takeWhile_run hword hback, dropWhile_run hword hback, ih hplace' (by omega),
          hfuel, List.cons_append]
        congr 3
        simp only [List.length_append, List.length_cons]
        omega
      · have hplace' : u.getLast?.any isWord = false ∨ v.head?.any isWord = false :=
          hplace.imp_left fun hlast => any_getLast?_of_append (u := [c]) hlast
        rw [ih hplace' (by omega), hfuel]
        congr 2
        simp only [List.length_cons]
        omega

/-- **The names in two texts are those of both,** where no word goes from one to the other. -/
theorem names_append (hplace : u.getLast?.any isWord = false ∨ v.head?.any isWord = false) :
    names (u ++ v) = names u ++ (names v).map fun h => ⟨u.length + h.offset, h.text⟩ := by
  rw [names, namesFrom_append hplace (by rw [List.length_append]), Nat.zero_add, names, names,
    ← namesFrom_add, Nat.add_zero]
  congr 1
  · exact namesFrom_congr (by rw [List.length_append]; omega) (Nat.le_refl _)
  · exact namesFrom_congr (by rw [List.length_append]; omega) (Nat.le_refl _)

/-- Nothing is a name where none can start. -/
theorem names_eq_nil (hcs : ∀ c ∈ cs, isNameStart c = false) : names cs = [] := by
  refine List.eq_nil_iff_forall_not_mem.2 fun h hh => ?_
  obtain ⟨front, pre, back, rfl, -, hname⟩ := nameAt_of_mem_names hh
  obtain ⟨c, tail, htext, hstart, -⟩ := hname.name
  exact absurd (hcs c (by simp [htext])) (by simp [hstart])

/-- A word that a name can start is one name. -/
theorem names_word {c : Char} (hstart : isNameStart c = true) (hword : ∀ d ∈ cs, isWord d = true) :
    names (c :: cs) = [⟨0, c :: cs⟩] := by
  have htake : cs.takeWhile isWord = cs := List.takeWhile_eq_self_iff.2 hword
  have hdrop : cs.dropWhile isWord = [] := List.dropWhile_eq_nil_iff.2 hword
  rw [names, List.length_cons, namesFrom, if_pos hstart]
  dsimp only
  rw [htake, hdrop]
  cases cs.length <;> rfl

/-! ### Colons that stand alone -/

/-- A colon between two texts has no other beside it. -/
def Alone (u v : List Char) : Prop := u.getLast? ≠ some ':' ∧ v.head? ≠ some ':'

theorem beforeColon?_eq_some (hd : beforeColon? (before.getLast? = some ':') cs = some decl) :
    (∃ after, cs = decl ++ ':' :: after ∧ Alone (before ++ decl) after) ∧
      ∀ u v, cs = u ++ ':' :: v → Alone (before ++ u) v → decl.length ≤ u.length := by
  induction cs generalizing before decl with
  | nil => simp [beforeColon?] at hd
  | cons c cs ih =>
    rw [beforeColon?] at hd
    split at hd
    · rename_i hcolon
      obtain ⟨rfl, hbefore, hafter⟩ := hcolon
      obtain rfl : [] = decl := Option.some.inj hd
      refine ⟨⟨cs, rfl, by simpa using hbefore, hafter⟩, by simp⟩
    · rename_i hcolon
      obtain ⟨inner, hinner, rfl⟩ := Option.map_eq_some_iff.1 hd
      have hlast : (before ++ [c]).getLast? = some c := List.getLast?_concat
      obtain ⟨⟨after, rfl, halone⟩, hfirst⟩ :=
        @ih (before ++ [c]) inner (by simpa [hlast] using hinner)
      rw [List.append_assoc, List.singleton_append] at halone
      refine ⟨⟨after, rfl, halone⟩, fun u v hu halone' => ?_⟩
      cases u with
      | nil =>
        obtain ⟨rfl, rfl⟩ := List.cons.inj hu
        rw [List.append_nil] at halone'
        exact absurd ⟨rfl, by simpa using halone'.1, halone'.2⟩ hcolon
      | cons d u =>
        obtain ⟨rfl, hbehind⟩ := List.cons.inj hu
        have := hfirst u v hbehind (by rwa [List.append_assoc, List.singleton_append])
        simpa using this

theorem exists_beforeColon? {u v : List Char} (h : Alone (before ++ u) v) :
    ∃ decl, beforeColon? (before.getLast? = some ':') (u ++ ':' :: v) = some decl := by
  induction u generalizing before with
  | nil =>
    rw [List.append_nil] at h
    exact ⟨[], by rw [List.nil_append, beforeColon?, if_pos ⟨rfl, by simpa using h.1, h.2⟩]⟩
  | cons c u ih =>
    rw [List.cons_append, beforeColon?]
    split
    · exact ⟨[], rfl⟩
    · have hlast : (before ++ [c]).getLast? = some c := List.getLast?_concat
      obtain ⟨decl, hdecl⟩ :=
        @ih (before ++ [c]) (by rwa [List.append_assoc, List.singleton_append])
      simp only [hlast, Option.some.injEq] at hdecl
      exact ⟨c :: decl, by rw [hdecl]; rfl⟩

/-- What stands before the first colon of a text that stands alone. -/
structure IsDecl (piece decl : List Char) : Prop where
  colon : ∃ after, piece = decl ++ ':' :: after ∧ Alone decl after
  first : ∀ u v, piece = u ++ ':' :: v → Alone u v → decl.length ≤ u.length

theorem IsDecl.eq {decl' : List Char} (h : IsDecl piece decl) (h' : IsDecl piece decl') :
    decl = decl' := by
  obtain ⟨after, rfl, halone⟩ := h.colon
  obtain ⟨after', heq, halone'⟩ := h'.colon
  have hle := h.first _ _ heq halone'
  have hge := h'.first _ _ rfl halone
  exact (List.append_inj heq (by omega)).1

/-- **A text is cut at its first colon that stands alone.** -/
theorem beforeColon?_eq_some_iff : beforeColon? false piece = some decl ↔ IsDecl piece decl := by
  constructor
  · intro hdecl
    obtain ⟨hcolon, hfirst⟩ := @beforeColon?_eq_some piece [] decl hdecl
    exact ⟨hcolon, hfirst⟩
  · intro hdecl
    obtain ⟨after, rfl, halone⟩ := hdecl.colon
    obtain ⟨found, hfound⟩ := @exists_beforeColon? [] decl after halone
    change beforeColon? false _ = _ at hfound
    obtain ⟨hcolon, hfirst⟩ := @beforeColon?_eq_some _ [] found hfound
    rw [hfound, IsDecl.eq hdecl ⟨hcolon, hfirst⟩]

theorem beforeColon?_eq_none_iff :
    beforeColon? false piece = none ↔ ∀ u v, piece = u ++ ':' :: v → ¬ Alone u v := by
  constructor
  · rintro hnone u v rfl halone
    obtain ⟨found, hfound⟩ := @exists_beforeColon? [] u v halone
    exact absurd (hnone.symm.trans hfound) (by simp)
  · intro hno
    cases hdecl : beforeColon? false piece with
    | none => rfl
    | some decl =>
      obtain ⟨after, heq, halone⟩ := (beforeColon?_eq_some_iff.1 hdecl).colon
      exact absurd halone (hno _ _ heq)

/-! ### The name of a parameter -/

/-- What of a parameter its name is looked for in: up to its colon, or else up to its `=`. -/
def declaration (piece : List Char) : List Char :=
  (beforeColon? false piece).getD (piece.takeWhile (· ≠ '='))

/-- Behind a declaration comes no character of a word. -/
theorem exists_declaration (piece : List Char) :
    ∃ after, piece = declaration piece ++ after ∧ after.head?.any isWord = false := by
  cases hdecl : beforeColon? false piece with
  | some decl =>
    obtain ⟨after, heq, -⟩ := (beforeColon?_eq_some_iff.1 hdecl).colon
    have hcolon : isWord ':' = false := by decide +kernel
    exact ⟨':' :: after, by rw [declaration, hdecl]; exact heq, by simpa using hcolon⟩
  | none =>
    have hequals : isWord '=' = false := by decide +kernel
    obtain ⟨run, after, rfl, hrun, hafter⟩ := exists_run (fun c => decide (c ≠ '=')) piece
    refine ⟨after, by rw [declaration, hdecl, Option.getD_none, takeWhile_run hrun hafter], ?_⟩
    cases after with
    | nil => rfl
    | cons c after =>
      obtain rfl : c = '=' := by simpa using hafter
      simpa using hequals

/-- The name of a parameter is one of the names in its declaration. -/
theorem mem_names_of_declaredName? (hh : declaredName? piece = some h) :
    h ∈ names (declaration piece) := by
  rw [declaredName?] at hh
  split at hh
  · rename_i decl hdecl
    rw [declaration, hdecl]
    exact (List.mem_filter.1 (List.mem_of_getLast? hh)).1
  · rename_i hdecl
    rw [declaration, hdecl]
    exact List.mem_of_getLast? hh

/-- A name with nothing of a word behind its text stays one when the text goes on. -/
theorem NameAt.append {after : List Char} (hh : NameAt cs h)
    (hafter : after.head?.any isWord = false) : NameAt (cs ++ after) h := by
  obtain ⟨front, pre, back, rfl, hoffset, hname⟩ := hh
  refine ⟨front, pre, back ++ after, by simp, hoffset, hname.front, hname.pre, hname.name, ?_⟩
  cases back with
  | nil => exact hafter
  | cons c back => exact hname.back

/-- **The name of a parameter is a name in its piece.** -/
theorem nameAt_of_declaredName? (hh : declaredName? piece = some h) : NameAt piece h := by
  obtain ⟨after, heq, hafter⟩ := exists_declaration piece
  rw [heq]
  exact (nameAt_of_mem_names (mem_names_of_declaredName? hh)).append hafter

end Diagnostic
end LintWorkspace
