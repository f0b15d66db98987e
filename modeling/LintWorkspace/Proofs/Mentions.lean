/-
# Words that a text mentions

A name is looked for from the left without overlap, and counts where nothing that joins a word
stands beside it.  Two things could go wrong, and only one does:

| text | name | whole identifier of the text | mentioned |
| --- | --- | --- | --- |
| `x + xy` | `x` | yes | yes |
| `x²` | `x` | yes | no |
| `e` and U+0301 | `e` | no | yes |

No identifier is passed over: the search skips an occurrence only where it overlaps one found
before, so a character of the word stands in front of it (`visited_of_delimited`).  But what
joins a word is not what a name is made of.  The search is right about the texts in which
these two do not differ (`mentions_iff_standsIn`), and wrong about any name that a character on
which they differ follows.
-/

import LintWorkspace.Proofs.Classes
import LintWorkspace.Proofs.Reports

namespace LintWorkspace
namespace Diagnostic

open Unicode (isWord)

variable {cs w u v gap : List Char} {c : Char} {p : Char → Bool}

/-! ### Occurrences from the left -/

/-- A word stands behind a text and nowhere earlier. -/
def FirstBehind (w gap : List Char) : Prop := ∀ x y, gap ++ w = x ++ w ++ y → y = []

/-- A search from the left without overlap comes to the word behind a text: the text is gaps,
each but the last with the word behind it for the first time. -/
inductive Visited (w : List Char) : List Char → Prop
  | first {gap : List Char} (h : FirstBehind w gap) : Visited w gap
  | next {gap u : List Char} (h : FirstBehind w gap) (hu : Visited w u) :
      Visited w (gap ++ w ++ u)

theorem FirstBehind.nil (w : List Char) : FirstBehind w [] := by
  intro x y h
  have := congrArg List.length h
  simp only [List.length_append, List.length_nil] at this
  exact List.length_eq_zero_iff.1 (by omega)

/-- Where the word stands at the start of a text, it is not behind a gap for the first time. -/
theorem FirstBehind.eq_nil (h : FirstBehind w gap) (hbegins : w <+: gap ++ w) : gap = [] := by
  obtain ⟨y, hy⟩ := hbegins
  obtain rfl := h [] y hy.symm
  simpa using hy

theorem firstBehind_cons (hnot : ¬ w <+: c :: (gap ++ w)) :
    FirstBehind w (c :: gap) ↔ FirstBehind w gap := by
  constructor
  · intro h x y heq
    exact h (c :: x) y (congrArg (c :: ·) heq)
  · intro h x y heq
    cases x with
    | nil => exact absurd ⟨y, heq.symm⟩ hnot
    | cons d x => exact h x y (List.cons.inj heq).2

/-- A place that is visited behind a character at which the word does not start is visited
behind what follows the character. -/
theorem visited_cons (hnot : ¬ w <+: c :: (u ++ w)) : Visited w (c :: u) ↔ Visited w u := by
  have hgap : ∀ {gap rest : List Char}, u = gap ++ w ++ rest → ¬ w <+: c :: (gap ++ w) := by
    rintro gap rest rfl hbegins
    refine hnot (hbegins.trans ⟨rest ++ w, ?_⟩)
    simp
  constructor
  · intro h
    generalize heq : c :: u = before at h
    cases h with
    | first h => exact .first ((firstBehind_cons hnot).1 (heq ▸ h))
    | @next gap rest h hrest =>
      cases gap with
      | nil => exact absurd ⟨rest ++ w, by rw [← List.cons_append, heq]; simp⟩ hnot
      | cons d gap =>
        obtain ⟨rfl, hu⟩ := List.cons.inj heq
        rw [hu]
        exact .next ((firstBehind_cons (hgap hu)).1 h) hrest
  · intro h
    cases h with
    | first h => exact .first ((firstBehind_cons hnot).2 h)
    | @next gap rest h hrest =>
      exact @Visited.next w (c :: gap) rest ((firstBehind_cons (hgap rfl)).2 h) hrest

/-- Where the word stands at the start of a text, the next place visited is behind it. -/
theorem Visited.of_begins (h : Visited w u) (hbegins : w <+: u ++ w) :
    u = [] ∨ ∃ rest, u = w ++ rest ∧ Visited w rest := by
  cases h with
  | first h => exact .inl (h.eq_nil hbegins)
  | @next gap rest h hrest =>
    have hgap : w <+: gap ++ w := by
      refine List.prefix_of_prefix_length_le hbegins ⟨rest ++ w, by simp⟩ ?_
      rw [List.length_append]
      omega
    obtain rfl := h.eq_nil hgap
    exact .inr ⟨rest, rfl, hrest⟩

/-! ### The search -/

/-- None of a class of characters stands beside a place between two texts. -/
def Delimited (p : Char → Bool) (u v : List Char) : Prop :=
  u.getLast?.any p = false ∧ v.head?.any p = false

instance (p : Char → Bool) (u v : List Char) : Decidable (Delimited p u v) :=
  inferInstanceAs (Decidable (_ ∧ _))

/-- **The search finds the word at the places it visits** where nothing beside it joins it. -/
theorem mentionsFrom_iff (hw : w ≠ []) {n : Nat} (hn : cs.length < n) (before : List Char) :
    mentionsFrom w n before.getLast? cs = true ↔
      ∃ u v, cs = u ++ w ++ v ∧ Visited w u ∧ Delimited joins (before ++ u) v := by
  induction n generalizing before cs with
  | zero => omega
  | succ n ih =>
    cases cs with
    | nil => simp [mentionsFrom, hw]
    | cons c cs =>
      rw [mentionsFrom]
      split
      next hbegins =>
        obtain ⟨rest, hrest⟩ := List.isPrefixOf_iff_prefix.1 hbegins
        have hlength : 0 < w.length := List.length_pos_iff.2 hw
        have hshort : rest.length < n := by
          have := congrArg List.length hrest
          rw [List.length_append] at this
          omega
        have hlast : (before ++ w).getLast? = w.getLast? := by
          rw [List.getLast?_append, List.getLast?_eq_some_getLast hw, Option.some_or]
        simp only [← hrest, List.drop_left, ← hlast, Bool.and_eq_true, Bool.not_eq_true']
        split
        next hdelimited =>
          refine iff_of_true rfl ⟨[], rest, rfl, .first (.nil w), ?_⟩
          rwa [List.append_nil]
        next hdelimited =>
          rw [ih hshort (before ++ w)]
          constructor
          · rintro ⟨u, v, rfl, hu, hd⟩
            exact ⟨w ++ u, v, by simp, .next (.nil w) hu, by rwa [← List.append_assoc]⟩
          · rintro ⟨u, v, heq, hu, hd⟩
            have hfront : w <+: u ++ w :=
              List.prefix_of_prefix_length_le ⟨rest, heq⟩ ⟨v, rfl⟩ (by simp)
            rcases hu.of_begins hfront with rfl | ⟨rest', rfl, hrest'⟩
            · rw [List.append_nil, List.nil_append] at *
              obtain rfl := List.append_cancel_left heq
              exact absurd hd hdelimited
            · rw [List.append_assoc, List.append_assoc] at heq
              refine ⟨rest', v, ?_, hrest', by rwa [List.append_assoc]⟩
              rw [List.append_cancel_left heq, List.append_assoc]
      next hbegins =>
        have hnext : some c = (before ++ [c]).getLast? := List.getLast?_concat.symm
        rw [hnext, ih (by simpa using hn)]
        have hnot : ∀ {u v : List Char}, c :: cs = u ++ w ++ v → ¬ w <+: u ++ w := fun heq h =>
          hbegins (List.isPrefixOf_iff_prefix.2 (heq ▸ h.trans ⟨_, rfl⟩))
        constructor
        · rintro ⟨u, v, rfl, hu, hd⟩
          refine ⟨c :: u, v, rfl, (visited_cons (hnot (u := c :: u) rfl)).2 hu, ?_⟩
          rwa [List.append_assoc, List.singleton_append] at hd
        · rintro ⟨u, v, heq, hu, hd⟩
          cases u with
          | nil => exact absurd (List.prefix_refl w) (hnot heq)
          | cons d u =>
            obtain ⟨rfl, rfl⟩ := List.cons.inj heq
            refine ⟨u, v, rfl, (visited_cons (hnot heq)).1 hu, ?_⟩
            rwa [List.append_assoc, List.singleton_append]

theorem mentions_iff_visited (hw : w ≠ []) : mentions cs w = true ↔
    ∃ u v, cs = u ++ w ++ v ∧ Visited w u ∧ Delimited joins u v :=
  mentionsFrom_iff hw (Nat.lt_succ_self _) []

/-! ### No identifier is passed over -/

/-- The first place at which a word stands in a text and the word behind it. -/
theorem exists_firstBehind (u w : List Char) :
    ∃ gap y, u ++ w = gap ++ w ++ y ∧ FirstBehind w gap := by
  by_cases h : FirstBehind w u
  · exact ⟨u, [], (List.append_nil _).symm, h⟩
  · rw [FirstBehind] at h
    push Not at h
    obtain ⟨x, y, heq, hy⟩ := h
    have hlt : x.length < u.length := by
      have := congrArg List.length heq
      have := List.length_pos_iff.2 hy
      simp only [List.length_append] at *
      omega
    obtain ⟨gap, z, hx, hgap⟩ := exists_firstBehind x w
    exact ⟨gap, z ++ y, by rw [heq, hx, List.append_assoc], hgap⟩
termination_by u.length

/-- **The search passes no place that is not inside a word.**  What it skips overlaps the word, so
a character of the word stands in front of it. -/
theorem visited_of_delimited {u : List Char} (hw : w ≠ []) (hword : ∀ d ∈ w, isWord d = true)
    (hu : u.getLast?.any isWord = false) : Visited w u := by
  obtain ⟨gap, y, heq, hgap⟩ := exists_firstBehind u w
  rcases List.append_eq_append_iff.1 heq with ⟨beyond, hgapw, hw'⟩ | ⟨rest, hrest, -⟩
  · -- the first occurrence ends behind the place: it is the one at the place, or holds the
    -- character in front of it
    rcases List.append_eq_append_iff.1 hgapw with ⟨front, rfl, hfront⟩ | ⟨front, hfront, rfl⟩
    · cases front with
      | nil => exact .first (by rwa [List.append_nil])
      | cons d front =>
        have hne : d :: front ≠ [] := List.cons_ne_nil d front
        have hmem : (d :: front).getLast hne ∈ w := by
          rw [hfront]
          exact List.mem_append_left beyond (List.getLast_mem hne)
        rw [List.getLast?_append, List.getLast?_eq_some_getLast hne, Option.some_or] at hu
        exact absurd hu (by simp [hword _ hmem])
    · have := congrArg List.length hw'
      rw [List.length_append, List.length_append] at this
      obtain rfl : front = [] := List.length_eq_zero_iff.1 (by omega)
      rw [List.append_nil] at hfront
      exact .first (hfront ▸ hgap)
  · rw [hrest] at hu ⊢
    exact .next hgap (visited_of_delimited hw hword (any_getLast?_of_append hu))
termination_by u.length
decreasing_by
  have := List.length_pos_iff.2 hw
  simp only [hrest, List.length_append]
  omega

/-! ### Whole identifiers -/

/-- A word of names: an ASCII letter or an underscore, and characters of words. -/
def IsIdentifier (w : List Char) : Prop :=
  ∃ c tail, w = c :: tail ∧ isNameStart c = true ∧ ∀ d ∈ tail, isWord d = true

/-- A word stands in a text with none of a class of characters beside it. -/
def StandsIn (p : Char → Bool) (cs w : List Char) : Prop :=
  ∃ u v, cs = u ++ w ++ v ∧ Delimited p u v

theorem IsIdentifier.ne_nil (h : IsIdentifier w) : w ≠ [] := by
  obtain ⟨c, tail, rfl, -⟩ := h
  exact List.cons_ne_nil c tail

theorem IsIdentifier.isWord (h : IsIdentifier w) : ∀ d ∈ w, isWord d = true := by
  obtain ⟨c, tail, rfl, hstart, htail⟩ := h
  exact List.forall_mem_cons.2 ⟨isWord_of_isNameStart hstart, htail⟩

/-- The name of a parameter is an identifier. -/
theorem isIdentifier_of_declaredName? {piece : List Char} {h : Hit}
    (hh : declaredName? piece = some h) : IsIdentifier h.text := by
  obtain ⟨front, pre, back, -, -, hname⟩ := nameAt_of_declaredName? hh
  exact hname.name

/-- What a name starts with joins a word. -/
theorem joins_of_isNameStart (h : isNameStart c = true) : joins c = true := by
  refine of_ascii (P := fun c => isNameStart c = true → joins c = true) ?_
    (toNat_lt_of_isNameStart h) h
  decide +kernel

/-- The whole occurrences of an identifier are among those that the search visits. -/
theorem standsIn_iff_visited (hw : IsIdentifier w) : StandsIn isWord cs w ↔
    ∃ u v, cs = u ++ w ++ v ∧ Visited w u ∧ Delimited isWord u v :=
  exists₂_congr fun _ _ => and_congr_right fun _ =>
    ⟨fun h => ⟨visited_of_delimited hw.ne_nil hw.isWord h.1, h⟩, And.right⟩

/-- Texts that two classes of characters have alike are delimited alike. -/
theorem delimited_congr {q : Char → Bool} (hu : ∀ d ∈ u, p d = q d) (hv : ∀ d ∈ v, p d = q d) :
    Delimited p u v ↔ Delimited q u v := by
  have hany : ∀ o : Option Char, (∀ d ∈ o, p d = q d) → o.any p = o.any q := by
    rintro (_ | d) ho
    · rfl
    · exact ho d rfl
  rw [Delimited, Delimited, hany _ fun d hd => hu d (List.mem_of_getLast? hd),
    hany _ fun d hd => hv d (List.mem_of_head? hd)]

/-- In a text without characters on which the two classes differ, the words mentioned are those
that stand in it. -/
theorem mentions_iff_standsIn (hw : IsIdentifier w) (hcs : ∀ d ∈ cs, joins d = isWord d) :
    mentions cs w = true ↔ StandsIn isWord cs w := by
  rw [mentions_iff_visited hw.ne_nil, standsIn_iff_visited hw]
  refine exists₂_congr fun u v => and_congr_right fun heq => and_congr_right fun _ => ?_
  exact delimited_congr (fun d hd => hcs d (by simp [heq, hd])) fun d hd =>
    hcs d (by simp [heq, hd])

/-- A word before one more character stands there alone exactly if that character is not of the
class. -/
theorem standsIn_concat_iff {tail : List Char} {d : Char} (hc : p c = true) :
    StandsIn p (c :: tail ++ [d]) (c :: tail) ↔ p d = false := by
  constructor
  · rintro ⟨u, v, heq, hu, hv⟩
    cases u with
    | nil =>
      obtain rfl := List.append_cancel_left heq
      simpa using hv
    | cons x u =>
      -- then the word ends the text, and its own first character is in front of it
      have hlength := congrArg List.length heq
      simp only [List.length_append, List.length_cons, List.length_nil] at hlength
      obtain rfl : u = [] := List.length_eq_zero_iff.1 (by omega)
      obtain rfl : c = x := (List.cons.inj heq).1
      exact absurd hu (by simp [hc])
  · intro hd
    exact ⟨[], [d], rfl, rfl, by simpa using hd⟩

/-- Before one more character the search finds it exactly if that character joins no word. -/
theorem mentions_concat_iff {tail : List Char} {d : Char} (hc : joins c = true) :
    mentions (c :: tail ++ [d]) (c :: tail) = true ↔ joins d = false := by
  rw [mentions_iff_visited (List.cons_ne_nil c tail)]
  constructor
  · rintro ⟨u, v, heq, -, hd⟩
    exact (standsIn_concat_iff hc).1 ⟨u, v, heq, hd⟩
  · intro hd
    exact ⟨[], [d], rfl, .first (.nil _), rfl, by simpa using hd⟩

/-- **What counts as a use of a parameter:** in a body without characters on which the two
classes differ, that its name is a whole identifier of the body. -/
theorem isSome_unused?_iff {body before piece : List Char} {h : Hit}
    (hh : declaredName? piece = some h) (hbody : ∀ d ∈ body, joins d = isWord d) :
    (unused? body before piece).isSome = true ↔
      isExempt h.text = false ∧ ¬ StandsIn isWord body h.text := by
  rw [unused?, hh, Option.bind_some,
    ← mentions_iff_standsIn (isIdentifier_of_declaredName? hh) hbody, ← Bool.not_eq_true,
    isExempt_iff, ← not_or, or_assoc, or_assoc]
  split
  next hused => exact iff_of_false Bool.false_ne_true (not_not_intro hused)
  next hunused => exact iff_of_true rfl hunused

/-- **The search is right exactly as far as the two classes agree.**  It finds an identifier at
the places it visits, where nothing that joins a word is beside it; the whole occurrences of the
identifier are all visited.  So in texts over an alphabet, mentioned is what stands there whole,
exactly if the alphabet has no number of another kind, and no mark, connector or joiner that is
not alphabetic. -/
theorem mentions_exact (hw : IsIdentifier w) :
    (∀ cs, mentions cs w = true ↔
      ∃ u v, cs = u ++ w ++ v ∧ Visited w u ∧ Delimited joins u v) ∧
    (∀ cs, StandsIn isWord cs w ↔
      ∃ u v, cs = u ++ w ++ v ∧ Visited w u ∧ Delimited isWord u v) ∧
    ∀ A : Char → Prop, (∀ d ∈ w, A d) →
      ((∀ cs, (∀ d ∈ cs, A d) → (mentions cs w = true ↔ StandsIn isWord cs w)) ↔
        ∀ d, A d → isOtherNumber d = false ∧ isAttached d = false) := by
  refine ⟨fun cs => mentions_iff_visited hw.ne_nil, fun cs => standsIn_iff_visited hw,
    fun A hA => ⟨fun hall d hd => ?_, fun hagree cs hcs => ?_⟩⟩
  · obtain ⟨c, tail, rfl, hstart, -⟩ := hw
    have htext : ∀ x ∈ c :: tail ++ [d], A x := fun x hx => by
      rcases List.mem_append.1 hx with hx | hx
      · exact hA x hx
      · rwa [List.mem_singleton.1 hx]
    have hiff := hall _ htext
    rw [mentions_concat_iff (joins_of_isNameStart hstart),
      standsIn_concat_iff (isWord_of_isNameStart hstart)] at hiff
    rw [← joins_eq_isWord_iff, Bool.eq_iff_iff]
    simpa only [Bool.not_eq_false] using not_congr hiff
  · exact mentions_iff_standsIn hw fun d hd => (joins_eq_isWord_iff d).2 (hagree d (hcs d hd))

/-- Texts of ASCII have none of these characters. -/
theorem mentions_exact_ascii : IsIdentifier "x".toList ∧ (∀ d ∈ "x".toList, d.toNat < 128) ∧
    ∀ cs : List Char, (∀ d ∈ cs, d.toNat < 128) →
      (mentions cs "x".toList = true ↔ StandsIn isWord cs "x".toList) :=
  have hx : IsIdentifier "x".toList := ⟨'x', [], rfl, by decide, by simp⟩
  have hmem : ∀ d ∈ "x".toList, d.toNat < 128 := by simp
  have hascii : ∀ d : Char, d.toNat < 128 → isOtherNumber d = false ∧ isAttached d = false := by
    intro d hd
    refine of_ascii (P := fun d => isOtherNumber d = false ∧ isAttached d = false) ?_ hd
    decide +kernel
  ⟨hx, hmem, ((mentions_exact hx).2.2 (fun d => d.toNat < 128) hmem).2 hascii⟩

/-- **A whole identifier of a text need not be found:** not before a superscript. -/
theorem not_mentionsWhole :
    ¬ ∀ cs w, IsIdentifier w → (mentions cs w = true ↔ StandsIn isWord cs w) := by
  intro hall
  have hx : IsIdentifier "x".toList := ⟨'x', [], rfl, by decide, by simp⟩
  have hstands : StandsIn isWord "x²".toList "x".toList :=
    ⟨[], "²".toList, by decide, by decide +kernel⟩
  have hfound : mentions "x²".toList "x".toList = false := by decide +kernel
  exact Bool.false_ne_true (hfound.symm.trans ((hall _ _ hx).2 hstands))

/-- And what is found need not be whole: the accent belongs to the letter in front of it. -/
example : mentions "e\u0301".toList "e".toList = true ∧ isWord '\u0301' = true := by
  decide +kernel

end Diagnostic
end LintWorkspace
