/-
# Two classes of word characters

Names go on over the characters of words.  What stands beside a word is asked for another class:
whether it is alphabetic, a number or an underscore.  The two differ, and in both directions:

| characters | in names | beside a word |
| --- | --- | --- |
| letters, their alphabetic marks, decimal digits, numeric letters, `_` | yes | yes |
| numbers of other kinds, as `²` | no | yes |
| marks, connectors and joiners that are not alphabetic, as U+0301 | yes | no |

A set is compared with others as a number, one binary digit for each code: then every Boolean
combination of tables is one operation on numbers.
-/

import LintWorkspace.Diagnostic.Parameter
import LintWorkspace.Unicode.Category
import LintWorkspace.Unicode.Property
import Mathlib.Algebra.Group.Nat.Defs
import Mathlib.Data.List.Chain

namespace LintWorkspace

namespace CharSet

variable {bs : List Nat} {s : CharSet} {inside : Bool}

/-- The number whose binary digits change at the bounds of a set, from the top down. -/
def digits : List Nat → Nat
  | [] => 0
  | b :: bs => (2 ^ b - 1) ^^^ digits bs

/-- A set of stretches: its bounds increase, and the last of them ends a stretch. -/
def Closed (s : CharSet) : Prop := s.bounds.IsChain (· < ·) ∧ s.bounds.length % 2 = 0

instance (s : CharSet) : Decidable s.Closed := inferInstanceAs (Decidable (_ ∧ _))

/-- Below all bounds nothing has changed yet. -/
theorem holdsFrom_of_forall_lt {n : Nat} (h : ∀ b ∈ bs, n < b) :
    holdsFrom n inside bs = inside := by
  cases bs with
  | nil => rfl
  | cons b bs => rw [holdsFrom, if_pos (h b List.mem_cons_self)]

/-- Membership is the digit, up to what holds behind the last bound. -/
theorem holdsFrom_eq (hbs : bs.IsChain (· < ·)) (n : Nat) (inside : Bool) :
    holdsFrom n inside bs = (inside ^^ (bs.length % 2 == 1) ^^ (digits bs).testBit n) := by
  induction bs generalizing inside with
  | nil => simp [holdsFrom, digits]
  | cons b bs ih =>
    have hrest := ih (List.isChain_cons.1 hbs).2
    have hparity : ((b :: bs).length % 2 == 1) = !(bs.length % 2 == 1) := by
      rw [List.length_cons, Bool.eq_iff_iff]
      simp only [beq_iff_eq, Bool.not_eq_true', beq_eq_false_iff_ne]
      omega
    rw [holdsFrom, digits, Nat.testBit_xor, Nat.testBit_two_pow_sub_one, hparity]
    by_cases hn : n < b
    · have hbelow : ∀ c ∈ bs, n < c := fun c hc =>
        Nat.lt_trans hn (List.rel_of_pairwise_cons (List.isChain_iff_pairwise.1 hbs) hc)
      have heq := hrest inside
      rw [holdsFrom_of_forall_lt hbelow] at heq
      rw [if_pos hn, decide_eq_true hn]
      revert heq
      cases inside <;> cases bs.length % 2 == 1 <;> cases (digits bs).testBit n <;> simp
    · rw [if_neg hn, decide_eq_false hn, hrest]
      cases inside <;> cases bs.length % 2 == 1 <;> simp

/-- **The members of a set of stretches are the digits of its number.** -/
theorem Closed.contains_eq (h : s.Closed) (c : Char) :
    s.contains c = (digits s.bounds).testBit c.toNat := by
  rw [contains, holds, holdsFrom_eq h.1, show (s.bounds.length % 2 == 1) = false by simp [h.2]]
  simp

end CharSet

namespace Diagnostic

open CharSet (digits)
open Unicode

/-- The digits of one number without those of another. -/
def without (m n : Nat) : Nat := m ^^^ (m &&& n)

theorem testBit_without (m n i : Nat) :
    (without m n).testBit i = (m.testBit i && !n.testBit i) := by
  rw [without, Nat.testBit_xor, Nat.testBit_and]
  cases m.testBit i <;> cases n.testBit i <;> rfl

/-- The characters of words that are neither alphabetic nor an underscore: marks, connectors and
joiners. -/
def isAttached (c : Char) : Bool :=
  (Category.nonspacingMark.contains c || Category.spacingMark.contains c ||
    Category.enclosingMark.contains c || Category.connectorPunctuation.contains c ||
    Property.joinControl.contains c) && !(Property.alphabetic.contains c || c = '_')

/-- The numbers that are neither decimal digits nor letters. -/
def isOtherNumber (c : Char) : Bool := Category.otherNumber.contains c

/-- One character as a digit. -/
theorem testBit_char (c d : Char) : (2 ^ d.toNat).testBit c.toNat = decide (c = d) := by
  rw [Nat.testBit_two_pow, decide_eq_decide, eq_comm, Char.toNat_inj]

theorem isWord_eq (c : Char) : isWord c = (digits word.bounds).testBit c.toNat :=
  CharSet.Closed.contains_eq (s := word) (by decide +kernel) c

theorem joins_eq (c : Char) :
    joins c = (digits alphanumeric.bounds ||| 2 ^ '_'.toNat).testBit c.toNat := by
  rw [joins, isAlphanumeric, CharSet.Closed.contains_eq (s := alphanumeric) (by decide +kernel) c,
    Nat.testBit_or, testBit_char]

/-- **What joins a word and is no character of words** is a number of another kind. -/
theorem joins_and_not_isWord (c : Char) : (joins c && !isWord c) = isOtherNumber c := by
  have hdigits : without (digits alphanumeric.bounds ||| 2 ^ '_'.toNat) (digits word.bounds) =
      digits Category.otherNumber.bounds := by decide +kernel
  rw [joins_eq, isWord_eq, ← testBit_without, hdigits, isOtherNumber,
    CharSet.Closed.contains_eq (s := Category.otherNumber) (by decide +kernel) c]

/-- **What is a character of words and does not join one** is a mark, a connector or a joiner,
and neither alphabetic nor an underscore. -/
theorem isWord_and_not_joins (c : Char) : (isWord c && !joins c) = isAttached c := by
  have hdigits : without (digits word.bounds) (digits alphanumeric.bounds ||| 2 ^ '_'.toNat) =
      without (digits Category.nonspacingMark.bounds ||| digits Category.spacingMark.bounds |||
          digits Category.enclosingMark.bounds ||| digits Category.connectorPunctuation.bounds |||
          digits Property.joinControl.bounds)
        (digits Property.alphabetic.bounds ||| 2 ^ '_'.toNat) := by decide +kernel
  have hset : ∀ s : CharSet, s.Closed → s.contains c = (digits s.bounds).testBit c.toNat :=
    fun _ h => h.contains_eq c
  rw [joins_eq, isWord_eq, ← testBit_without, hdigits, testBit_without, isAttached,
    hset Category.nonspacingMark (by decide +kernel), hset Category.spacingMark (by decide +kernel),
    hset Category.enclosingMark (by decide +kernel),
    hset Category.connectorPunctuation (by decide +kernel),
    hset Property.joinControl (by decide +kernel), hset Property.alphabetic (by decide +kernel)]
  simp only [Nat.testBit_or, testBit_char]

/-- The two classes agree on all other characters. -/
theorem joins_eq_isWord_iff (c : Char) :
    joins c = isWord c ↔ isOtherNumber c = false ∧ isAttached c = false := by
  rw [← joins_and_not_isWord, ← isWord_and_not_joins]
  cases joins c <;> cases isWord c <;> simp

/-- A superscript, and an accent that is a character of its own. -/
example : isOtherNumber '²' = true ∧ isAttached '\u0301' = true := by decide +kernel

end Diagnostic
end LintWorkspace
