/-
# The text of a document is the text it was read from

A document is its lines and a tail (`linesText_lines`).  The text it was read from has the same
lines, character for character, and each of them ends with a line break of its own
(`broken_of_ofText?`), up to two things:

| the text | the document |
| --- | --- |
| a byte order mark at its head | is read without it |
| a last line that holds something and ends with the text | has a line break behind it |
-/

import LintWorkspace.Proofs.Printing
import Mathlib.Data.List.Basic

namespace LintWorkspace
namespace Toml

variable {cs tail : List Char} {lines : List Line} {layout : Layout} {d : Document}

/-- What is added behind a text with such lines and such a tail: a line break, where the last
line lacks its own. -/
def ending (lines : List Line) (tail cs : List Char) : List Char :=
  if lines ≠ [] ∧ tail = [] ∧ cs.getLast? ≠ some '\n' then ['\n'] else []

/-- A text is lines and a tail, and each line ends with a line break of its own, `\n` or
`\r\n`. -/
inductive Broken (tail : List Char) : List Line → List Char → Prop
  | tail : Broken tail [] tail
  | line {line : Line} {lines : List Line} {body brk rest : List Char}
      (htext : line.text = body ++ ['\n']) (hbrk : brk = ['\n'] ∨ brk = ['\r', '\n'])
      (more : Broken tail lines rest) : Broken tail (line :: lines) (body ++ brk ++ rest)

/-- A text without a tail ends with a line break. -/
theorem Broken.getLast?_eq (h : Broken [] lines cs) (hne : lines ≠ []) :
    cs.getLast? = some '\n' := by
  induction h with
  | tail => exact absurd rfl hne
  | @line line lines body brk rest htext hbrk more ih =>
    cases lines with
    | nil =>
      cases more
      rcases hbrk with rfl | rfl <;> simp
    | cons line' lines =>
      have hrest := ih (by simp)
      rw [List.getLast?_append, hrest]
      rfl

theorem Lined.eq_nil (h : Lined tail lines []) : lines = [] ∧ tail = [] := by
  cases h with
  | tail => exact ⟨rfl, rfl⟩
  | line first more =>
    obtain ⟨body, brk, -, hcs, -, text, c, rfl, -⟩ := first
    simp at hcs

/-- A line with a line break behind it changes nothing about the last one. -/
theorem Lined.ending_cons (h : Lined tail lines cs) (line : Line) (ds : List Char) :
    ending (line :: lines) tail (ds ++ '\n' :: cs) = ending lines tail cs := by
  cases cs with
  | nil =>
    obtain ⟨rfl, rfl⟩ := h.eq_nil
    simp [ending]
  | cons c cs =>
    have hlast : (ds ++ '\n' :: c :: cs).getLast? = (c :: cs).getLast? := by
      rw [List.getLast?_append_of_ne_nil _ (by simp), List.getLast?_cons_cons]
    cases h with
    | tail => simp [ending]
    | line => simp only [ending, hlast, ne_eq, List.cons_ne_nil, not_false_eq_true, true_and]

/-- A text that is lines and a tail has a line break behind each line but maybe the last. -/
theorem Lined.broken (h : Lined tail lines cs) :
    Broken tail lines (cs ++ ending lines tail cs) := by
  induction h with
  | tail =>
    have hnone : ending [] tail tail = [] := by simp [ending]
    rw [hnone, List.append_nil]
    exact .tail
  | @line line lines cs rest first more ih =>
    obtain ⟨body, brk, htext, rfl, hbrk, hshut⟩ := first
    rcases hbrk with rfl | rfl | ⟨rfl, rfl⟩
    · have hending := more.ending_cons line body
      have hsplit : body ++ ['\n'] ++ rest = body ++ '\n' :: rest := by simp
      rw [hsplit, hending, ← hsplit, List.append_assoc _ rest]
      exact .line htext (.inl rfl) ih
    · have hending := more.ending_cons line (body ++ ['\r'])
      have hsplit : body ++ ['\r', '\n'] ++ rest = body ++ ['\r'] ++ '\n' :: rest := by simp
      rw [hsplit, hending, ← hsplit, List.append_assoc _ rest]
      exact .line htext (.inr rfl) ih
    · obtain ⟨rfl, rfl⟩ := more.eq_nil
      have hlast := hshut.getLast?_ne
      have hadded : body ++ [] ++ [] ++ ending [line] [] (body ++ [] ++ []) =
          body ++ ['\n'] ++ [] := by simp [ending, hlast]
      rw [hadded]
      exact .line htext (.inl rfl) .tail

/-- **The text a document was read from** is its lines, each with a line break of its own,
without a byte order mark and with a line break behind the last line. -/
theorem broken_of_ofText? (h : Document.ofText? layout cs = some d) :
    Broken d.tail d.lines
      (dropByteOrderMark cs ++ ending d.lines d.tail (dropByteOrderMark cs)) :=
  (lined_of_ofText? h).2.broken

end Toml
end LintWorkspace
