/-
# Positions in a text

A position counts lines and, within a line, characters, both from one.  A line
ends behind its line feed.
-/

namespace LintWorkspace
namespace Diagnostic

/-- A place in a text for a reader. -/
structure Position where
  line : Nat
  column : Nat
deriving DecidableEq, Repr

/-- The position of the first character. -/
def Position.start : Position := ⟨1, 1⟩

/-- The position behind a character. -/
def Position.next (p : Position) (c : Char) : Position :=
  if c = '\n' then ⟨p.line + 1, 1⟩ else ⟨p.line, p.column + 1⟩

/-- The position before the character at an offset. -/
def positionAt (cs : List Char) (offset : Nat) : Position :=
  (cs.take offset).foldl Position.next .start

/-- Positions in the order of a text. -/
def Position.precedes (p q : Position) : Bool :=
  p.line < q.line || (p.line = q.line && p.column < q.column)

theorem foldl_next_line (cs : List Char) (p : Position) :
    (cs.foldl Position.next p).line = p.line + cs.count '\n' := by
  induction cs generalizing p with
  | nil => simp
  | cons c cs ih =>
    rw [List.foldl_cons, ih, Position.next]
    by_cases h : c = '\n'
    · simp [h]
      omega
    · simp [h]

/-- The line of a position is one more than the line feeds before it. -/
theorem positionAt_line (cs : List Char) (offset : Nat) :
    (positionAt cs offset).line = (cs.take offset).count '\n' + 1 := by
  rw [positionAt, foldl_next_line, Position.start, Nat.add_comm]

end Diagnostic
end LintWorkspace
