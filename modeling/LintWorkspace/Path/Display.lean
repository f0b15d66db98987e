/-
# Paths as they are shown

A path that lies below the working directory is shown relative to it, any other
path as it is written.
-/

import LintWorkspace.Path.Location

namespace LintWorkspace
namespace Path

/-- What is left of a list after a leading part, if it has that part. -/
def afterPart? {α : Type} [DecidableEq α] : List α → List α → Option (List α)
  | [], rest => some rest
  | _ :: _, [] => none
  | x :: part, y :: rest => if x = y then afterPart? part rest else none

theorem eq_append_of_afterPart? {α : Type} [DecidableEq α] {part xs rest : List α}
    (h : afterPart? part xs = some rest) : xs = part ++ rest := by
  induction part generalizing xs with
  | nil => exact Option.some.inj h
  | cons x part ih =>
    cases xs with
    | nil => simp [afterPart?] at h
    | cons y xs =>
      rw [afterPart?] at h
      split at h
      · rename_i hxy
        rw [hxy, ih h, List.cons_append]
      · simp at h

/-- The text shown for a path: relative to the working directory when the path lies
strictly below it and does not climb out at once. -/
def shownFrom (cwd : Location) (p : Path) : String :=
  match afterPart? cwd.toPath.components p.components with
  | some (c :: rest) =>
    if c = .up then p.text else "/".intercalate ((c :: rest).map Component.text)
  | _ => p.text

end Path
end LintWorkspace
