/-
# Dates and times

| form | example |
| --- | --- |
| a date | `1979-05-27` |
| a time | `07:32`, `07:32:00.5` |
| both | `1979-05-27T07:32:00`, `1979-05-27 07:32:00` |
| both, with an offset | `1979-05-27T07:32:00Z`, `1979-05-27T07:32:00-07:00` |

Only the form and the ranges of the numbers are read; a moment carries no value.
-/

import LintWorkspace.Toml.Number

namespace LintWorkspace
namespace Toml

/-- Takes a number of exactly `count` digits. -/
def fixedDigits? (count : Nat) : Reader Nat := fun cs => do
  let ds ← (cs.take count).mapM (digitBelow? 10)
  if ds.length < count then none else some (ofDigits 10 ds, cs.drop count)

/-- What follows a character at the head of a text. -/
def after? (c : Char) : List Char → Option (List Char)
  | d :: cs => if d = c then some cs else none
  | [] => none

/-- The number of days of a month. -/
def daysIn (year month : Nat) : Nat :=
  if month = 2 then
    if year % 4 = 0 ∧ (year % 100 ≠ 0 ∨ year % 400 = 0) then 29 else 28
  else if month = 4 ∨ month = 6 ∨ month = 9 ∨ month = 11 then 30
  else 31

/-- What follows a date at the head of a text. -/
def afterDate? (cs : List Char) : Option (List Char) := do
  let (year, cs) ← fixedDigits? 4 cs
  let (month, cs) ← fixedDigits? 2 (← after? '-' cs)
  let (day, cs) ← fixedDigits? 2 (← after? '-' cs)
  if 1 ≤ month ∧ month ≤ 12 ∧ 1 ≤ day ∧ day ≤ daysIn year month then some cs else none

/-- What follows hours and minutes at the head of a text. -/
def afterMinutes? (cs : List Char) : Option (List Char) := do
  let (hour, cs) ← fixedDigits? 2 cs
  let (minute, cs) ← fixedDigits? 2 (← after? ':' cs)
  if hour ≤ 23 ∧ minute ≤ 59 then some cs else none

/-- What follows a time at the head of a text; the seconds may be left out. -/
def afterTime? (cs : List Char) : Option (List Char) := do
  let cs ← afterMinutes? cs
  match after? ':' cs with
  | none => some cs
  | some cs =>
    let (second, cs) ← fixedDigits? 2 cs
    if 60 < second then none
    else match after? '.' cs with
      | none => some cs
      | some cs =>
        let digit (c : Char) : Bool := (digitBelow? 10 c).isSome
        if (cs.takeWhile digit).isEmpty then none else some (cs.dropWhile digit)

/-- Whether a text is an offset from universal time, or empty. -/
def isOffset : List Char → Bool
  | [] => true
  | [c] => c = 'Z' || c = 'z'
  | c :: cs => (c = '+' || c = '-') && afterMinutes? cs = some []

/-- Whether a run writes a date, a time or both. -/
def isMoment (cs : List Char) : Bool :=
  match afterDate? cs with
  | some [] => true
  | some (c :: cs) =>
    (c = 'T' || c = 't' || c = ' ') &&
      match afterTime? cs with
      | some cs => isOffset cs
      | none => false
  | none => afterTime? cs = some []

example : isMoment "1979-05-27T07:32:00.999-07:00".toList = true := by decide
example : isMoment "2023-02-29".toList = false := by decide

end Toml
end LintWorkspace
