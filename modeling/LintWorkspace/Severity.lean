/-
# Severities

The four levels at which a code is reported, in order, and the words that name
them.  A word is read without regard to case and to the blanks around it.

| word | severity |
| --- | --- |
| `hidden` | `hidden` |
| `info` | `info` |
| `warn`, `warning` | `warn` |
| `error` | `error` |
-/

import LintWorkspace.Text.Blank

namespace LintWorkspace

/-- The level at which a diagnostic code is reported. -/
inductive Severity where
  | hidden
  | info
  | warn
  | error
deriving DecidableEq, Repr

/-- A word that names no severity, trimmed and in lower case. -/
structure UnknownSeverity where
  word : String
deriving DecidableEq, Repr

namespace UnknownSeverity

/-- The wording of the refusal. -/
def message (e : UnknownSeverity) : String := s!"unknown severity '{e.word}'"

end UnknownSeverity

namespace Severity

/-- The word a severity is written as. -/
def text : Severity → String
  | hidden => "hidden"
  | info => "info"
  | warn => "warn"
  | error => "error"

/-- The place of a severity in the order `hidden < info < warn < error`. -/
def rank : Severity → Nat
  | hidden => 0
  | info => 1
  | warn => 2
  | error => 3

instance : LE Severity := ⟨fun a b => a.rank ≤ b.rank⟩

instance : DecidableRel ((· ≤ ·) : Severity → Severity → Prop) :=
  fun a b => inferInstanceAs (Decidable (a.rank ≤ b.rank))

instance : Max Severity := ⟨fun a b => if a ≤ b then b else a⟩

/-- The severity a word names. -/
def ofText (s : String) : Except UnknownSeverity Severity :=
  let word := String.ofList (Text.lowerAscii (Text.trim s.toList))
  if word = "hidden" then .ok hidden
  else if word = "info" then .ok info
  else if word = "warn" ∨ word = "warning" then .ok warn
  else if word = "error" then .ok error
  else .error ⟨word⟩

/-- A severity is read back from its own word. -/
theorem ofText_text (s : Severity) : ofText s.text = .ok s := by
  cases s <;> rfl

end Severity
end LintWorkspace
