/-
# Updates: what is said about a finished reload

Every finished reload of a project, and its opening, is announced by one update.
The updates of a project are numbered from one.  An update says which version of
the project is current after it, and if the reload failed also why.
-/

namespace LintWorkspace

/-- How a reload ended, with the version that is current after it. -/
inductive Outcome where
  | published (version : Nat)
  | degraded (version : Nat) (error : String)
deriving DecidableEq, Repr

/-- The announcement of one finished reload. -/
structure Update where
  project : String
  sequence : Nat
  outcome : Outcome
deriving DecidableEq, Repr

namespace Outcome

/-- Whether the reload succeeded. -/
def isSuccess : Outcome → Bool
  | published _ => true
  | degraded .. => false

/-- The version that is current after the reload. -/
def version : Outcome → Nat
  | published version => version
  | degraded version _ => version

end Outcome

/-- The version that an update publishes, if it publishes one. -/
def Update.published? (u : Update) : Option Nat :=
  match u.outcome with
  | .published version => some version
  | .degraded .. => none

end LintWorkspace
