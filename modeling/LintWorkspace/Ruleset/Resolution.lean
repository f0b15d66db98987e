/-
# Resolving a ruleset

A document says: first everything its imports say, in order, a later one over an
earlier one; then its own rules, in order, over that.  So a document always has
the last word on what it builds on.

`resolve` follows the imports from a root.  Every document is read once: what it
says is kept for the next import of it (`Progress.done`).  A document on the way
from the root to itself is a cycle.  The documents reached are kept in order,
also the ones that cannot be used, so a caller can watch them for a repair.
-/

import LintWorkspace.Ruleset.Document

namespace LintWorkspace
namespace Ruleset

/-- How far a resolution has come: what finished documents say, and the documents
reached. -/
structure Progress where
  done : List (Location × Severities)
  reached : List Location

/-- What a resolution found: the severities, and the root with all documents it builds on. -/
structure Resolved where
  severities : Severities
  documents : List Location
deriving DecidableEq

/-- What a project without a ruleset has. -/
def Resolved.none : Resolved := ⟨∅, []⟩

/-- The rules of a document laid over what it builds on. -/
def applyRules (place : Location) (rules : List Rule) (below : Severities) :
    Except RulesetFault Severities :=
  rules.foldlM (fun m rule =>
    match Severity.ofText rule.action with
    | .ok s => .ok (m.insert rule.code s)
    | .error fault => .error (.invalid place.toPath (.unknownAction rule.code fault))) below

/-- The documents a document imports. -/
def targets (place : Location) (doc : Document) : List Location :=
  doc.imports.map fun i => (Path.ofText i).normalize place.parent

/-- Lays what the imports say over each other, visiting them in order until one fails. -/
def visitAll (visit : Location → Progress → Except RulesetFault Severities × Progress) :
    List Location → Severities → Progress → Except RulesetFault Severities × Progress
  | [], m, p => (.ok m, p)
  | l :: ls, m, p =>
    match visit l p with
    | (.error fault, p) => (.error fault, p)
    | (.ok n, p) => visitAll visit ls (m.merge n) p

/-- Visits a document reached along a chain of imports.  The number bounds how long the
chain may still grow. -/
def visit (read : Location → Except RulesetFault Document) :
    Nat → List Location → Location → Progress → Except RulesetFault Severities × Progress
  | 0, _, _, p => (.error (.cycle []), p)
  | n + 1, chain, l, p =>
    match p.done.lookup l with
    | some m => (.ok m, p)
    | none =>
      if l ∈ chain then (.error (.cycle (chain.dropWhile (· ≠ l) ++ [l])), p)
      else
        let p := { p with reached := p.reached ++ [l] }
        match read l with
        | .error fault => (.error fault, p)
        | .ok doc =>
          match visitAll (visit read n (chain ++ [l])) (targets l doc) ∅ p with
          | (.error fault, p) => (.error fault, p)
          | (.ok below, p) =>
            match applyRules l doc.rules below with
            | .error fault => (.error fault, p)
            | .ok m => (.ok m, { p with done := (l, m) :: p.done })

/-- Resolves the ruleset rooted at a location, and lists the documents reached.  A chain of
imports holds each entry of the disk at most once, which bounds it. -/
def resolve (d : Disk) (root : Location) : Except RulesetFault Resolved × List Location :=
  match visit (Document.read d) (d.entries.length + 1) [] root ⟨[], []⟩ with
  | (.error fault, p) => (.error fault, p.reached)
  | (.ok m, p) => (.ok ⟨m, p.reached⟩, p.reached)

end Ruleset
end LintWorkspace
