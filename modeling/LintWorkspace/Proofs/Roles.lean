/-
# The roles of a path

A path can play more than one role in a project: a document of the ruleset can be
declared as an analyzer, and a file with either of these roles can be matched by a
pattern for sources.  `rolesAt` names all the parts of a project that a change at a
path is about.  What a change asks for is the first of them (`workFor_eq_first`).

| roles of the path | the change asks for |
| --- | --- |
| none | nothing |
| one, or the definition's | that part, or everything |
| two or three | the first part only |

So a change of a path with several roles leaves the other parts as they were, and a
project at rest can list a source that was deleted and told of (`not_coversRoles`).
-/

import LintWorkspace.Proofs.Filter
import LintWorkspace.Proofs.Freshness

namespace LintWorkspace

namespace Scope

/-- The first part of a scope; a definition stands for everything. -/
def first (s : Scope) : Scope :=
  if s.definition then full
  else if s.ruleset then rulesetOnly
  else if s.analyzers then analyzersOnly
  else if s.sources then sourcesOnly
  else none

/-- A scope has no more than one part. -/
def IsSingle (s : Scope) : Prop :=
  (s.ruleset = true → s.analyzers = false ∧ s.sources = false) ∧
    (s.analyzers = true → s.sources = false)

instance (s : Scope) : Decidable s.IsSingle := inferInstanceAs (Decidable (_ ∧ _))

/-- The first part is nothing only where there is no part. -/
theorem isEmpty_first (s : Scope) : s.first.isEmpty = s.isEmpty := by
  obtain ⟨r, a, src, d⟩ := s
  cases r <;> cases a <;> cases src <;> cases d <;> rfl

/-- The first part is all there is exactly if there is one part, or everything. -/
theorem covers_first_iff {s : Scope} :
    s.first.covers s = true ↔ s.definition = true ∨ s.IsSingle := by
  obtain ⟨r, a, src, d⟩ := s
  cases r <;> cases a <;> cases src <;> cases d <;> decide

end Scope

namespace OpenProject

variable {p : OpenProject} {l : Location} {kind : Change.Kind}

/-- A location is a declared analyzer, or a directory above one. -/
def holdsAnalyzer (p : OpenProject) (l : Location) : Bool :=
  p.snapshot.hasAnalyzer l.toPath || p.snapshot.analyzerPaths.any fun a => a.isWithin l

/-- The parts of a project that a change at a location is about; at the definition these are
all. -/
def rolesAt (p : OpenProject) (l : Location) (kind : Change.Kind) : Scope :=
  if l = p.snapshot.definition then .full
  else {
    ruleset := p.watches l
    analyzers := p.holdsAnalyzer l
    sources := kind ≠ .modified && p.snapshot.admits l.toPath
    definition := false }

/-- A location has a definition's role only if it is the definition. -/
theorem definition_rolesAt : (p.rolesAt l kind).definition = true ↔ l = p.snapshot.definition := by
  unfold rolesAt
  split
  · rename_i hdef
    exact iff_of_true rfl hdef
  · rename_i hdef
    exact iff_of_false Bool.false_ne_true hdef

/-- **A change asks for the first part that it is about.** -/
theorem workFor_eq_first (p : OpenProject) (l : Location) (kind : Change.Kind) :
    p.workFor l kind = (p.rolesAt l kind).first := by
  unfold workFor rolesAt
  by_cases hdef : l = p.snapshot.definition
  · simp only [hdef, if_true]
    rfl
  · simp only [hdef, if_false]
    rfl

/-- A change is filtered out only where it is about nothing. -/
theorem isEmpty_workFor (p : OpenProject) (l : Location) (kind : Change.Kind) :
    (p.workFor l kind).isEmpty = (p.rolesAt l kind).isEmpty := by
  rw [workFor_eq_first, Scope.isEmpty_first]

/-- **A change asks for all that it is about exactly if its path has one role,** or is the
definition. -/
theorem covers_rolesAt_iff : (p.workFor l kind).covers (p.rolesAt l kind) = true ↔
    l = p.snapshot.definition ∨ (p.rolesAt l kind).IsSingle := by
  rw [workFor_eq_first, Scope.covers_first_iff, definition_rolesAt]

end OpenProject

namespace Session
namespace Run

/-- What changes ask for covers every role of their paths, in every project of every run. -/
def CoversRoles : Prop :=
  ∀ (r : Run Unit) (n : Nat) (id : String) (p : OpenProject) (l : Location) (kind : Change.Kind),
    r.project n id = some p → (p.workFor l kind).covers (p.rolesAt l kind) = true

/-- The analyzer that is a source of its project as well. -/
def twofold : Location := Path.normalize .root (.ofText "/w/p/x.pack")

/-- A run in which a file that is both an analyzer and a source is deleted, and the project
is told. -/
def deleting : Run Unit where
  options := ⟨.ofText "/staging", true⟩
  disk := ⟨.root, [
    (Path.normalize .root (.ofText "/w"), .directory),
    (Path.normalize .root (.ofText "/w/a.toml"),
      .file "sources = [\"p/*.pack\"]\nanalyzers = [\"p/x.pack\"]".toUTF8),
    (Path.normalize .root (.ofText "/w/p"), .directory),
    (twofold, .file "name = \"x\"".toUTF8)]⟩
  memory := ()
  listen := fun _ _ => ([], ())
  calls
    | 0 => some (.addProject (.ofText "/w/a.toml") fun _ m => m)
    | 3 => some (.visit fun w m => (w.disk.dropTree twofold, m))
    | 5 => some (.notify [⟨.ofText "/w/p/x.pack", .deleted⟩] fun m => m)
    | _ => none

/-- **A file that was deleted, and told of, can stay a source** of a project at rest: as it
was an analyzer too, the change asked for the analyzers only. -/
theorem not_coversRoles : ¬ CoversRoles ∧
    ∃ p, deleting.project 12 "a" = some p ∧ AtRest deleting "a" 12 p ∧ p.status = .idle ∧
      (deleting.world 12).disk.entryAt twofold = none ∧ twofold ∈ p.snapshot.sources := by
  constructor
  · intro hcovers
    have hlost : (deleting.project 5 "a").any (fun p =>
        !(p.workFor twofold .deleted).covers (p.rolesAt twofold .deleted)) = true := by
      decide +kernel
    obtain ⟨p, hp, hlost⟩ := (Option.any_eq_true _ _).1 hlost
    simp [hcovers deleting 5 "a" p twofold .deleted hp] at hlost
  · have hstale : (deleting.project 12 "a").any (fun p =>
        p.status = .idle ∧ twofold ∈ p.snapshot.sources) = true := by decide +kernel
    obtain ⟨p, hp, hstale⟩ := (Option.any_eq_true _ _).1 hstale
    obtain ⟨hidle, hsource⟩ := of_decide_eq_true hstale
    have hdone : (deleting.state 12).isDone = true := by decide +kernel
    have hgone : (deleting.world 12).disk.entryAt twofold = none := by decide +kernel
    exact ⟨p, hp, atRest_of_isDone hp hdone, hidle, hgone, hsource⟩

end Run
end Session
end LintWorkspace
