/-
# Locations: paths with nothing left to fold

A location is an absolute path in its one canonical form, the list of names
from the root.  `Path.normalize` takes a written path to its location without
asking the disk: `.` stays, `..` drops the last name (and stays at the root),
an absolute path forgets the directory it is read in.

The main statements: following the components of a location's own path leads
back to it (`normalize_toPath`), so normalizing is idempotent, and normalizing
is a fold over components (`normalize_eq_foldl`), so it composes along
concatenation of components.
-/

import LintWorkspace.Path.Basic

namespace LintWorkspace

/-- A place in the tree of files: the names on the way from the root. -/
structure Location where
  names : List Name
deriving DecidableEq

namespace Location

/-- The top of the tree. -/
def root : Location := ⟨[]⟩

/-- The directory above; the root is above itself. -/
def parent (l : Location) : Location := ⟨l.names.dropLast⟩

/-- The entry of a given name. -/
def child (l : Location) (n : Name) : Location := ⟨l.names ++ [n]⟩

/-- Where one component leads. -/
def enter (l : Location) : Component → Location
  | .root => root
  | .here => l
  | .up => l.parent
  | .name n => l.child n

/-- The written path of a location: a slash before every name, a lone slash for the root. -/
def toPath (l : Location) : Path :=
  match l.names with
  | [] => ⟨["", ""]⟩
  | names => ⟨"" :: names.map Name.text⟩

/-- The text of a location. -/
def text (l : Location) : String := l.toPath.text

/-- The last name, which the root lacks. -/
def fileName? (l : Location) : Option Name := l.names.getLast?

/-- Whether `l` is `dir` or lies below it. -/
def isWithin (l dir : Location) : Bool := dir.names.isPrefixOf l.names

/-- Locations in order: name by name, names by their characters. -/
def precedes (l m : Location) : Bool :=
  decide (l.names.map Name.text < m.names.map Name.text)

end Location

namespace Path

/-- The location a path leads to when it is read in the directory `base`, folding
`.` and `..` without touching the disk. -/
def normalize (base : Location) (p : Path) : Location := p.components.foldl Location.enter base

end Path

namespace Location

theorem isWithin_iff {l dir : Location} : l.isWithin dir = true ↔ dir.names <+: l.names := by
  rw [isWithin, List.isPrefixOf_iff_prefix]

@[simp] theorem isWithin_self (l : Location) : l.isWithin l = true :=
  isWithin_iff.2 (List.prefix_refl _)

theorem isWithin_trans {l m dir : Location} (h : l.isWithin m = true)
    (h' : m.isWithin dir = true) : l.isWithin dir = true :=
  isWithin_iff.2 ((isWithin_iff.1 h').trans (isWithin_iff.1 h))

theorem isWithin_parent (l : Location) : l.isWithin l.parent = true :=
  isWithin_iff.2 (List.dropLast_prefix l.names)

/-- What does not lie within a place is not that place. -/
theorem ne_of_not_isWithin {l dir : Location} (h : l.isWithin dir = false) : l ≠ dir := by
  rintro rfl
  simp at h

theorem components_toPath (l : Location) :
    l.toPath.components = .root :: l.names.map Component.name := by
  have hname : ∀ n : Name, Component.ofSegment? n.text = some (.name n) := by
    intro n
    have := n.legal
    unfold Component.ofSegment?
    rw [if_neg this.2.2.1, dif_pos this]
  have hmap : ∀ ns : List Name,
      (ns.map Name.text).filterMap Component.ofSegment? = ns.map Component.name := by
    intro ns
    induction ns with
    | nil => rfl
    | cons n ns ih => simp [hname n, ih]
  cases l with
  | mk names =>
    cases names with
    | nil => rfl
    | cons n ns =>
      have := hmap (n :: ns)
      simp only [List.map_cons] at this
      simp only [toPath, Path.components, List.map_cons]
      rw [this]

theorem foldl_enter_names (l : Location) (ns : List Name) :
    (ns.map Component.name).foldl enter l = ⟨l.names ++ ns⟩ := by
  induction ns generalizing l with
  | nil => simp
  | cons n ns ih => simp [enter, child, ih]

end Location

namespace Path

theorem normalize_eq_foldl (base : Location) (p : Path) :
    p.normalize base = p.components.foldl Location.enter base := rfl

/-- The path of a location leads to that location, wherever it is read. -/
theorem normalize_toPath (base l : Location) : l.toPath.normalize base = l := by
  rw [normalize, Location.components_toPath, List.foldl_cons, Location.foldl_enter_names]
  simp [Location.enter, Location.root]

end Path
end LintWorkspace
