/-
# Paths as they are written

A path is the list of segments between its slashes, so `a//b/` and `a/b` are
two paths that lead to one place.  The parts are read off the segments:

| segment | means |
| --- | --- |
| empty, or `.` after the first | nothing |
| `.` at the start of a relative path | the directory the path starts from |
| `..` | the directory above |
| any other | a name |

`Path.components` is that reading, `Path.parent?` and `Path.fileName?` cut the
last component off and keep the spelling of the rest, and `Path.join` hangs one
path below another.  A path whose first segment is empty and not its last is
absolute.
-/

import LintWorkspace.Text.Blank

namespace LintWorkspace

/-- A file name: not empty, neither of the two dot segments, and without a slash. -/
def IsName (s : String) : Prop := s ≠ "" ∧ s ≠ "." ∧ s ≠ ".." ∧ '/' ∉ s.toList

instance : DecidablePred IsName := fun s => by unfold IsName; infer_instance

/-- One name on the way from the root to a file. -/
structure Name where
  text : String
  legal : IsName text
deriving DecidableEq

/-- A path as it is written, cut at the slashes. -/
structure Path where
  segments : List String
deriving DecidableEq, Repr, Inhabited

/-- What one segment of a path asks for. -/
inductive Component where
  /-- start at the root -/
  | root
  /-- stay -/
  | here
  /-- go to the directory above -/
  | up
  /-- go to the entry of that name -/
  | name (n : Name)
deriving DecidableEq

namespace Component

/-- The component a segment stands for after the first one, if it stands for any. -/
def ofSegment? (s : String) : Option Component :=
  if s = ".." then some up
  else if h : IsName s then some (name ⟨s, h⟩)
  else none

/-- The segment a component is written as. -/
def text : Component → String
  | root => "/"
  | here => "."
  | up => ".."
  | name n => n.text

end Component

namespace Path

/-- The path spelled by a text. -/
def ofText (s : String) : Path := ⟨(Text.splitOn '/' s.toList).map String.ofList⟩

/-- The text of a path. -/
def text (p : Path) : String := "/".intercalate p.segments

/-- Whether the path starts at the root. -/
def isAbsolute (p : Path) : Bool :=
  match p.segments with
  | "" :: _ :: _ => true
  | _ => false

/-- The path with an empty text, which names no file. -/
def isEmpty (p : Path) : Bool := p.segments = [""]

/-- The components of a path, in order. -/
def components (p : Path) : List Component :=
  match p.segments with
  | "" :: s :: rest => .root :: (s :: rest).filterMap Component.ofSegment?
  | "." :: rest => .here :: rest.filterMap Component.ofSegment?
  | segments => segments.filterMap Component.ofSegment?

/-- Whether two paths have the same components. -/
def sameAs (p q : Path) : Bool := p.components = q.components

/-- Whether a path starts with the components of another. -/
def startsWith (p q : Path) : Bool := q.components.isPrefixOf p.components

/-- `q` below `p`; an absolute `q` stands for itself. -/
def join (p q : Path) : Path :=
  if q.isAbsolute || p.isEmpty then q
  else if p.segments.getLast? = some "" then ⟨p.segments.dropLast ++ q.segments⟩
  else ⟨p.segments ++ q.segments⟩

/-- A segment that asks for nothing where it stands. -/
def isIdle (s : String) : Bool := s = "" || s = "."

/-- The segments without the idle ones at the end. -/
def dropIdleEnd (segments : List String) : List String :=
  (segments.reverse.dropWhile isIdle).reverse

/-- The path without its last component; the root and the empty path have no
parent.  The parent of a single relative component is the empty path. -/
def parent? (p : Path) : Option Path :=
  match p.segments with
  | "" :: s :: rest =>
    match dropIdleEnd (s :: rest) with
    | [] => none
    | body => match dropIdleEnd body.dropLast with
      | [] => some ⟨["", ""]⟩
      | above => some ⟨"" :: above⟩
  | "." :: rest =>
    match dropIdleEnd rest with
    | [] => some ⟨[""]⟩
    | body => some ⟨"." :: dropIdleEnd body.dropLast⟩
  | segments =>
    match dropIdleEnd segments with
    | [] => none
    | body => match dropIdleEnd body.dropLast with
      | [] => some ⟨[""]⟩
      | above => some ⟨above⟩

/-- The last component, if it is a name. -/
def fileName? (p : Path) : Option Name :=
  match p.components.getLast? with
  | some (.name n) => some n
  | _ => none

end Path

namespace Name

/-- The name up to its last dot; a name with no dot after its first character is
its own stem. -/
def stem (n : Name) : String :=
  match (Text.splitOn '.' n.text.toList).reverse with
  | _ :: before =>
    match ['.'].intercalate before.reverse with
    | [] => n.text
    | kept => String.ofList kept
  | [] => n.text

end Name
end LintWorkspace
