/-
# Walking a disk along a pattern

A walk takes a pattern component by component.  Other than in matching a text, a
wildcard stays within its component: a component without wildcards leads to one
entry, any other to the entries of the directory whose names it matches, and
`**` to all directories below.  A component with wildcards that starts with a dot
also leads to the entries `.` and `..` when it matches them.

A walk finds files.  So a pattern that ends with a slash or with `**` finds none.
-/

import LintWorkspace.Disk.Basic
import LintWorkspace.Glob.Pattern

namespace LintWorkspace
namespace Glob

/-- Where a walk has come to.  `isBare` says that the place is still written as a lone dot. -/
structure Stop where
  place : Location
  isBare : Bool

/-- Where a component without wildcards leads, if it leads anywhere. -/
def Stop.enter? (d : Disk) (s : Stop) (name : String) : Option Stop :=
  if d.entryAt s.place ≠ some .directory then none
  else if name = "" then if s.isBare then none else some s
  else if name = "." then some s
  else
    let next := Disk.enterSegment s.place name
    if (d.entryAt next).isSome then some ⟨next, false⟩ else none

/-- The file at a stop, if one is there. -/
def Stop.file (d : Disk) (s : Stop) : List Location :=
  match d.entryAt s.place with
  | some (.file _) => [s.place]
  | _ => []

/-- The special entries of a directory that a component with wildcards matches. -/
def specials (p : Pattern) : List String :=
  if p.tokens.head? = some (.char '.') then [".", ".."].filter p.matchesText else []

/-- The files that the components lead to from a stop.  The number bounds the steps. -/
def walk (d : Disk) : Nat → List Pattern → Stop → List Location
  | 0, _, _ => []
  | _ + 1, [], _ => []
  | n + 1, p :: rest, s =>
    let onward (rest : List Pattern) (s : Stop) : List Location :=
      if rest.isEmpty then s.file d else walk d n rest s
    match p.literal? with
    | some name => ((s.enter? d name).map (onward rest)).getD []
    | none =>
      if d.entryAt s.place ≠ some .directory then []
      else
        let named (q : Pattern) (rest : List Pattern) (name : Name) : List Location :=
          if q.matchesText name.text then onward rest ⟨s.place.child name, false⟩ else []
        let visit (name : Name) : List Location :=
          if p.isRecursive then
            let rest := rest.dropWhile Pattern.isRecursive
            let below := if d.entryAt (s.place.child name) = some .directory then
                walk d n (p :: rest) ⟨s.place.child name, false⟩
              else []
            below ++ match rest with
              | [] => []
              | q :: rest => named q rest name
          else named p rest name
        (d.children s.place).flatMap visit ++
          (specials p).flatMap fun name => ((s.enter? d name).map (onward rest)).getD []

/-- The greatest number of names on the way to an entry. -/
def depth (d : Disk) : Nat := (d.entries.map fun e => e.1.names.length).foldl max 0

/-- The components of a pattern, and whether they start at the root. -/
def components (text : String) : Bool × List (List Char) :=
  let cs := text.toList
  let (rooted, cs) := match cs with
    | '/' :: cs => (true, cs)
    | cs => (false, cs)
  let pieces := Text.splitOn '/' cs
  (rooted, if pieces.getLast? = some [] then pieces.dropLast else pieces)

/-- The files on a disk that a pattern finds; a component can fail to be a pattern even
where the whole is one. -/
def find (d : Disk) (text : String) : Except PatternFault (List Location) := do
  let _ ← Pattern.ofText text
  let (rooted, pieces) := components text
  let patterns ← pieces.mapM fun cs => Pattern.ofText (String.ofList cs)
  if text.endsWith "/" then return []
  else
    let start : Stop := if rooted then ⟨.root, false⟩ else ⟨d.cwd, true⟩
    return walk d ((patterns.length + 1) * (depth d + 2)) patterns start

end Glob
end LintWorkspace
