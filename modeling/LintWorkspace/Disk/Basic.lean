/-
# The disk: a tree of files and directories

A disk is a table from locations to entries, read from a working directory.
The root is always a directory; every other directory is an entry of its own.
A written path is followed segment by segment (`Disk.follow`), and every segment,
also `.`, `..` and the empty one, asks that the place it starts from be a
directory.

| fault | says |
| --- | --- |
| `notFound` | some place on the way does not exist |
| `exists` | a directory is to be made where something else is |
| `notDirectory` | a file stands where a directory is needed |
| `isDirectory` | a directory stands where a file is needed |
| `invalidText` | the bytes of a file are not UTF-8 |
-/

import LintWorkspace.Path.Location

namespace LintWorkspace

/-- What stands at a location. -/
inductive DiskEntry where
  | file (bytes : ByteArray)
  | directory

/-- Files are compared by their bytes. -/
instance : DecidableEq DiskEntry
  | .file a, .file b =>
    if h : a.data = b.data then .isTrue (congrArg DiskEntry.file (ByteArray.ext h))
    else .isFalse fun same => h (DiskEntry.file.inj same ▸ rfl)
  | .directory, .directory => .isTrue rfl
  | .file _, .directory => .isFalse nofun
  | .directory, .file _ => .isFalse nofun

/-- Why a disk refuses an operation. -/
inductive DiskFault where
  | notFound
  | exists
  | notDirectory
  | isDirectory
  | invalidText
deriving DecidableEq, Repr

namespace DiskFault

/-- The wording of a fault. -/
def message : DiskFault → String
  | notFound => "No such file or directory (os error 2)"
  | .exists => "File exists (os error 17)"
  | notDirectory => "Not a directory (os error 20)"
  | isDirectory => "Is a directory (os error 21)"
  | invalidText => "stream did not contain valid UTF-8"

end DiskFault

/-- A tree of files, with the directory that relative paths start from. -/
structure Disk where
  cwd : Location
  entries : List (Location × DiskEntry)
deriving DecidableEq

namespace Disk

/-- The entry at a location; the root is a directory. -/
def entryAt (d : Disk) (l : Location) : Option DiskEntry :=
  if l = Location.root then some .directory
  else (d.entries.find? fun e => e.1 = l).map Prod.snd

/-- Where one segment leads from a location. -/
def enterSegment (l : Location) (s : String) : Location :=
  match Component.ofSegment? s with
  | some c => l.enter c
  | none => l

/-- Follows segments from a location; every place left behind must be a directory.
The place arrived at need not exist. -/
def follow (d : Disk) : Location → List String → Except DiskFault Location
  | l, [] => .ok l
  | l, s :: rest =>
    match d.entryAt l with
    | some .directory => d.follow (enterSegment l s) rest
    | some (.file _) => .error .notDirectory
    | none => .error .notFound

/-- The location a written path leads to on this disk. -/
def locate (d : Disk) (p : Path) : Except DiskFault Location :=
  match p.segments with
  | "" :: s :: rest => d.follow Location.root (s :: rest)
  | [""] => .error .notFound
  | segments => d.follow d.cwd segments

/-- The entry a written path leads to. -/
def find (d : Disk) (p : Path) : Except DiskFault DiskEntry := do
  match d.entryAt (← d.locate p) with
  | some e => .ok e
  | none => .error .notFound

/-- The bytes of the file at a path. -/
def readBytes (d : Disk) (p : Path) : Except DiskFault ByteArray := do
  match ← d.find p with
  | .file bytes => .ok bytes
  | .directory => .error .isDirectory

/-- The text of the file at a path. -/
def readText (d : Disk) (p : Path) : Except DiskFault String := do
  match String.fromUTF8? (← d.readBytes p) with
  | some s => .ok s
  | none => .error .invalidText

/-- Whether a path leads to anything. -/
def holds (d : Disk) (p : Path) : Bool := (d.find p).isOk

/-- Whether a path leads to a directory. -/
def isDirectory (d : Disk) (p : Path) : Bool :=
  match d.find p with
  | .ok .directory => true
  | _ => false

/-- The same disk with one entry set. -/
def put (d : Disk) (l : Location) (e : DiskEntry) : Disk :=
  { d with entries := (l, e) :: d.entries.filter fun x => x.1 ≠ l }

/-- The same disk without a location and everything below it. -/
def dropTree (d : Disk) (l : Location) : Disk :=
  { d with entries := d.entries.filter fun x => !x.1.isWithin l }

/-- The locations strictly below `l` that exist. -/
def below (d : Disk) (l : Location) : List Location :=
  (d.entries.map Prod.fst).filter fun m => m.isWithin l && m ≠ l

/-- The names in a directory, in order. -/
def children (d : Disk) (l : Location) : List Name :=
  ((d.below l).filter fun m => m.names.length = l.names.length + 1).filterMap
    (fun m => m.fileName?) |>.mergeSort fun a b => decide (a.text ≤ b.text)

theorem entryAt_put (d : Disk) (l m : Location) (e : DiskEntry) (h : l ≠ Location.root) :
    (d.put l e).entryAt m = if l = m then some e else d.entryAt m := by
  unfold entryAt put
  by_cases hm : m = Location.root
  · subst hm; simp [h]
  · by_cases hl : l = m
    · subst hl; simp [h]
    · simp only [hm, hl, if_false, List.find?_cons, decide_false, List.find?_filter]
      congr 2
      funext x
      by_cases hx : x.1 = m
      · simp [hx, Ne.symm hl]
      · simp [hx]

end Disk
end LintWorkspace
