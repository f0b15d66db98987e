/-
# Changing a disk

The four ways a disk changes: a file is written, directories are made, a file
takes the place of another, a tree is removed.  Each answers the changed disk or
the fault that stopped it; a refused operation has changed nothing, except
`createDirectories`, which keeps the directories it made before it met a fault.
-/

import LintWorkspace.Disk.Basic

namespace LintWorkspace
namespace Disk

/-- Sets the bytes of the file at a path, making the file if its directory exists. -/
def writeFile (d : Disk) (p : Path) (bytes : ByteArray) : Except DiskFault Disk := do
  let l ← d.locate p
  match d.entryAt l with
  | some .directory => .error .isDirectory
  | _ => match d.entryAt l.parent with
    | some .directory => .ok (d.put l (.file bytes))
    | some (.file _) => .error .notDirectory
    | none => .error .notFound

/-- Makes one directory in a directory that exists. -/
def createDirectory (d : Disk) (p : Path) : Except DiskFault Disk := do
  let l ← d.locate p
  match d.entryAt l with
  | some _ => .error .exists
  | none => match d.entryAt l.parent with
    | some .directory => .ok (d.put l .directory)
    | some (.file _) => .error .notDirectory
    | none => .error .notFound

/-- Makes a directory and those above it that are missing.  The number bounds how
many parents are looked at. -/
def createDirectoriesWithin : Nat → Disk → Path → Disk × Option DiskFault
  | 0, d, _ => (d, some .notFound)
  | n + 1, d, p =>
    if p.isEmpty then (d, none)
    else match d.createDirectory p with
      | .ok d => (d, none)
      | .error .notFound =>
        match p.parent? with
        | none => (d, some .notFound)
        | some above =>
          match createDirectoriesWithin n d above with
          | (d, some fault) => (d, some fault)
          | (d, none) =>
            match d.createDirectory p with
            | .ok d => (d, none)
            | .error fault => (d, if d.isDirectory p then none else some fault)
      | .error fault => (d, if d.isDirectory p then none else some fault)

/-- Makes a directory and those above it that are missing. -/
def createDirectories (d : Disk) (p : Path) : Disk × Option DiskFault :=
  createDirectoriesWithin (p.segments.length + 1) d p

/-- Removes what a path leads to, with everything below it; a path that leads nowhere
is left alone. -/
def removeTree (d : Disk) (p : Path) : Disk :=
  match d.locate p with
  | .ok l => d.dropTree l
  | .error _ => d

/-- Moves what `source` leads to, with everything below it, to `target`. -/
def move (d : Disk) (source target : Path) : Disk :=
  match d.locate source, d.locate target with
  | .ok a, .ok b =>
    let moved := (d.entries.filter fun x => x.1.isWithin a).map fun x =>
      ((⟨b.names ++ x.1.names.drop a.names.length⟩ : Location), x.2)
    let rest := (d.dropTree a).dropTree b
    { rest with entries := moved ++ rest.entries }
  | _, _ => d

/-- Makes the directories above a path and sets the file there. -/
def place (d : Disk) (p : Path) (bytes : ByteArray) : Disk :=
  let d := match p.parent? with
    | some above => (d.createDirectories above).1
    | none => d
  match d.writeFile p bytes with
  | .ok d => d
  | .error _ => d

end Disk
end LintWorkspace
