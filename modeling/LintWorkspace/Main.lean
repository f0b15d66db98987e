/-
# The program

The program loads the files that a command may look at, runs the command on them,
and writes what the command added to the disk.  It looks at the tree below the
working directory, the trees below the directories that the command line names,
and the settings in the directories above these.
-/

import LintWorkspace.CommandLine.Run

namespace LintWorkspace
namespace CommandLine

/-- The entries at a location and below it, so many levels deep. -/
def loadTree : Nat → Location → IO (List (Location × DiskEntry))
  | 0, _ => return []
  | depth + 1, l => do
    let place := (← IO.currentDir) / l.text
    if ← place.isDir then
      let below ← (← place.readDir).toList.mapM fun e => do
        if h : IsName e.fileName then loadTree depth (l.child ⟨e.fileName, h⟩) else return []
      return (l, .directory) :: below.flatten
    else if ← place.pathExists then return [(l, .file (← IO.FS.readBinFile place))]
    else return []

/-- A location with the locations above it. -/
def ancestors (l : Location) : List Location :=
  (List.range (l.names.length + 1)).map fun n => ⟨l.names.take n⟩

/-- What decides on settings in a directory. -/
def settingsPlaces (dir : Location) : List Location :=
  (".git" :: Settings.fileNames).map fun n => (Path.ofText n).normalize dir

/-- The directories that a command names. -/
def directories (cwd : Location) (command : Command) : List Location :=
  let dir (text : String) := (Path.ofText text).normalize cwd
  match command with
  | .program | .version => []
  | .ruleset path root _ => cwd :: (dir path).parent :: root.toList.map dir
  | .check c =>
    cwd :: (dir c.project).parent :: (c.files.map fun f => (dir f).parent) ++ c.root.toList.map dir

/-- Loads what a command may look at. -/
def loadDisk (cwd : Location) (command : Command) : IO Disk := do
  let dirs := directories cwd command
  let trees ← dirs.mapM (loadTree 64)
  let above ← (dirs.flatMap ancestors).mapM fun l => do
    let settings ← (settingsPlaces l).mapM (loadTree 2)
    return (l, DiskEntry.directory) :: settings.flatten
  return ⟨cwd, (trees ++ above).flatten⟩

/-- Writes the entries that a disk has and an older one has not, the upper ones first. -/
def storeAdded (old new : Disk) : IO Unit := do
  let added := (new.entries.filter fun e => old.entryAt e.1 ≠ some e.2).mergeSort
    fun a b => a.1.names.length ≤ b.1.names.length
  for (l, entry) in added do
    match entry with
    | .directory => IO.FS.createDirAll l.text
    | .file bytes => IO.FS.writeBinFile l.text bytes

/-- How to call the program. -/
def usageText : String :=
  "Usage: reanalyze version\n" ++
  "       reanalyze ruleset <path> [--repo-root <dir>] [--output <format>]\n" ++
  "       reanalyze check --project <file> [--file <source>]... [--repo-root <dir>]\n" ++
  "                       [--output <format>] [--show-hidden] [--no-analyzers]\n"

end CommandLine
end LintWorkspace

section

open LintWorkspace CommandLine

/-- Runs the command that the words name; answers its exit status. -/
def main (words : List String) : IO UInt32 := do
  match Command.ofWords words with
  | .error usage =>
    if usage = .asked then IO.print usageText else IO.eprint usageText
    return usage.exit.toUInt32
  | .ok command =>
    let cwd := (Path.ofText (← IO.currentDir).toString).normalize .root
    let disk ← loadDisk cwd command
    let color := (← IO.getEnv "NO_COLOR").isNone
    let (after, ending) := run disk color command
    storeAdded disk after
    IO.print ending.printed
    IO.eprint ending.said
    return ending.status.toUInt32

end
