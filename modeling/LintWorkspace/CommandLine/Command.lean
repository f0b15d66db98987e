/-
# Commands

```text
version
ruleset <path> [--repo-root <dir>] [--output <format>]
check --project <file> [--file <source>]... [--repo-root <dir>] [--output <format>]
      [--show-hidden] [--no-analyzers]
```

Every command and the program itself answer `-h` and `--help`; the program also
answers `help`, with the name of a command or without, `-V` and `--version`.
-/

import LintWorkspace.CommandLine.Words

namespace LintWorkspace
namespace CommandLine

/-- What a check is to do. -/
structure CheckCommand where
  project : String
  files : List String
  root : Option String
  output : Option String
  showHidden : Bool
  noAnalyzers : Bool
deriving DecidableEq, Repr

/-- What a command line runs. -/
inductive Command where
  /-- print the name and the version of the program -/
  | program
  | version
  | ruleset (path : String) (root output : Option String)
  | check (command : CheckCommand)
deriving DecidableEq, Repr

/-- The names of the commands. -/
def names : List String := ["version", "ruleset", "check", "help"]

/-- What a command takes. -/
def grammar (name : String) : Grammar :=
  if name = "ruleset" then ⟨["repo-root", "output"], [], [], 1⟩
  else if name = "check" then
    ⟨["project", "file", "repo-root", "output"], ["file"], ["show-hidden", "no-analyzers"], 0⟩
  else ⟨[], [], [], 0⟩

/-- The command that was given, if it has all it needs. -/
def complete (name : String) (g : Given) : Except Usage Command :=
  if name = "version" then .ok .version
  else if name = "ruleset" then
    match g.plain with
    | path :: _ => .ok (.ruleset path (g.value? "repo-root") (g.value? "output"))
    | [] => .error .wrong
  else if name = "check" then
    match g.value? "project" with
    | some project => .ok (.check
        { project
          files := g.valuesOf "file"
          root := g.value? "repo-root"
          output := g.value? "output"
          showHidden := g.has "show-hidden"
          noAnalyzers := g.has "no-analyzers" })
    | none => .error .wrong
  else .error .wrong

/-- The answer to a call for help on commands: at most one, by its name. -/
def help : List String → Usage
  | [] => .asked
  | [name] => if names.contains name then .asked else .wrong
  | _ => .wrong

/-- The command of a command line. -/
def Command.ofWords : List String → Except Usage Command
  | [] => .error .wrong
  | text :: rest =>
    match Word.ofText text with
    | .long "help" none | .short ('h' :: _) => .error .asked
    | .long "version" none | .short ('V' :: _) => .ok .program
    | .plain "help" => .error (help rest)
    | .plain name =>
      if names.contains name then scan (grammar name) .nothing rest >>= complete name
      else .error .wrong
    | _ => .error .wrong

end CommandLine
end LintWorkspace
