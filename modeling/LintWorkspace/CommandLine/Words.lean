/-
# The words of a command line

| word | is |
| --- | --- |
| `--` | the end of the options: all words after it are plain |
| `--name`, `--name=value` | a long option |
| `-x…` | a short option |
| any other, also `-` and the empty word | plain |

A command takes some options with a value, some flags, and so many plain words.
A value stands in the word of its option or is the next word, which then must be
plain.  An option is given once, unless it is one that may be given again.

The words are read from left to right, and the first one that asks for help or is
wrong decides.
-/

namespace LintWorkspace
namespace CommandLine

/-- Why a command line runs nothing. -/
inductive Usage where
  /-- it asks for help -/
  | asked
  /-- it is wrong -/
  | wrong
deriving DecidableEq, Repr

/-- The exit status of a command line that runs nothing. -/
def Usage.exit : Usage → Nat
  | asked => 0
  | wrong => 2

/-- One word of a command line. -/
inductive Word where
  | separator
  | long (name : String) (value : Option String)
  | short (letters : List Char)
  | plain (text : String)
deriving DecidableEq, Repr

/-- What a word is. -/
def Word.ofText (text : String) : Word :=
  match text.toList with
  | ['-', '-'] => .separator
  | '-' :: '-' :: cs =>
    let name := String.ofList (cs.takeWhile (· ≠ '='))
    match cs.dropWhile (· ≠ '=') with
    | _ :: value => .long name (some (String.ofList value))
    | [] => .long name none
  | '-' :: c :: cs => .short (c :: cs)
  | _ => .plain text

/-- What a command takes. -/
structure Grammar where
  /-- options with a value -/
  options : List String
  /-- those of them that may be given again -/
  repeatable : List String
  flags : List String
  /-- the number of plain words -/
  places : Nat
deriving DecidableEq, Repr

/-- What has been given to a command, in order. -/
structure Given where
  values : List (String × String)
  flags : List String
  plain : List String
deriving DecidableEq, Repr

namespace Given

/-- Nothing has been given. -/
def nothing : Given := ⟨[], [], []⟩

/-- All values of an option. -/
def valuesOf (g : Given) (name : String) : List String :=
  (g.values.filter fun v => v.1 = name).map Prod.snd

/-- The value of an option that is given at most once. -/
def value? (g : Given) (name : String) : Option String := (g.valuesOf name).head?

/-- Whether a flag is given. -/
def has (g : Given) (flag : String) : Bool := g.flags.contains flag

/-- Takes a plain word, if there is a place for it. -/
def addPlain (grammar : Grammar) (g : Given) (text : String) : Except Usage Given :=
  if g.plain.length < grammar.places then .ok { g with plain := g.plain ++ [text] }
  else .error .wrong

/-- Takes the value of an option, unless the option is given a second time. -/
def addValue (grammar : Grammar) (g : Given) (name value : String) : Except Usage Given :=
  if (g.value? name).isSome && !grammar.repeatable.contains name then .error .wrong
  else .ok { g with values := g.values ++ [(name, value)] }

/-- Takes a flag, unless it is given a second time. -/
def addFlag (g : Given) (name : String) : Except Usage Given :=
  if g.has name then .error .wrong else .ok { g with flags := g.flags ++ [name] }

end Given

/-- Reads the words that follow a command. -/
def scan (grammar : Grammar) (g : Given) : List String → Except Usage Given
  | [] => .ok g
  | text :: rest =>
    match Word.ofText text with
    | .separator => rest.foldlM (Given.addPlain grammar) g
    | .plain text => g.addPlain grammar text >>= (scan grammar · rest)
    | .short ('h' :: _) => .error .asked
    | .short _ => .error .wrong
    | .long name value =>
      if grammar.options.contains name then
        match value with
        | some value => g.addValue grammar name value >>= (scan grammar · rest)
        | none =>
          match rest with
          | [] => .error .wrong
          | next :: rest =>
            match Word.ofText next with
            | .plain value => g.addValue grammar name value >>= (scan grammar · rest)
            | _ => .error .wrong
      else if value.isSome then .error .wrong
      else if grammar.flags.contains name then g.addFlag name >>= (scan grammar · rest)
      else if name = "help" then .error .asked
      else .error .wrong

end CommandLine
end LintWorkspace
