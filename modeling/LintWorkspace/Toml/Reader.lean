/-
# Reading TOML documents

`Document.ofText?` takes a text apart into a document.  What is accepted depends on
the layout: in a `free` one an inline table spreads over lines, holds comments and
may end with a comma, in a `oneLine` one it may not, and integers are held by 64
bits with a sign.  Arrays and inline tables nest at most `maxDepth` deep.

A byte order mark at the head of a text is skipped.
-/

import LintWorkspace.Toml.Document
import LintWorkspace.Toml.Moment

namespace LintWorkspace
namespace Toml

/-- How a document may be laid out. -/
inductive Layout where
  | oneLine
  | free
deriving DecidableEq

/-- How deep arrays and inline tables may nest. -/
def maxDepth : Nat := 80

/-- The part of a text that was read when `rest` is left. -/
def consumed (cs rest : List Char) : List Char := cs.take (cs.length - rest.length)

/-- The characters of a name that needs no quotes. -/
def isBare (c : Char) : Bool := c.isAlphanum || c = '_' || c = '-'

/-- The characters of a value that is no string, array or table. -/
def isRun (c : Char) : Bool := isBare c || c = '+' || c = '.' || c = ':'

/-- Reads one name of a key. -/
def name? (cs : List Char) : Option (List Char × List Char) :=
  match cs with
  | '"' :: _ => lineLiteral? cs
  | '\'' :: _ => lineLiteral? cs
  | _ =>
    if (cs.takeWhile isBare).isEmpty then none
    else some (cs.takeWhile isBare, cs.dropWhile isBare)

/-- Reads one name of a key with the blanks around it. -/
def keyPart? : Reader KeyPart := fun cs => do
  let (before, cs) := spaces cs
  let (name, rest) ← name? cs
  let (after, left) := spaces rest
  some (⟨before, consumed cs rest, after, String.ofList name⟩, left)

/-- Reads a dotted key of at most so many names. -/
def keyWithin? : Nat → Reader Key
  | 0, _ => none
  | n + 1, cs => do
    let (part, cs) ← keyPart? cs
    match cs with
    | '.' :: cs =>
      let (parts, rest) ← keyWithin? n cs
      some (part :: parts, rest)
    | cs => some ([part], cs)

/-- Reads a dotted key. -/
def key? : Reader Key := fun cs => keyWithin? cs.length cs

/-- The run at the head of a text; a date joins the time that follows a blank. -/
def run (cs : List Char) : List Char × List Char :=
  let first := cs.takeWhile isRun
  let rest := cs.dropWhile isRun
  match rest with
  | ' ' :: d :: rest =>
    if afterDate? first = some [] ∧ d.isDigit then
      (first ++ ' ' :: d :: rest.takeWhile isRun, rest.dropWhile isRun)
    else (first, ' ' :: d :: rest)
  | rest => (first, rest)

/-- Whether a layout accepts a value that holds no other values. -/
def Layout.accepts : Layout → Scalar → Bool
  | oneLine, .integer n => isWord n
  | oneLine, .outOfRange => false
  | _, _ => true

/-- What a run writes. -/
def scalarOfRun? (layout : Layout) (cs : List Char) : Option Scalar :=
  ((boolean? cs).map Scalar.boolean).or <|
    ((number? cs).filter layout.accepts).or <|
      if isMoment cs then some .moment else none

/-- Reads a value that is no array or table. -/
def scalar? (layout : Layout) : Reader Node := fun cs =>
  match cs with
  | '"' :: _ => do
    let (s, rest) ← literal? cs
    some (.scalar (consumed cs rest) (.string (String.ofList s)), rest)
  | '\'' :: _ => do
    let (s, rest) ← literal? cs
    some (.scalar (consumed cs rest) (.string (String.ofList s)), rest)
  | _ => do
    let (spelling, rest) := run cs
    some (.scalar spelling (← scalarOfRun? layout spelling), rest)

/-- Reads elements between commas up to a closing bracket: the elements, whether a comma
follows the last one, and the gap before the bracket.  The number bounds the elements. -/
def elements? {α : Type} (close : Char) (gap : Reader (List Char)) (element : Reader α) :
    Nat → Reader (List α × Bool × List Char)
  | 0, _ => none
  | n + 1, cs => do
    let (tail, rest) ← gap cs
    if rest.head? = some close then some (([], false, tail), rest.tail)
    else
      let (x, cs) ← element cs
      match cs with
      | ',' :: cs =>
        let ((xs, comma, tail), rest) ← elements? close gap element n cs
        some ((x :: xs, comma || xs.isEmpty, tail), rest)
      | c :: rest => if c = close then some (([x], false, []), rest) else none
      | [] => none

/-- Reads something with a gap on either side. -/
def spaced? {α : Type} (before after : Reader (List Char)) (value : Reader α) :
    Reader (Spaced α) := fun cs => do
  let (b, cs) ← before cs
  let (v, cs) ← value cs
  let (a, rest) ← after cs
  some (⟨b, v, a⟩, rest)

/-- The gaps an inline table may hold. -/
def Layout.gap? : Layout → Reader (List Char)
  | .oneLine => fun cs => some (spaces cs)
  | .free => Toml.gap?

/-- A key with a gap put before it. -/
def Key.after (gap : List Char) : Key → Key
  | [] => []
  | part :: parts => { part with before := gap ++ part.before } :: parts

/-- Reads a field of an inline table. -/
def field? (layout : Layout) (value : Reader Node) : Reader (Key × Spaced Node) := fun cs => do
  let (gap, cs) ← layout.gap? cs
  let (key, cs) ← key? cs
  let cs ← after? '=' cs
  let (value, rest) ← spaced? (fun cs => some (spaces cs)) layout.gap? value cs
  some ((key.after gap, value), rest)

/-- Reads a value in which arrays and inline tables nest at most so deep. -/
def node? (layout : Layout) : Nat → Reader Node
  | 0 => scalar? layout
  | depth + 1 => fun cs =>
    match cs with
    | '[' :: cs => do
      let ((items, comma, tail), rest) ←
        elements? ']' gap? (spaced? gap? gap? (node? layout depth)) cs.length cs
      some (.array items comma tail, rest)
    | '{' :: cs => do
      let ((fields, comma, tail), rest) ←
        elements? '}' layout.gap? (field? layout (node? layout depth)) cs.length cs
      if comma ∧ layout = .oneLine then none else some (.table fields comma tail, rest)
    | _ => scalar? layout cs

/-- A line of a document that holds something. -/
inductive Line where
  | entry (e : Entry)
  | header (lead : List Char) (ofArray : Bool) (key : Key) (trail : List Char)

/-- Reads a header after its first bracket. -/
def headerLine? (lead : List Char) : Reader Line := fun cs => do
  let (ofArray, cs) := match cs with
    | '[' :: cs => (true, cs)
    | cs => (false, cs)
  let (key, cs) ← key? cs
  let cs ← after? ']' cs
  let cs ← if ofArray then after? ']' cs else some cs
  let (trail, rest) ← lineEnd? cs
  some (.header lead ofArray key trail, rest)

/-- Reads an entry. -/
def entryLine? (layout : Layout) (lead : List Char) : Reader Line := fun cs => do
  let (key, cs) ← key? cs
  let cs ← after? '=' cs
  let (value, rest) ←
    spaced? (fun cs => some (spaces cs)) lineEnd? (node? layout maxDepth) cs
  some (.entry ⟨lead, key, value⟩, rest)

/-- Takes a text apart into lines and what follows the last of them.  The number bounds
the lines. -/
def lines? (layout : Layout) : Nat → List Char → Option (List Line × List Char)
  | 0, _ => none
  | n + 1, cs => do
    let (lead, cs) ← gap? cs
    match cs with
    | [] => some ([], lead)
    | '[' :: cs =>
      let (line, rest) ← headerLine? lead cs
      let (lines, tail) ← lines? layout n rest
      some (line :: lines, tail)
    | cs =>
      let (line, rest) ← entryLine? layout lead cs
      let (lines, tail) ← lines? layout n rest
      some (line :: lines, tail)

/-- The entries above the first header, and the sections. -/
def grouped : List Line → List Entry × List Section
  | [] => ([], [])
  | .entry e :: lines =>
    let (entries, sections) := grouped lines
    (e :: entries, sections)
  | .header lead ofArray key trail :: lines =>
    let (entries, sections) := grouped lines
    ([], ⟨lead, ofArray, key, trail, entries⟩ :: sections)

/-- A text without the byte order mark at its head. -/
def dropByteOrderMark : List Char → List Char
  | '\uFEFF' :: cs => cs
  | cs => cs

/-- The document a text spells. -/
def Document.ofText? (layout : Layout) (text : List Char) : Option Document := do
  let cs := dropByteOrderMark text
  let (lines, tail) ← lines? layout (cs.length + 1) cs
  let (entries, sections) := grouped lines
  some ⟨entries, sections, tail⟩

example :
    let text := "# top\na = [ 1, 2 ] # two\n[[ b . 'c' ]]\nd = {}\n".toList
    (Document.ofText? .oneLine text).map Document.text = some text := by
  decide +kernel

end Toml
end LintWorkspace
