/-
# TOML documents as they are written

A document with nothing thrown away: every token keeps its spelling and every
gap its blanks, line breaks and comments, so a part can be changed and the rest
printed as it was.

| part | written |
| --- | --- |
| `KeyPart` | one name of a key, with the gaps around it |
| `Node` | a value: a scalar, `[ … ]` or `{ … }` |
| `Entry` | a line `key = value`, with what stands before it |
| `Section` | a header `[key]` or `[[key]]` and the entries below it |
| `Document` | the entries above the first header, the sections, and what follows |

`Document.text` writes a document.  It ends every entry and every header with a
line break.

A document is written with plain line breaks (`Document.unixText`): the gaps lose
their carriage returns (`Document.plain`), while keys and values stay as they are
spelled.  So a string over several lines keeps the line breaks it has.
-/

import LintWorkspace.Toml.Number

namespace LintWorkspace
namespace Toml

/-- One name of a dotted key, with the gaps around it and its spelling. -/
structure KeyPart where
  before : List Char
  spelling : List Char
  after : List Char
  name : String
deriving DecidableEq

/-- A dotted key, part by part. -/
abbrev Key := List KeyPart

/-- Something with a gap on either side. -/
structure Spaced (α : Type) where
  before : List Char
  value : α
  after : List Char

/-- A value as it is written.  The gap before a closing bracket is the `tail`, after the
last comma if `comma` says that one follows the last element. -/
inductive Node where
  | scalar (spelling : List Char) (value : Scalar)
  | array (items : List (Spaced Node)) (comma : Bool) (tail : List Char)
  | table (fields : List (Key × Spaced Node)) (comma : Bool) (tail : List Char)

/-- A line `key = value`; `lead` is what stands before it since the line above. -/
structure Entry where
  lead : List Char
  key : Key
  value : Spaced Node

/-- A header with the entries below it; `ofArray` tells `[[key]]` from `[key]`. -/
structure Section where
  lead : List Char
  ofArray : Bool
  key : Key
  trail : List Char
  entries : List Entry

/-- A document; `tail` is what follows the last line that holds anything. -/
structure Document where
  entries : List Entry
  sections : List Section
  tail : List Char

namespace Key

/-- The names of a key. -/
def names (k : Key) : List String := k.map KeyPart.name

/-- The text of a key. -/
def text (k : Key) : List Char :=
  ['.'].intercalate (k.map fun p => p.before ++ p.spelling ++ p.after)

end Key

mutual

/-- The text of a value. -/
def Node.text : Node → List Char
  | .scalar spelling _ => spelling
  | .array items comma tail =>
    '[' :: (itemsText items ++ (if comma then [','] else []) ++ tail ++ [']'])
  | .table fields comma tail =>
    '{' :: (fieldsText fields ++ (if comma then [','] else []) ++ tail ++ ['}'])

/-- The text of the elements of an array. -/
def itemsText : List (Spaced Node) → List Char
  | [] => []
  | item :: items =>
    spacedText item ++ match items with
      | [] => []
      | _ :: _ => ',' :: itemsText items

/-- The text of the fields of an inline table. -/
def fieldsText : List (Key × Spaced Node) → List Char
  | [] => []
  | field :: fields =>
    fieldText field ++ match fields with
      | [] => []
      | _ :: _ => ',' :: fieldsText fields

/-- The text of a key with its value. -/
def fieldText : Key × Spaced Node → List Char
  | (key, value) => key.text ++ '=' :: spacedText value

/-- The text of a value with the gaps around it. -/
def spacedText : Spaced Node → List Char
  | ⟨before, value, after⟩ => before ++ value.text ++ after

end

/-- The text of an entry. -/
def Entry.text (e : Entry) : List Char := e.lead ++ fieldText (e.key, e.value) ++ ['\n']

/-- The text of a header. -/
def Section.header (s : Section) : List Char :=
  if s.ofArray then '[' :: '[' :: (s.key.text ++ [']', ']']) else '[' :: (s.key.text ++ [']'])

/-- The text of a section. -/
def Section.text (s : Section) : List Char :=
  s.lead ++ s.header ++ s.trail ++ '\n' :: s.entries.flatMap Entry.text

/-- The text of a document. -/
def Document.text (d : Document) : List Char :=
  d.entries.flatMap Entry.text ++ d.sections.flatMap Section.text ++ d.tail

/-! ### Plain line breaks -/

/-- A gap with every line break written as a single `\n`. -/
def unix (gap : List Char) : List Char := gap.filter (· ≠ '\r')

mutual

/-- A value with plain line breaks in its gaps. -/
def Node.plain : Node → Node
  | .scalar spelling v => .scalar spelling v
  | .array items comma tail => .array (plainItems items) comma (unix tail)
  | .table fields comma tail => .table (plainFields fields) comma (unix tail)

/-- The elements of an array with plain line breaks in the gaps. -/
def plainItems : List (Spaced Node) → List (Spaced Node)
  | [] => []
  | item :: items => plainItem item :: plainItems items

/-- The fields of an inline table with plain line breaks in the gaps. -/
def plainFields : List (Key × Spaced Node) → List (Key × Spaced Node)
  | [] => []
  | field :: fields => plainField field :: plainFields fields

/-- A field with plain line breaks in its gaps; a key stands on one line. -/
def plainField : Key × Spaced Node → Key × Spaced Node
  | (key, value) => (key, plainItem value)

/-- A value and the gaps around it with plain line breaks. -/
def plainItem : Spaced Node → Spaced Node
  | ⟨before, value, after⟩ => ⟨unix before, value.plain, unix after⟩

end

/-- An entry with plain line breaks in its gaps. -/
def Entry.plain (e : Entry) : Entry := { e with lead := unix e.lead, value := plainItem e.value }

/-- A section with plain line breaks in its gaps. -/
def Section.plain (s : Section) : Section :=
  { s with lead := unix s.lead, trail := unix s.trail, entries := s.entries.map Entry.plain }

/-- A document with plain line breaks in its gaps. -/
def Document.plain (d : Document) : Document :=
  ⟨d.entries.map Entry.plain, d.sections.map Section.plain, unix d.tail⟩

/-- The text of a document with plain line breaks. -/
def Document.unixText (d : Document) : List Char := d.plain.text

end Toml
end LintWorkspace
