/-
# What a TOML document says

A document says a table: names with values, in the order in which they first
appear.  Headers and dotted keys make the tables on their way, and each table
remembers how it came about, because that decides who may add to it:

| made by | a header below it | a header of its own | a dotted key |
| --- | --- | --- | --- |
| a header of its own | may add | no | no |
| a header below it | may add | may add, once | may pass through |
| a dotted key | may add | no | may add |
| an inline table | no | no | no |

A header `[[key]]` adds a table to a list that only such headers make, and what
passes through the list goes to its last table.  No name is given a value twice.
-/

import LintWorkspace.Toml.Reader

namespace LintWorkspace
namespace Toml

/-- A value of a document. -/
inductive Value where
  | scalar (s : Scalar)
  | sequence (items : List Value)
  | table (fields : List (String × Value))

/-- How a table came about. -/
inductive Origin where
  /-- by a header of its own, or as an inline table -/
  | header
  /-- by a header further down -/
  | passed
  /-- by a dotted key -/
  | dotted
deriving DecidableEq

/-- A value while the document is still being read: one that is finished, a table that
may grow, or a list of tables of which the last may grow. -/
inductive Growing where
  | finished (v : Value)
  | table (origin : Origin) (fields : List (String × Growing))
  | tables (elements : List (List (String × Growing)))

/-- A table that may grow. -/
abbrev GrowingTable := Origin × List (String × Growing)

mutual

/-- The value that has grown. -/
def Growing.value : Growing → Value
  | .finished v => v
  | .table _ fields => .table (fieldValues fields)
  | .tables elements => .sequence (elementValues elements)

/-- The fields that have grown. -/
def fieldValues : List (String × Growing) → List (String × Value)
  | [] => []
  | field :: fields => fieldValue field :: fieldValues fields

/-- A name with the value that has grown. -/
def fieldValue : String × Growing → String × Value
  | (name, g) => (name, g.value)

/-- The tables that have grown in a list. -/
def elementValues : List (List (String × Growing)) → List Value
  | [] => []
  | fields :: elements => .table (fieldValues fields) :: elementValues elements

end

/-- The value under a name. -/
def lookup? {α : Type} (name : String) (fields : List (String × α)) : Option α :=
  (fields.find? fun f => f.1 = name).map Prod.snd

/-- Fields with the value under a name set; a new name comes last. -/
def setField {α : Type} (name : String) (x : α) : List (String × α) → List (String × α)
  | [] => [(name, x)]
  | f :: fields => if f.1 = name then (name, x) :: fields else f :: setField name x fields

/-- Changes the table that a path of names leads to, making the tables that are missing
on the way. -/
def alterAt? (dotted : Bool) (change : GrowingTable → Option GrowingTable) :
    List String → GrowingTable → Option GrowingTable
  | [], t => change t
  | name :: path, (origin, fields) =>
    match lookup? name fields with
    | none => do
      let (o, inner) ← alterAt? dotted change path (if dotted then .dotted else .passed, [])
      some (origin, setField name (.table o inner) fields)
    | some (.table o inner) =>
      if dotted ∧ o = .header then none
      else do
        let (o, inner) ← alterAt? dotted change path (o, inner)
        some (origin, setField name (.table o inner) fields)
    | some (.tables elements) =>
      if dotted then none
      else do
        let last ← elements.getLast?
        let (_, inner) ← alterAt? dotted change path (.header, last)
        some (origin, setField name (.tables (elements.dropLast ++ [inner])) fields)
    | some (.finished _) => none

/-- Gives a key of a table its value. -/
def addField? (t : GrowingTable) (key : List String) (v : Value) : Option GrowingTable := do
  let name ← key.getLast?
  let above := key.dropLast
  alterAt? true (fun (origin, fields) =>
    if decide (origin = .dotted) = above.isEmpty then none
    else match lookup? name fields with
      | none => some (origin, setField name (.finished v) fields)
      | some _ => none) above t

mutual

/-- What a value says. -/
def Node.value? : Node → Option Value
  | .scalar _ s => some (.scalar s)
  | .array items _ _ => (itemValues? items).map Value.sequence
  | .table fields _ _ => (growFields? (.header, []) fields).map fun t => .table (fieldValues t.2)

/-- What the elements of an array say. -/
def itemValues? : List (Spaced Node) → Option (List Value)
  | [] => some []
  | item :: items => do
    let v ← itemValue? item
    let vs ← itemValues? items
    some (v :: vs)

/-- What an element of an array says. -/
def itemValue? : Spaced Node → Option Value
  | ⟨_, v, _⟩ => v.value?

/-- An inline table grown by fields. -/
def growFields? (t : GrowingTable) : List (Key × Spaced Node) → Option GrowingTable
  | [] => some t
  | field :: fields => do
    let t ← growField? t field
    growFields? t fields

/-- An inline table grown by one field. -/
def growField? (t : GrowingTable) : Key × Spaced Node → Option GrowingTable
  | (key, v) => do addField? t key.names (← itemValue? v)

end

/-- A table grown by the entries below a header. -/
def addEntries? (t : GrowingTable) (entries : List Entry) : Option GrowingTable :=
  entries.foldlM (fun t e => do addField? t e.key.names (← itemValue? e.value)) t

/-- A document grown by a section. -/
def addSection? (t : GrowingTable) (s : Section) : Option GrowingTable := do
  let name ← s.key.names.getLast?
  alterAt? false (fun (origin, fields) =>
    if s.ofArray then do
      let (_, inner) ← addEntries? (.header, []) s.entries
      match lookup? name fields with
      | none => some (origin, setField name (.tables [inner]) fields)
      | some (.tables elements) =>
        some (origin, setField name (.tables (elements ++ [inner])) fields)
      | some _ => none
    else
      match lookup? name fields with
      | none => do
        let (_, inner) ← addEntries? (.header, []) s.entries
        some (origin, setField name (.table .header inner) fields)
      | some (.table .passed inner) => do
        let (_, inner) ← addEntries? (.header, inner) s.entries
        some (origin, setField name (.table .header inner) fields)
      | some _ => none) s.key.names.dropLast t

/-- The fields of the table a document says, if no rule on its tables is broken. -/
def Document.fields? (d : Document) : Option (List (String × Value)) := do
  let t ← addEntries? (.header, []) d.entries
  let t ← d.sections.foldlM addSection? t
  some (fieldValues t.2)

/-- The fields of the table a text says. -/
def fieldsOfText? (layout : Layout) (text : String) : Option (List (String × Value)) := do
  let d ← Document.ofText? layout text.toList
  d.fields?

example : (fieldsOfText? .free "a.b = 1\na.c = 2\n[a.d]\n").isSome = true := by decide +kernel
example : (fieldsOfText? .free "a.b = 1\n[a]\n").isNone = true := by decide +kernel
example : (fieldsOfText? .free "[a.b]\n[a]\nb.c = 1\n").isNone = true := by decide +kernel
example : (fieldsOfText? .free "[[a]]\n[a.b]\n[[a]]\n[a.b]\n").isSome = true := by decide +kernel
example : (fieldsOfText? .free "a = []\n[[a]]\n").isNone = true := by decide +kernel

end Toml
end LintWorkspace
