/-
# Values of the expected shape

A document that can be read still has to say what is asked of it: a string where
a string is wanted, a list of tables, a field that may not be missing.  Fields
are looked at in the order of the document; a missing one is noticed last.

| fault | says |
| --- | --- |
| `unexpected` | a value of another kind than the one wanted |
| `missing` | a field is not there |
| `unknownVariant` | a word is none of the known ones |
| `tooShort` | a list that stands for a record has too few elements |
| `unknownSeverity` | a word names no severity |
| `outOfRange` | a number is too great |

A number that is out of range is noticed wherever it is looked at, also in a field
that is not asked for.
-/

import LintWorkspace.Severity
import LintWorkspace.Text.Quoted
import LintWorkspace.Toml.Value

namespace LintWorkspace
namespace Toml

/-- What a value is called where another one is wanted. -/
def Value.kind : Value → String
  | .scalar (.string s) => "string " ++ Text.quoted s
  | .scalar (.integer n) =>
    s!"integer `{n}`" ++
      if isShort n then "" else if n < Int.pow 2 127 then " as i128" else " as u128"
  | .scalar (.float x) => s!"floating point `{x.text}`"
  | .scalar (.boolean true) => "boolean `true`"
  | .scalar (.boolean false) => "boolean `false`"
  | .scalar .moment => "map"
  | .scalar .outOfRange => "number"
  | .sequence _ => "sequence"
  | .table _ => "map"

/-- Why a value does not have the expected shape. -/
inductive ShapeFault where
  | unexpected (found : String) (wanted : String)
  | missing (field : String)
  | unknownVariant (word : String) (known : String)
  | tooShort (length : Nat) (wanted : String)
  | unknownSeverity (fault : UnknownSeverity)
  | outOfRange
deriving DecidableEq

/-- The wording for a text that is no document, and for a number out of range. -/
def syntaxMessage : String := "TOML syntax error"

/-- The wording of a fault. -/
def ShapeFault.message : ShapeFault → String
  | unexpected found wanted => s!"invalid type: {found}, expected {wanted}"
  | missing field => s!"missing field `{field}`"
  | unknownVariant word known => s!"unknown variant `{word}`, expected {known}"
  | tooShort length wanted => s!"invalid length {length}, expected {wanted}"
  | unknownSeverity fault => fault.message
  | outOfRange => syntaxMessage

namespace Value

/-- Why a value is not of the kind that is wanted. -/
def unlike (wanted : String) : Value → ShapeFault
  | .scalar .outOfRange => .outOfRange
  | v => .unexpected v.kind wanted

/-- The string a value is. -/
def string : Value → Except ShapeFault String
  | .scalar (.string s) => .ok s
  | v => .error (v.unlike "a string")

/-- The boolean a value is. -/
def boolean : Value → Except ShapeFault Bool
  | .scalar (.boolean b) => .ok b
  | v => .error (v.unlike "a boolean")

/-- The elements of a list, each of a shape. -/
def list {α : Type} (element : Value → Except ShapeFault α) : Value → Except ShapeFault (List α)
  | .sequence items => items.mapM element
  | v => .error (v.unlike "a sequence")

/-- The severity a value names. -/
def severity (v : Value) : Except ShapeFault Severity := do
  match Severity.ofText (← v.string) with
  | .ok s => .ok s
  | .error fault => .error (.unknownSeverity fault)

mutual

/-- Looks at every value within a value that holds no other values. -/
def eachScalar (check : Scalar → Except ShapeFault Unit) : Value → Except ShapeFault Unit
  | .scalar s => check s
  | .sequence items => eachItem check items
  | .table fields => eachField check fields

/-- Looks at every value within the elements of a list that holds no other values. -/
def eachItem (check : Scalar → Except ShapeFault Unit) : List Value → Except ShapeFault Unit
  | [] => .ok ()
  | v :: items => do
    v.eachScalar check
    eachItem check items

/-- Looks at every value within the fields of a table that holds no other values. -/
def eachField (check : Scalar → Except ShapeFault Unit) :
    List (String × Value) → Except ShapeFault Unit
  | [] => .ok ()
  | field :: fields => do
    fieldScalar check field
    eachField check fields

/-- Looks at every value within a field that holds no other values. -/
def fieldScalar (check : Scalar → Except ShapeFault Unit) :
    String × Value → Except ShapeFault Unit
  | (_, v) => v.eachScalar check

end

/-- Passes over a value that is not asked for. -/
def pass (v : Value) : Except ShapeFault Unit :=
  v.eachScalar fun s => if s = .outOfRange then .error .outOfRange else .ok ()

/-- Sets a value aside for a look at it later; an integer of more than 64 bits cannot be
set aside. -/
def setAside (v : Value) : Except ShapeFault Unit :=
  v.eachScalar fun s => match s with
    | .outOfRange => .error .outOfRange
    | .integer n => if isShort n then .ok () else .error ((Value.scalar s).unlike "any value")
    | _ => .ok ()

/-- A field that must be there. -/
def require {α : Type} (field : String) : Option α → Except ShapeFault α
  | some x => .ok x
  | none => .error (.missing field)

end Value

/-- Why a text could not be loaded: it is no document, or it has the wrong shape. -/
inductive LoadFault where
  | malformed
  | shape (fault : ShapeFault)
deriving DecidableEq

/-- The wording of a fault. -/
def LoadFault.message : LoadFault → String
  | malformed => syntaxMessage
  | shape fault => fault.message

/-- Loads a text as a table of a shape. -/
def load {α : Type} (decode : List (String × Value) → Except ShapeFault α) (text : String) :
    Except LoadFault α :=
  match fieldsOfText? .free text with
  | none => .error .malformed
  | some fields =>
    match decode fields with
    | .ok x => .ok x
    | .error fault => .error (.shape fault)

end Toml
end LintWorkspace
