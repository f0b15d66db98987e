/-
# Json documents

Json values whose objects keep the order of their fields, and their text: on one
line, or laid out with two blanks for each level.  An empty list or object stays
on its line in both.
-/

namespace LintWorkspace

/-- A Json value without fractions. -/
inductive Json where
  | null
  | boolean (b : Bool)
  | number (n : Int)
  | string (s : String)
  | array (items : List Json)
  | object (fields : List (String × Json))
deriving Inhabited

namespace Json

/-- A character inside a string; with `ascii`, as a code unless it is plain ASCII. -/
def escape (ascii : Bool) (c : Char) : List Char :=
  let code (n : Nat) : List Char :=
    let digits := Nat.toDigits 16 n
    '\\' :: 'u' :: (List.replicate (4 - digits.length) '0' ++ digits)
  if c = '"' || c = '\\' then ['\\', c]
  else if c = '\x08' then ['\\', 'b']
  else if c = '\t' then ['\\', 't']
  else if c = '\n' then ['\\', 'n']
  else if c = '\x0c' then ['\\', 'f']
  else if c = '\r' then ['\\', 'r']
  else if c.toNat < 0x20 then code c.toNat
  else if ascii && 0x7F ≤ c.toNat then
    if c.toNat < 0x10000 then code c.toNat
    else code (0xD800 + (c.toNat - 0x10000) / 0x400) ++ code (0xDC00 + c.toNat % 0x400)
  else [c]

/-- A string between quotes. -/
def quoted (ascii : Bool) (s : String) : List Char :=
  '"' :: (s.toList.flatMap (escape ascii) ++ ['"'])

/-- A line break with the blanks of a level. -/
def newline (level : Nat) : List Char := '\n' :: List.replicate (2 * level) ' '

/-- The text of a value that holds no others. -/
def scalarText (ascii : Bool) : Json → List Char
  | null => "null".toList
  | boolean true => "true".toList
  | boolean false => "false".toList
  | number n => (toString n).toList
  | string s => quoted ascii s
  | array _ => "[]".toList
  | object _ => "\x7b\x7d".toList

mutual

/-- The text on one line. -/
def line (ascii : Bool) : Json → List Char
  | array items => '[' :: (lineItems ascii items ++ [']'])
  | object fields => '{' :: (lineFields ascii fields ++ ['}'])
  | j => scalarText ascii j

/-- The elements of a list on one line. -/
def lineItems (ascii : Bool) : List Json → List Char
  | [] => []
  | item :: items =>
    line ascii item ++ match items with
      | [] => []
      | _ :: _ => ',' :: lineItems ascii items

/-- The fields of an object on one line. -/
def lineFields (ascii : Bool) : List (String × Json) → List Char
  | [] => []
  | field :: fields =>
    lineField ascii field ++ match fields with
      | [] => []
      | _ :: _ => ',' :: lineFields ascii fields

/-- One field on one line. -/
def lineField (ascii : Bool) : String × Json → List Char
  | (name, value) => quoted ascii name ++ ':' :: line ascii value

end

mutual

/-- The text laid out over lines, at a level. -/
def layout (level : Nat) : Json → List Char
  | array (item :: items) =>
    '[' :: (layoutItems (level + 1) (item :: items) ++ newline level ++ [']'])
  | object (field :: fields) =>
    '{' :: (layoutFields (level + 1) (field :: fields) ++ newline level ++ ['}'])
  | j => scalarText false j

/-- The elements of a list, each on a line. -/
def layoutItems (level : Nat) : List Json → List Char
  | [] => []
  | item :: items =>
    newline level ++ layout level item ++ match items with
      | [] => []
      | _ :: _ => ',' :: layoutItems level items

/-- The fields of an object, each on a line. -/
def layoutFields (level : Nat) : List (String × Json) → List Char
  | [] => []
  | field :: fields =>
    newline level ++ layoutField level field ++ match fields with
      | [] => []
      | _ :: _ => ',' :: layoutFields level fields

/-- One field of an object. -/
def layoutField (level : Nat) : String × Json → List Char
  | (name, value) => quoted false name ++ ':' :: ' ' :: layout level value

end

/-- The text over lines. -/
def pretty (j : Json) : String := String.ofList (layout 0 j)

/-- The text on one line, in plain ASCII. -/
def compact (j : Json) : String := String.ofList (line true j)

example : pretty (.object [("a", .array [.number 1]), ("b", .object [])]) =
    "\x7b\n  \"a\": [\n    1\n  ],\n  \"b\": \x7b\x7d\n\x7d" := by decide

end Json
end LintWorkspace
