/-
# String literals

The four ways a TOML document writes a string.

| opens and closes with | escapes | line breaks |
| --- | --- | --- |
| `"` | yes | no |
| `'` | no | no |
| `"""` | yes | yes, also skipped after a backslash |
| `'''` | no | yes |

A line break right after three opening quotes belongs to the quotes.  Up to two
quotes may stand right before three closing ones; they belong to the string.
-/

import LintWorkspace.Toml.Gap

namespace LintWorkspace
namespace Toml

/-- The value of a hexadecimal digit. -/
def hexDigit? (c : Char) : Option Nat :=
  if '0' ≤ c ∧ c ≤ '9' then some (c.toNat - '0'.toNat)
  else if 'a' ≤ c ∧ c ≤ 'f' then some (c.toNat - 'a'.toNat + 10)
  else if 'A' ≤ c ∧ c ≤ 'F' then some (c.toNat - 'A'.toNat + 10)
  else none

/-- The character with a given code, if the code is one of a character. -/
def charOfCode? (n : Nat) : Option Char :=
  if n.isValidChar then some (Char.ofNat n) else none

/-- Reads the character whose code the next `count` hexadecimal digits give. -/
def hexChar? (count : Nat) (cs : List Char) : Option (Char × List Char) := do
  let digits := cs.take count
  if digits.length < count then none
  else
    let values ← digits.mapM hexDigit?
    let c ← charOfCode? (values.foldl (fun n d => 16 * n + d) 0)
    some (c, cs.drop count)

/-- Reads what follows a backslash that names a character. -/
def escape? : Reader Char
  | 'b' :: cs => some ('\x08', cs)
  | 't' :: cs => some ('\t', cs)
  | 'n' :: cs => some ('\n', cs)
  | 'f' :: cs => some ('\x0c', cs)
  | 'r' :: cs => some ('\r', cs)
  | 'e' :: cs => some ('\x1b', cs)
  | '"' :: cs => some ('"', cs)
  | '\\' :: cs => some ('\\', cs)
  | 'x' :: cs => hexChar? 2 cs
  | 'u' :: cs => hexChar? 4 cs
  | 'U' :: cs => hexChar? 8 cs
  | _ => none

/-- What follows a backslash at the end of a line: the text after the blanks and line
breaks that it joins, if a line does end there. -/
def afterJoin? (cs : List Char) : Option (List Char) :=
  (afterBreak? (spaces cs).2).map fun rest =>
    rest.dropWhile fun c => isSpace c || c = '\n' || c = '\r'

/-- What closes a literal of three quotes, at a text that starts with at least three:
the quotes that belong to the string and the text after the closing ones. -/
def closing (quote : Char) (cs : List Char) : List Char × List Char :=
  let run := (cs.takeWhile (· = quote)).length
  let kept := min (run - 3) 2
  (List.replicate kept quote, cs.drop (kept + 3))

/-- Reads a literal with escapes after its opening quote.  The number bounds the steps. -/
def escapedWithin? : Nat → Reader (List Char)
  | 0, _ => none
  | _ + 1, [] => none
  | _ + 1, '"' :: cs => some ([], cs)
  | n + 1, '\\' :: cs => do
    let (c, cs) ← escape? cs
    let (s, rest) ← escapedWithin? n cs
    some (c :: s, rest)
  | n + 1, c :: cs =>
    if isPlain c then do
      let (s, rest) ← escapedWithin? n cs
      some (c :: s, rest)
    else none

/-- Reads a literal without escapes after its opening quote. -/
def verbatim? : Reader (List Char)
  | [] => none
  | '\'' :: cs => some ([], cs)
  | c :: cs =>
    if isPlain c then do
      let (s, rest) ← verbatim? cs
      some (c :: s, rest)
    else none

/-- Reads a literal with escapes after its three opening quotes.  The number bounds the
steps. -/
def escapedLinesWithin? : Nat → Reader (List Char)
  | 0, _ => none
  | _ + 1, [] => none
  | _ + 1, '"' :: '"' :: '"' :: cs => some (closing '"' ('"' :: '"' :: '"' :: cs))
  | n + 1, '\\' :: cs =>
    match afterJoin? cs with
    | some cs => escapedLinesWithin? n cs
    | none => do
      let (c, cs) ← escape? cs
      let (s, rest) ← escapedLinesWithin? n cs
      some (c :: s, rest)
  | n + 1, '\r' :: '\n' :: cs => do
    let (s, rest) ← escapedLinesWithin? n cs
    some ('\r' :: '\n' :: s, rest)
  | n + 1, c :: cs =>
    if isPlain c || c = '\n' then do
      let (s, rest) ← escapedLinesWithin? n cs
      some (c :: s, rest)
    else none

/-- Reads a literal without escapes after its three opening quotes. -/
def verbatimLines? : Reader (List Char)
  | [] => none
  | '\'' :: '\'' :: '\'' :: cs => some (closing '\'' ('\'' :: '\'' :: '\'' :: cs))
  | '\r' :: cs =>
    match cs with
    | '\n' :: _ => do
      let (s, rest) ← verbatimLines? cs
      some ('\r' :: s, rest)
    | _ => none
  | c :: cs =>
    if isPlain c || c = '\n' then do
      let (s, rest) ← verbatimLines? cs
      some (c :: s, rest)
    else none

/-- The text after a line break at its head, or the text itself. -/
def dropBreak (cs : List Char) : List Char := (afterBreak? cs).getD cs

/-- Reads a literal that stays on its line. -/
def lineLiteral? : Reader (List Char)
  | '"' :: cs => escapedWithin? cs.length cs
  | '\'' :: cs => verbatim? cs
  | _ => none

/-- Reads a string literal of any of the four kinds. -/
def literal? : Reader (List Char)
  | '"' :: '"' :: '"' :: cs => escapedLinesWithin? cs.length (dropBreak cs)
  | '\'' :: '\'' :: '\'' :: cs => verbatimLines? (dropBreak cs)
  | cs => lineLiteral? cs

example : literal? "\"a\\tb\" x".toList = some (['a', '\t', 'b'], " x".toList) := by decide
example : literal? "\"\"\"\na\\\n   b\"\"\"\"".toList = some ("ab\"".toList, []) := by decide
example : literal? "'a\\b'".toList = some ("a\\b".toList, []) := by decide
example : literal? "\"\\ud800\"".toList = none := by decide

end Toml
end LintWorkspace
