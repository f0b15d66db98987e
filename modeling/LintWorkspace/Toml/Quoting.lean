/-
# Writing a string

A string is written in the first of five ways that can hold it.

| written between | can hold |
| --- | --- |
| `"`, plain | neither controls nor line breaks, `"` or backslashes; a tab as `\t` |
| `'` | neither controls nor line breaks or `'` |
| `"""`, plain | neither controls nor backslashes or three `"` in a row; a tab as `\t` |
| `'''` | neither controls nor three `'` in a row |
| `"` or, with a line break in it, `"""` | everything, by escapes |

Tab and, except in the first two, the line feed do not count as controls here.  A
string in triple quotes that holds a line break starts on the next line.
-/

import LintWorkspace.Toml.Literal

namespace LintWorkspace
namespace Toml

/-- How many times a character stands in a row at most, given how many times it stood
right before. -/
def longestRun (q : Char) : Nat → List Char → Nat
  | n, [] => n
  | n, c :: cs => if c = q then longestRun q (n + 1) cs else max n (longestRun q 0 cs)

/-- Whether a character has to be escaped wherever it stands. -/
def isControl (c : Char) : Bool :=
  (c.toNat < 0x20 && c ≠ '\t' && c ≠ '\n') || c.toNat = 0x7F

/-- The escape of a character other than the quote, if it needs one. -/
def escapeOf? (c : Char) : Option (List Char) :=
  if c = '\x08' then some ['\\', 'b']
  else if c = '\t' then some ['\\', 't']
  else if c = '\n' then some ['\\', 'n']
  else if c = '\x0c' then some ['\\', 'f']
  else if c = '\r' then some ['\\', 'r']
  else if c = '\\' then some ['\\', '\\']
  else if isControl c then
    let digits := (Nat.toDigits 16 c.toNat).map Char.toUpper
    some ('\\' :: 'u' :: (List.replicate (4 - digits.length) '0' ++ digits))
  else none

/-- A string with escapes.  With `lines` it may hold line breaks and, in a row, two quotes;
the number counts the quotes right before. -/
def escaped (lines : Bool) : Nat → List Char → List Char
  | _, [] => []
  | n, c :: cs =>
    if c = '"' then
      if lines && n < 2 then c :: escaped lines (n + 1) cs
      else '\\' :: c :: escaped lines 0 cs
    else if lines && c = '\n' then c :: escaped lines 0 cs
    else match escapeOf? c with
      | some e => e ++ escaped lines 0 cs
      | none => c :: escaped lines 0 cs

/-- What stands between triple quotes: a line break comes first if the string holds one. -/
def onNextLine (s : List Char) (body : List Char) : List Char :=
  if s.contains '\n' then '\n' :: body else body

/-- The literal that a string is written as. -/
def quote (s : List Char) : List Char :=
  let controls := s.any isControl
  let backslash := s.contains '\\'
  let line := s.contains '\n'
  let doubles := longestRun '"' 0 s
  let singles := longestRun '\'' 0 s
  let lineBody := onNextLine s (escaped true 0 s)
  if !controls && !backslash && doubles = 0 && !line then
    '"' :: (escaped false 0 s ++ ['"'])
  else if !controls && singles = 0 && !line then '\'' :: (s ++ ['\''])
  else if !controls && !backslash && doubles ≤ 2 then
    '"' :: '"' :: '"' :: (lineBody ++ ['"', '"', '"'])
  else if !controls && singles ≤ 2 then
    '\'' :: '\'' :: '\'' :: (onNextLine s s ++ ['\'', '\'', '\''])
  else if line then '"' :: '"' :: '"' :: (lineBody ++ ['"', '"', '"'])
  else '"' :: (escaped false 0 s ++ ['"'])

example : quote "a b".toList = "\"a b\"".toList := by decide
example : quote "a\\b".toList = "'a\\b'".toList := by decide
example : quote "it's \"it\"".toList = "\"\"\"it's \"it\"\"\"\"".toList := by decide
example : literal? (quote "\x01'\n\"\"\"".toList) = some ("\x01'\n\"\"\"".toList, []) := by decide

end Toml
end LintWorkspace
