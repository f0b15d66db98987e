/-
# Texts shown between quotes

A text that is quoted back to a reader stands between double quotes, with
escapes for the quote, the backslash and everything that would not be seen.

| character | shown as |
| --- | --- |
| `"`, `\` | after a backslash |
| tab, line feed, carriage return, NUL | `\t`, `\n`, `\r`, `\0` |
| any other that is not printable, or extends the one before it | its code, as in `\u{200b}` |
-/

import LintWorkspace.Unicode.Category
import LintWorkspace.Unicode.Property

namespace LintWorkspace
namespace Text

/-- The characters that are not seen: controls, formats, unassigned codes and every
separator but the plain space. -/
def invisible : CharSet :=
  (Unicode.Category.other.union Unicode.Category.separator).diff (.single ' ')

/-- A character inside quotes. -/
def quotedChar (c : Char) : List Char :=
  if c = '"' || c = '\\' then ['\\', c]
  else if c = '\t' then ['\\', 't']
  else if c = '\n' then ['\\', 'n']
  else if c = '\r' then ['\\', 'r']
  else if c = '\x00' then ['\\', '0']
  else if 0x20 ≤ c.toNat ∧ c.toNat < 0x7F then [c]
  else if invisible.contains c || Unicode.Property.graphemeExtend.contains c then
    '\\' :: 'u' :: '{' :: (Nat.toDigits 16 c.toNat ++ ['}'])
  else [c]

/-- A text between quotes. -/
def quoted (s : String) : String :=
  String.ofList ('"' :: (s.toList.flatMap quotedChar ++ ['"']))

example : quoted "a\"b\n" = "\"a\\\"b\\n\"" := by decide

end Text
end LintWorkspace
