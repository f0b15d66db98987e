/-
# YAML scalars

The ways to write a scalar, and how its lines are folded.

| written | folding |
| --- | --- |
| plain, up to `: `, ` #` or, in a flow collection, a bracket or comma | yes |
| `'…'`, a quote inside is doubled | yes |
| `"…"`, with escapes | yes, a backslash joins lines |
| after a `\|` | none |
| after a `>` | between lines of text that do not start with a blank |

Folding turns one line break into a blank and more of them into one less.  The
text is taken to have `\n` for every line break.
-/

import LintWorkspace.Toml.Literal

namespace LintWorkspace
namespace Yaml

/-- Blank and tab. -/
def isSpace (c : Char) : Bool := c = ' ' || c = '\t'

/-- Whether a text ends here or goes on with a blank, a tab or a line break. -/
def isGap : List Char → Bool
  | [] => true
  | c :: _ => isSpace c || c = '\n'

/-- The characters that close or separate in a flow collection. -/
def isFlowMark (c : Char) : Bool := c = ',' || c = '[' || c = ']' || c = '{' || c = '}'

/-- What stands for some line breaks when they are folded. -/
def folded (breaks : Nat) : List Char :=
  if breaks ≤ 1 then [' '] else List.replicate (breaks - 1) '\n'

/-- Skips blanks and line breaks: the number of line breaks, the blanks since the last of
them, and the rest. -/
def skipLines : Nat → Nat → List Char → Nat × Nat × List Char
  | breaks, column, [] => (breaks, column, [])
  | breaks, column, c :: cs =>
    if c = '\n' then skipLines (breaks + 1) 0 cs
    else if isSpace c then skipLines breaks (column + 1) cs
    else (breaks, column, c :: cs)

/-- Takes the part of a plain scalar that stands on one line, with the blanks behind it. -/
def plainLine (flow : Bool) : Bool → List Char → List Char × List Char
  | _, [] => ([], [])
  | afterSpace, c :: cs =>
    if c = '\n' || (c = '#' && afterSpace) then ([], c :: cs)
    else if flow && isFlowMark c then ([], c :: cs)
    else if c = ':' && (isGap cs || (flow && cs.head?.any isFlowMark)) then ([], c :: cs)
    else
      let (text, rest) := plainLine flow (isSpace c) cs
      (c :: text, rest)

/-- A text without the blanks at its end. -/
def dropSpacesEnd (cs : List Char) : List Char := (cs.reverse.dropWhile isSpace).reverse

/-- Reads a plain scalar whose further lines stand at a column of at least `margin`.  The
number bounds the lines. -/
def plain (flow : Bool) (margin : Nat) : Nat → List Char → List Char × List Char
  | 0, cs => ([], cs)
  | n + 1, cs =>
    let (line, rest) := plainLine flow true cs
    let text := dropSpacesEnd line
    let (breaks, column, next) := skipLines 0 0 rest
    let ends := breaks = 0 || next.isEmpty || (!flow && column < margin) ||
      (plainLine flow true next).1.isEmpty
    if ends then (text, rest)
    else
      let (more, rest) := plain flow margin n next
      (text ++ folded breaks ++ more, rest)

/-- Whether a plain scalar may start here. -/
def startsPlain (flow : Bool) : List Char → Bool
  | [] => false
  | c :: cs =>
    if c = '-' then !isGap cs
    else if c = '?' || c = ':' then !flow && !isGap cs
    else !(isSpace c || c = '\n' || isFlowMark c || "#&*!|>'\"%@\x60".toList.contains c)

/-- Reads the character that an escape stands for, after its backslash. -/
def escape? : List Char → Option (List Char × List Char)
  | '0' :: cs => some (['\x00'], cs)
  | 'a' :: cs => some (['\x07'], cs)
  | 'b' :: cs => some (['\x08'], cs)
  | 't' :: cs => some (['\t'], cs)
  | '\t' :: cs => some (['\t'], cs)
  | 'n' :: cs => some (['\n'], cs)
  | 'v' :: cs => some (['\x0b'], cs)
  | 'f' :: cs => some (['\x0c'], cs)
  | 'r' :: cs => some (['\r'], cs)
  | 'e' :: cs => some (['\x1b'], cs)
  | ' ' :: cs => some ([' '], cs)
  | '"' :: cs => some (['"'], cs)
  | '/' :: cs => some (['/'], cs)
  | '\\' :: cs => some (['\\'], cs)
  | 'N' :: cs => some (['\x85'], cs)
  | '_' :: cs => some (['\xa0'], cs)
  | 'L' :: cs => some (['\u2028'], cs)
  | 'P' :: cs => some (['\u2029'], cs)
  | 'x' :: cs => (Toml.hexChar? 2 cs).map fun (c, rest) => ([c], rest)
  | 'u' :: cs => (Toml.hexChar? 4 cs).map fun (c, rest) => ([c], rest)
  | 'U' :: cs => (Toml.hexChar? 8 cs).map fun (c, rest) => ([c], rest)
  | _ => none

/-- Reads a quoted scalar after its opening quote.  The number bounds the steps. -/
def quoted? (quote : Char) : Nat → List Char → Option (List Char × List Char)
  | 0, _ => none
  | _ + 1, [] => none
  | n + 1, c :: cs =>
    if c = quote then
      if quote = '\'' && cs.head? = some '\'' then
        (quoted? quote n cs.tail).map fun (s, rest) => ('\'' :: s, rest)
      else some ([], cs)
    else if c = '\\' && quote = '"' then
      match cs with
      | '\n' :: cs => quoted? quote n (skipLines 0 0 cs).2.2
      | cs => do
        let (e, cs) ← escape? cs
        let (s, rest) ← quoted? quote n cs
        some (e ++ s, rest)
    else if c = '\n' || isSpace c then
      let (breaks, _, next) := skipLines 0 0 (c :: cs)
      if breaks = 0 then (quoted? quote n cs).map fun (s, rest) => (c :: s, rest)
      else (quoted? quote n next).map fun (s, rest) => (folded breaks ++ s, rest)
    else (quoted? quote n cs).map fun (s, rest) => (c :: s, rest)

/-- Splits a text behind its first line break. -/
def cutLine (cs : List Char) : List Char × List Char :=
  (cs.takeWhile (· ≠ '\n'), (cs.dropWhile (· ≠ '\n')).tail)

/-- The lines of a block scalar that stand at a column of at least `margin`; the margin is
that of the first line with text if none is given.  The number bounds the lines. -/
def blockLines (parent : Nat) : Nat → Option Nat → List Char → List (List Char) × List Char
  | 0, _, cs => ([], cs)
  | _ + 1, _, [] => ([], [])
  | n + 1, margin, cs =>
    let (line, rest) := cutLine cs
    let indent := (line.takeWhile (· = ' ')).length
    if indent = line.length then
      let (lines, rest) := blockLines parent n margin rest
      (line.drop (margin.getD indent) :: lines, rest)
    else
      let margin := margin.getD indent
      if indent < margin || indent < parent then ([], cs)
      else
        let (lines, rest) := blockLines parent n (some margin) rest
        (line.drop margin :: lines, rest)

/-- The text of folded lines; `held` counts the line breaks since the last line with text
and `loose` says that it started with a blank. -/
def foldLines : Nat → Bool → List (List Char) → List Char
  | _, _, [] => []
  | held, loose, [] :: lines => foldLines (held + 1) loose lines
  | held, loose, line :: lines =>
    let blank := line.head?.any isSpace
    let joint := if held = 0 then []
      else if loose || blank then List.replicate held '\n'
      else folded held
    joint ++ line ++ foldLines 1 blank lines

/-- Reads a block scalar after its `|` or `>`, below a parent whose content starts at a
column of at least `parent`. -/
def block? (fold : Bool) (parent : Nat) (cs : List Char) : Option (List Char × List Char) := do
  let (header, rest) := cutLine cs
  let marks := header.takeWhile fun c => c = '+' || c = '-' || c.isDigit
  let after := header.drop marks.length
  let signs := marks.filter fun c => !c.isDigit
  let sizes := marks.filter Char.isDigit
  let comment := after.dropWhile isSpace
  if 1 < signs.length || 1 < sizes.length || sizes.contains '0' then none
  else if !comment.isEmpty && (comment.head? ≠ some '#' || comment.length = after.length) then none
  else
    let margin := sizes.head?.map fun c => (parent - 1) + (c.toNat - '0'.toNat)
    let (lines, rest) := blockLines parent (rest.length + 1) margin rest
    let kept := (lines.reverse.dropWhile List.isEmpty).reverse
    let text := if fold then foldLines 0 true kept else ['\n'].intercalate kept
    let tail := match signs with
      | ['-'] => []
      | ['+'] => List.replicate (lines.length - kept.length + (if kept.isEmpty then 0 else 1)) '\n'
      | _ => if kept.isEmpty then [] else ['\n']
    some (text ++ tail, rest)

end Yaml
end LintWorkspace
