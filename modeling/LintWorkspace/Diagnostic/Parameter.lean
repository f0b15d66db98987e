/-
# Unused parameters

A function head is a name, a list of parameters between parentheses that holds no
others, perhaps a result type after `->`, and an opening brace:

```text
run(a: u8, b: Map<K, V>) -> usize {
```

Its body goes from the brace to the one that balances it.  A parameter counts as
used when its name occurs in the body as a word of its own.  Heads of control
statements are no function heads, and parameters named `self`, `this` or with an
underscore in front are left alone.

Offsets count characters.
-/

import LintWorkspace.Text.Blank
import LintWorkspace.Unicode.Word

namespace LintWorkspace
namespace Diagnostic

/-- Something found at an offset of a text. -/
structure Hit where
  offset : Nat
  text : List Char
deriving DecidableEq, Repr

/-- The characters a name may start with. -/
def isNameStart (c : Char) : Bool := c.isAlpha || c = '_'

/-- The names in a text, each as long as it goes, with their offsets; the first offset is
that of the text.  The number bounds the steps. -/
def namesFrom : Nat → Nat → List Char → List Hit
  | 0, _, _ => []
  | _ + 1, _, [] => []
  | n + 1, here, c :: cs =>
    if isNameStart c then
      let name := c :: cs.takeWhile Unicode.isWord
      ⟨here, name⟩ :: namesFrom n (here + name.length) (cs.dropWhile Unicode.isWord)
    else namesFrom n (here + 1) cs

/-- The names in a text. -/
def names (cs : List Char) : List Hit := namesFrom cs.length 0 cs

/-- A function head: its name, its parameters with their offset, and what follows the
opening brace with its offset. -/
structure Head where
  name : List Char
  paramsAt : Nat
  params : List Char
  bodyAt : Nat
  rest : List Char

/-- A text after the blanks at its head, and their number. -/
def skipBlanks (cs : List Char) : Nat × List Char :=
  ((cs.takeWhile Text.isBlank).length, cs.dropWhile Text.isBlank)

/-- What follows the opening brace after a parameter list, and how far it is away: blanks,
and a result type after `->` if one is written. -/
def afterBrace? (cs : List Char) : Option (Nat × List Char) :=
  let (blanks, cs) := skipBlanks cs
  match cs with
  | '{' :: rest => some (blanks + 1, rest)
  | '-' :: '>' :: cs =>
    let inType (c : Char) : Bool := c ≠ '{' && c ≠ ';'
    let length := (cs.takeWhile inType).length
    match cs.dropWhile inType with
    | '{' :: rest => if length = 0 then none else some (blanks + 2 + length + 1, rest)
    | _ => none
  | _ => none

/-- The function head that starts at the head of a text at an offset, if one does. -/
def head? (here : Nat) (cs : List Char) : Option Head :=
  match cs with
  | [] => none
  | c :: tail =>
    if !isNameStart c then none
    else
      let name := c :: tail.takeWhile Unicode.isWord
      let (blanks, afterName) := skipBlanks (tail.dropWhile Unicode.isWord)
      match afterName with
      | '(' :: inner =>
        let isParam (c : Char) : Bool := c ≠ '(' && c ≠ ')'
        let params := inner.takeWhile isParam
        let paramsAt := here + name.length + blanks + 1
        match inner.dropWhile isParam with
        | ')' :: cs =>
          (afterBrace? cs).map fun (length, rest) =>
            ⟨name, paramsAt, params, paramsAt + params.length + 1 + length, rest⟩
        | _ => none
      | _ => none

/-- The function heads in a text that goes on after a character at an offset, none
overlapping the one before.  The number bounds the steps. -/
def headsFrom : Nat → Option Char → Nat → List Char → List Head
  | 0, _, _, _ => []
  | _ + 1, _, _, [] => []
  | n + 1, before, here, c :: cs =>
    let found := if before.any Unicode.isWord then none else head? here (c :: cs)
    match found with
    | some h => h :: headsFrom n (some '{') h.bodyAt h.rest
    | none => headsFrom n (some c) (here + 1) cs

/-- The function heads in a text. -/
def heads (cs : List Char) : List Head := headsFrom cs.length none 0 cs

/-- The names that are followed by parentheses and a brace without being functions. -/
def controlWords : List (List Char) :=
  ["if", "while", "for", "foreach", "switch", "catch", "using", "lock", "match", "return",
    "fixed", "when"].map String.toList

/-- A text up to the brace that balances one before it, if that many braces more than are
opened are closed. -/
def body? : Nat → List Char → Option (List Char)
  | _, [] => none
  | depth, c :: cs =>
    if c = '{' then (body? (depth + 1) cs).map (c :: ·)
    else if c = '}' then
      match depth with
      | 0 => some []
      | depth + 1 => (body? depth cs).map (c :: ·)
    else (body? depth cs).map (c :: ·)

/-- The pieces of a parameter list between the commas before which as many brackets `<` and
`[` are opened as closed; the number is how many more were opened so far.  It has no bounds:
a number of 32 bits would differ from it at the `2 ^ 31`st bracket of a list at the earliest. -/
def splitParams : Int → List Char → List (List Char)
  | _, [] => [[]]
  | depth, c :: cs =>
    if c = ',' ∧ depth = 0 then [] :: splitParams depth cs
    else
      let depth := if c = '<' ∨ c = '[' then depth + 1
        else if c = '>' ∨ c = ']' then depth - 1 else depth
      match splitParams depth cs with
      | [] => [[c]]
      | piece :: pieces => (c :: piece) :: pieces

/-- A text up to its first colon that stands alone, if it has one; the flag says whether a
colon stands right before. -/
def beforeColon? : Bool → List Char → Option (List Char)
  | _, [] => none
  | colonBefore, c :: cs =>
    if c = ':' ∧ !colonBefore ∧ cs.head? ≠ some ':' then some []
    else (beforeColon? (c = ':') cs).map (c :: ·)

/-- The name a parameter declares, with its offset in the piece: the last name before a
colon that stands alone, or else before the first `=`. -/
def declaredName? (piece : List Char) : Option Hit :=
  match beforeColon? false piece with
  | some decl =>
    ((names decl).filter fun h => h.text ≠ "mut".toList && h.text ≠ "ref".toList).getLast?
  | none => (names (piece.takeWhile (· ≠ '='))).getLast?

/-- Whether a character belongs to the word it stands next to. -/
def joins (c : Char) : Bool := Unicode.isAlphanumeric c || c = '_'

/-- Whether a word occurs in a text after a character, between characters that do not belong
to it, among its occurrences from the left without overlap.  The number bounds the steps. -/
def mentionsFrom (word : List Char) : Nat → Option Char → List Char → Bool
  | 0, _, _ => false
  | _ + 1, _, [] => false
  | n + 1, before, c :: cs =>
    if word.isPrefixOf (c :: cs) then
      let rest := (c :: cs).drop word.length
      if !before.any joins && !rest.head?.any joins then true
      else mentionsFrom word n word.getLast? rest
    else mentionsFrom word n (some c) cs

/-- Whether a word occurs in a text as a word of its own. -/
def mentions (cs word : List Char) : Bool := mentionsFrom word (cs.length + 1) none cs

/-- Whether a parameter of a name is left alone. -/
def isExempt (name : List Char) : Bool :=
  name = "self".toList || name = "this".toList || name.head? = some '_'

/-- The parameters among the pieces of a list at an offset that a body does not use. -/
def unusedIn (body : List Char) : Nat → List (List Char) → List Hit
  | _, [] => []
  | here, piece :: pieces =>
    let rest := unusedIn body (here + piece.length + 1) pieces
    match declaredName? piece with
    | none => rest
    | some h =>
      if isExempt h.text || mentions body h.text then rest
      else ⟨here + h.offset, h.text⟩ :: rest

/-- The parameters of a function that its body does not use. -/
def Head.unused (h : Head) : List Hit :=
  if controlWords.contains h.name then []
  else match body? 0 h.rest with
    | none => []
    | some body => unusedIn body h.paramsAt (splitParams 0 h.params)

/-- The parameters in a text that their functions do not use. -/
def unusedHits (cs : List Char) : List Hit := (heads cs).flatMap Head.unused

example : unusedHits "int f(int a, int b) { return a; }".toList = [⟨17, ['b']⟩] := by
  decide +kernel

end Diagnostic
end LintWorkspace
