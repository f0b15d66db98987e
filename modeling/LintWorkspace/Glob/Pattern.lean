/-
# Glob patterns

| token | matches |
| --- | --- |
| `?` | one character |
| `*` | any characters, slashes too |
| `**` between slashes | nothing, or any characters up to a slash or the end |
| `[ab-d]`, `[!ab-d]` | one character of, or outside, a class |
| any other character | itself |

A pattern matches a whole text.  A class needs at least one character, which may
be `]`; `**` has to fill the space between two slashes.
-/

namespace LintWorkspace
namespace Glob

/-- A part of a class: the characters from one to another. -/
structure Range where
  first : Char
  last : Char
deriving DecidableEq, Repr

/-- A piece of a pattern. -/
inductive Token where
  | char (c : Char)
  | anyChar
  | anyOf (ranges : List Range)
  | noneOf (ranges : List Range)
  /-- `*` -/
  | sequence
  /-- `**` together with the slash behind it -/
  | recursive
deriving DecidableEq, Repr

/-- Why a text is no pattern. -/
inductive PatternFault where
  | wildcards
  | recursiveWildcards
  | range
deriving DecidableEq, Repr

/-- The wording of a fault. -/
def PatternFault.message : PatternFault → String
  | wildcards => "wildcards are either regular `*` or recursive `**`"
  | recursiveWildcards => "recursive wildcards must form a single path component"
  | range => "invalid range pattern"

/-- The ranges that the inside of a class lists. -/
def ranges : List Char → List Range
  | a :: '-' :: b :: cs => ⟨a, b⟩ :: ranges cs
  | a :: cs => ⟨a, a⟩ :: ranges cs
  | [] => []

/-- The inside of a class up to its closing bracket, which is not its first character, and
what follows the bracket. -/
def classBody? : List Char → Option (List Char × List Char)
  | [] => none
  | c :: cs =>
    match cs.dropWhile (· ≠ ']') with
    | [] => none
    | _ :: rest => some (c :: cs.takeWhile (· ≠ ']'), rest)

/-- Reads a class after its opening bracket. -/
def class? : List Char → Option (Token × List Char)
  | '!' :: cs => (classBody? cs).map fun (body, rest) => (.noneOf (ranges body), rest)
  | cs => (classBody? cs).map fun (body, rest) => (.anyOf (ranges body), rest)

/-- Reads the tokens of a pattern after a character, if there is one before, and after the
tokens read so far, the last one first.  The number bounds the steps. -/
def tokens? : Nat → Option Char → List Token → List Char → Except PatternFault (List Token)
  | 0, _, done, _ => .ok done.reverse
  | _ + 1, _, done, [] => .ok done.reverse
  | n + 1, before, done, '*' :: cs =>
    let stars := (cs.takeWhile (· = '*')).length + 1
    let rest := cs.dropWhile (· = '*')
    if 2 < stars then .error .wildcards
    else if stars = 1 then tokens? n (some '*') (.sequence :: done) rest
    else if before.isSome && before ≠ some '/' then .error .recursiveWildcards
    else
      let done := match done with
        | .recursive :: _ :: _ => done
        | _ => .recursive :: done
      match rest with
      | [] => .ok done.reverse
      | '/' :: rest => tokens? n (some '/') done rest
      | _ => .error .recursiveWildcards
  | n + 1, _, done, '[' :: cs =>
    match class? cs with
    | some (t, rest) => tokens? n (some ']') (t :: done) rest
    | none => .error .range
  | n + 1, _, done, '?' :: cs => tokens? n (some '?') (.anyChar :: done) cs
  | n + 1, _, done, c :: cs => tokens? n (some c) (.char c :: done) cs

/-- A pattern with its text. -/
structure Pattern where
  text : String
  tokens : List Token
deriving DecidableEq, Repr

/-- The pattern a text spells. -/
def Pattern.ofText (text : String) : Except PatternFault Pattern :=
  match tokens? (text.toList.length + 1) none [] text.toList with
  | .ok tokens => .ok ⟨text, tokens⟩
  | .error fault => .error fault

/-- Whether a character lies in one of the ranges. -/
def inRanges (rs : List Range) (c : Char) : Bool := rs.any fun r => r.first ≤ c && c ≤ r.last

/-- Whether a token that stands for one character matches it. -/
def Token.accepts (c : Char) : Token → Bool
  | char d => c = d
  | anyChar => true
  | anyOf rs => inRanges rs c
  | noneOf rs => !inRanges rs c
  | sequence => false
  | recursive => false

/-- Whether a test holds of the text or of what is left after some of its characters. -/
def someRest (test : List Char → Bool) : List Char → Bool
  | [] => test []
  | c :: cs => test (c :: cs) || someRest test cs

/-- Whether a test holds of what is left after some slash, or of nothing. -/
def someRestAfterSlash (test : List Char → Bool) : List Char → Bool
  | [] => test []
  | c :: cs => (c = '/' && test cs) || someRestAfterSlash test cs

/-- Whether tokens match a whole text. -/
def matchTokens : List Token → List Char → Bool
  | [], cs => cs.isEmpty
  | .sequence :: ts, cs => someRest (matchTokens ts) cs
  | .recursive :: ts, cs => matchTokens ts cs || someRestAfterSlash (matchTokens ts) cs
  | _ :: _, [] => false
  | t :: ts, c :: cs => t.accepts c && matchTokens ts cs

namespace Pattern

/-- Whether a pattern matches a whole text. -/
def matchesText (p : Pattern) (text : String) : Bool := matchTokens p.tokens text.toList

/-- Whether a pattern is or holds a `**`. -/
def isRecursive (p : Pattern) : Bool := p.tokens.contains .recursive

/-- The text that a pattern without wildcards and classes matches. -/
def literal? (p : Pattern) : Option String :=
  (p.tokens.mapM fun t => match t with
    | Token.char c => some c
    | _ => none).map String.ofList

end Pattern

example : (Pattern.ofText "/a/**/*.c").toOption.map (·.matchesText "/a/b/x.c") = some true := by
  decide
example : (Pattern.ofText "/a/**/*.c").toOption.map (·.matchesText "/a/x.c") = some true := by
  decide
example : (Pattern.ofText "a**").toOption = none := by decide

end Glob
end LintWorkspace
