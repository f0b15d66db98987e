/-
# Reading regular expressions

`Expr.ofText?` reads an expression from its text, or nothing if the text is none.
The flags decide how what follows them is read, up to the end of their group:

| flag | effect |
| --- | --- |
| `i` | letters match in every case |
| `m` | `^` and `$` also match at line breaks |
| `s` | `.` also matches a line feed |
| `U` | a repetition is greedy if a `?` follows it |
| `u` | on at first: classes are those of Unicode |
| `x` | blanks and comments from `#` on do not count |
| `R` | line breaks may be `\r\n` |

Without `u` an expression may only match characters of ASCII by a class.

Groups, repetitions, rows, alternatives and classes nest at most `maxNesting` deep.
-/

import LintWorkspace.Regex.Class
import LintWorkspace.Regex.Expression
import LintWorkspace.Text.Blank
import LintWorkspace.Toml.Literal

namespace LintWorkspace
namespace Regex

open Toml (hexDigit? charOfCode?)

/-- How an expression is read. -/
structure Flags where
  caseless : Bool
  multiline : Bool
  dotAll : Bool
  swapped : Bool
  unicode : Bool
  verbose : Bool
  crlf : Bool

/-- How an expression is read at first. -/
def Flags.default : Flags := ⟨false, false, false, false, true, false, false⟩

/-- A text without the blanks and comments at its head; the flag says whether it starts
inside a comment. -/
def dropComments : Bool → List Char → List Char
  | _, [] => []
  | true, c :: cs => dropComments (c ≠ '\n') cs
  | false, c :: cs =>
    if Text.isBlank c then dropComments false cs
    else if c = '#' then dropComments true cs
    else c :: cs

/-- A text from the next character that counts on. -/
def Flags.skip (f : Flags) (cs : List Char) : List Char :=
  if f.verbose then dropComments false cs else cs

/-- What one character or escape stands for. -/
inductive Atom where
  /-- a character; `byte` if it is written as a byte -/
  | literal (c : Char) (byte : Bool)
  | set (s : CharSet)
  | look (l : Look)

/-- The set with all cases, if the flags ask for them, and negated if asked for; nothing if
it is one of ASCII and leaves ASCII. -/
def Flags.close? (f : Flags) (negated : Bool) (s : CharSet) : Option CharSet :=
  let s := if f.caseless then
      if f.unicode then Unicode.caseClosure s else (Unicode.caseClosure s).inter ascii
    else s
  let s := if negated then s.compl else s
  if f.unicode || (s.diff ascii).isEmpty then some s else none

/-- The number that digits of a base write, up to the greatest of 32 bits. -/
def number? (base : Nat) (digit : Char → Option Nat) (cs : List Char) : Option Nat := do
  let ds ← cs.mapM digit
  if ds.isEmpty then none
  else
    let n := ds.foldl (fun n d => base * n + d) 0
    if n < Nat.pow 2 32 then some n else none

/-- Takes so many hexadecimal digits, with what the flags skip between them. -/
def takeHex? (f : Flags) : Nat → List Char → Option (List Char × List Char)
  | 0, cs => some ([], cs)
  | n + 1, cs =>
    match cs with
    | [] => none
    | c :: cs =>
      if (hexDigit? c).isSome then do
        let (ds, rest) ← takeHex? f n (f.skip cs)
        some (c :: ds, rest)
      else none

/-- Takes what stands up to a closing brace, without what the flags skip.  The number
bounds the steps. -/
def takeBraced? (f : Flags) : Nat → List Char → Option (List Char × List Char)
  | 0, _ => none
  | _ + 1, [] => none
  | _ + 1, '}' :: cs => some ([], cs)
  | n + 1, c :: cs => do
    let (ds, rest) ← takeBraced? f n (f.skip cs)
    some (c :: ds, rest)

/-- Reads a character given by its code, after `\x`, `\u` or `\U`. -/
def hex? (f : Flags) (count : Nat) (cs : List Char) : Option (Atom × List Char) := do
  match f.skip cs with
  | '{' :: cs =>
    let (ds, rest) ← takeBraced? f (cs.length + 1) (f.skip cs)
    let c ← charOfCode? (← number? 16 hexDigit? ds)
    some (.literal c false, f.skip rest)
  | cs =>
    let (ds, rest) ← takeHex? f count cs
    let c ← charOfCode? (← number? 16 hexDigit? ds)
    some (.literal c (count = 2), rest)

/-- The place of a list at which another list starts. -/
def find? (part : List Char) : List Char → Option (List Char × List Char)
  | [] => none
  | c :: cs =>
    if part.isPrefixOf (c :: cs) then some ([], (c :: cs).drop part.length)
    else (find? part cs).map fun (a, b) => (c :: a, b)

/-- The set that a name in braces after `\p` stands for, and whether it is negated. -/
def braced? (name : List Char) : Option (CharSet × Bool) :=
  match find? ['!', '='] name with
  | some (n, v) => (propertyValue? n v).map fun s => (s, true)
  | none =>
    match find? [':'] name with
    | some (n, v) => (propertyValue? n v).map fun s => (s, false)
    | none =>
      match find? ['='] name with
      | some (n, v) => (propertyValue? n v).map fun s => (s, false)
      | none => (propertyNamed? name).map fun s => (s, false)

/-- Reads a class after `\p` or `\P`. -/
def property? (f : Flags) (negated : Bool) (cs : List Char) : Option (Atom × List Char) := do
  if !f.unicode then none
  else
    match f.skip cs with
    | '{' :: cs =>
      let (name, rest) ← takeBraced? f (cs.length + 1) (f.skip cs)
      let (s, other) ← braced? name
      some (.set (← f.close? (negated != other) s), rest)
    | '\\' :: _ => none
    | c :: cs =>
      let s ← propertyNamed? [c]
      some (.set (← f.close? negated s), f.skip cs)
    | [] => none

/-- A class of one letter; negated, it may leave ASCII only with Unicode on. -/
def classAtom? (f : Flags) (negated : Bool) (s : CharSet) (cs : List Char) :
    Option (Atom × List Char) :=
  let s := if negated then s.compl else s
  if f.unicode || (s.diff ascii).isEmpty then some (.set s, cs) else none

/-- The characters of which the names of word looks are made. -/
def isLookName (c : Char) : Bool := c.isAlpha || c = '-'

/-- Takes the name of a word look, without what the flags skip.  The number bounds the
steps. -/
def takeLookName (f : Flags) : Nat → List Char → List Char × List Char
  | 0, cs => ([], cs)
  | _ + 1, [] => ([], [])
  | n + 1, c :: cs =>
    if isLookName c then
      let (name, rest) := takeLookName f n (f.skip cs)
      (c :: name, rest)
    else ([], c :: cs)

/-- Reads what follows `\b`: the name of a word look in braces, if one starts there. -/
def wordLook? (f : Flags) (cs : List Char) : Option (Atom × List Char) :=
  let ascii := !f.unicode
  match cs with
  | '{' :: inner =>
    match f.skip inner with
    | [] => none
    | c :: inner =>
      if isLookName c then
        let (name, rest) := takeLookName f (inner.length + 2) (c :: inner)
        match rest with
        | '}' :: rest =>
          match String.ofList name with
          | "start" => some (.look (.wordStart ascii), rest)
          | "end" => some (.look (.wordEnd ascii), rest)
          | "start-half" => some (.look (.noWordBefore ascii), rest)
          | "end-half" => some (.look (.noWordAfter ascii), rest)
          | _ => none
        | _ => none
      else some (.look (.wordBoundary ascii), cs)
  | _ => some (.look (.wordBoundary ascii), cs)

/-- Reads an escape after its backslash. -/
def escape? (f : Flags) : List Char → Option (Atom × List Char)
  | [] => none
  | c :: cs =>
    match c with
    | 'x' => hex? f 2 cs
    | 'u' => hex? f 4 cs
    | 'U' => hex? f 8 cs
    | 'p' => property? f false cs
    | 'P' => property? f true cs
    | 'd' => classAtom? f false (digits f.unicode) cs
    | 'D' => classAtom? f true (digits f.unicode) cs
    | 's' => classAtom? f false (blanks f.unicode) cs
    | 'S' => classAtom? f true (blanks f.unicode) cs
    | 'w' => classAtom? f false (wordChars f.unicode) cs
    | 'W' => classAtom? f true (wordChars f.unicode) cs
    | 'a' => some (.literal '\x07' false, cs)
    | 'f' => some (.literal '\x0c' false, cs)
    | 't' => some (.literal '\t' false, cs)
    | 'n' => some (.literal '\n' false, cs)
    | 'r' => some (.literal '\r' false, cs)
    | 'v' => some (.literal '\x0b' false, cs)
    | 'A' => some (.look .textStart, cs)
    | 'z' => some (.look .textEnd, cs)
    | 'b' => wordLook? f cs
    | 'B' => some (.look (.noWordBoundary !f.unicode), cs)
    | '<' => some (.look (.wordStart !f.unicode), cs)
    | '>' => some (.look (.wordEnd !f.unicode), cs)
    | c => if c.isAlphanum || 0x7F < c.toNat then none else some (.literal c false, cs)

/-- An expression or a set, and how deep what it is made of nests. -/
structure Nested (α : Type) where
  value : α
  depth : Nat

/-- Several parts in a row or side by side nest one deeper than each of them. -/
def rowDepth (depths : List Nat) : Nat :=
  match depths with
  | [] => 0
  | [d] => d
  | depths => depths.foldl max 0 + 1

/-- How the sets of a class are combined. -/
inductive SetOp where
  | inter
  | diff
  | symmDiff

/-- The set combined of two sets. -/
def SetOp.apply : SetOp → CharSet → CharSet → CharSet
  | inter => CharSet.inter
  | diff => CharSet.diff
  | symmDiff => CharSet.symmDiff

/-- The items of a class read so far: their union, and how deep each of them nests. -/
structure Members where
  union : CharSet
  depths : List Nat

namespace Members

/-- No items. -/
def none : Members := ⟨.empty, []⟩

/-- One more item. -/
def add (m : Members) (s : CharSet) (depth : Nat) : Members :=
  ⟨m.union.union s, depth :: m.depths⟩

/-- The items as one set. -/
def whole (m : Members) : Nested CharSet := ⟨m.union, rowDepth m.depths⟩

end Members

/-- What stands to the left of an operator, combined with what stands to its right. -/
def combined? (f : Flags) (left : Option (SetOp × Nested CharSet)) (s : Nested CharSet) :
    Option (Nested CharSet) :=
  match left with
  | none => some s
  | some (op, t) => do
    some ⟨op.apply (← f.close? false t.value) (← f.close? false s.value),
      max t.depth s.depth + 1⟩

/-- Reads a named class of ASCII characters after `[`, if one stands there. -/
def asciiNamed? (cs : List Char) : Option (Bool × CharSet × List Char) := do
  let cs ← match cs with
    | ':' :: cs => some cs
    | _ => none
  let (negated, cs) := match cs with
    | '^' :: cs => (true, cs)
    | cs => (false, cs)
  match cs.dropWhile (· ≠ ':') with
  | ':' :: ']' :: rest =>
    let s ← asciiClass? (String.ofList (cs.takeWhile (· ≠ ':')))
    some (negated, s, rest)
  | _ => none

/-- Takes the dashes at the head of a class.  The number bounds the steps. -/
def takeDashes (f : Flags) : Nat → List Char → Nat × List Char
  | 0, cs => (0, cs)
  | n + 1, '-' :: cs =>
    let (count, rest) := takeDashes f n (f.skip cs)
    (count + 1, rest)
  | _ + 1, cs => (0, cs)

/-- Reads the head of a class after `[`: whether it is negated, and the characters that are
literal only there. -/
def classHead (f : Flags) (cs : List Char) : Bool × Members × List Char :=
  let cs := f.skip cs
  let (negated, cs) := match cs with
    | '^' :: cs => (true, f.skip cs)
    | cs => (false, cs)
  let (dashes, cs) := takeDashes f cs.length cs
  if 0 < dashes then (negated, ⟨.single '-', List.replicate dashes 0⟩, cs)
  else match cs with
    | ']' :: cs => (negated, Members.none.add (.single ']') 0, f.skip cs)
    | cs => (negated, .none, cs)

/-- Reads one item of a class. -/
def classItem? (f : Flags) : List Char → Option (Atom × List Char)
  | [] => none
  | '\\' :: cs => escape? f cs
  | c :: cs => some (.literal c false, cs)

/-- The set of an item of a class. -/
def Atom.set? (f : Flags) : Atom → Option CharSet
  | literal c byte => if !f.unicode && (byte || 0x7F < c.toNat) && 0x7F < c.toNat then none
    else some (.single c)
  | set s => some s
  | look _ => none

/-- Reads an item or a range of a class. -/
def classRange? (f : Flags) (cs : List Char) : Option (CharSet × List Char) := do
  let (first, rest) ← classItem? f cs
  let one := do some (← first.set? f, f.skip rest)
  match f.skip rest with
  | '-' :: after =>
    match f.skip after with
    | ']' :: _ => one
    | '-' :: _ => one
    | after =>
      let (last, rest) ← classItem? f after
      match first, last with
      | .literal a _, .literal b _ =>
        if !f.unicode && 0x7F < b.toNat then none
        else if a.toNat ≤ b.toNat then some (.range a.toNat b.toNat, rest) else none
      | _, _ => none
  | _ => one

/-- Reads the items of a class up to its closing bracket, after those read so far.  The
number bounds the steps. -/
def classItems? (f : Flags) : Nat → Option (SetOp × Nested CharSet) → Members → List Char →
    Option (Nested CharSet × List Char)
  | 0, _, _, _ => none
  | n + 1, left, m, cs =>
    match f.skip cs with
    | [] => none
    | ']' :: rest => do some (← combined? f left m.whole, rest)
    | '&' :: '&' :: rest => do
      classItems? f n (some (.inter, ← combined? f left m.whole)) .none rest
    | '-' :: '-' :: rest => do
      classItems? f n (some (.diff, ← combined? f left m.whole)) .none rest
    | '~' :: '~' :: rest => do
      classItems? f n (some (.symmDiff, ← combined? f left m.whole)) .none rest
    | '[' :: inner =>
      match asciiNamed? inner with
      | some (negated, t, rest) => do
        classItems? f n left (m.add (← f.close? negated t) 0) rest
      | none => do
        let (negated, start, inner) := classHead f inner
        let (t, rest) ← classItems? f n none start inner
        classItems? f n left (m.add (← f.close? negated t.value) (t.depth + 1)) rest
    | cs => do
      let (t, rest) ← classRange? f cs
      classItems? f n left (m.add t 0) rest

/-- Reads a class after its opening bracket. -/
def class? (f : Flags) (cs : List Char) : Option (Nested CharSet × List Char) := do
  let (negated, start, rest) := classHead f cs
  let (s, rest) ← classItems? f (cs.length + 1) none start rest
  some (⟨← f.close? negated s.value, s.depth + 1⟩, rest)

/-- The expression for one character. -/
def literalExpr? (f : Flags) (c : Char) (byte : Bool) : Option Expr :=
  if !f.unicode && byte && 0x7F < c.toNat then none
  else if f.caseless && (f.unicode || c.toNat ≤ 0x7F) then
    (f.close? false (.single c)).map .chars
  else some (.chars (.single c))

/-- The expression for an atom outside classes. -/
def Atom.expr? (f : Flags) : Atom → Option Expr
  | literal c byte => literalExpr? f c byte
  | set s => some (.chars s)
  | look l => some (.look l)

/-- The characters that `.` matches. -/
def dot? (f : Flags) : Option CharSet :=
  if !f.unicode then none
  else if f.dotAll then some .all
  else if f.crlf then some (CharSet.union (.single '\n') (.single '\r')).compl
  else some (CharSet.single '\n').compl

/-- Sets or clears one flag. -/
def Flags.put? (f : Flags) (on : Bool) : Char → Option Flags
  | 'i' => some { f with caseless := on }
  | 'm' => some { f with multiline := on }
  | 's' => some { f with dotAll := on }
  | 'U' => some { f with swapped := on }
  | 'u' => some { f with unicode := on }
  | 'x' => some { f with verbose := on }
  | 'R' => some { f with crlf := on }
  | _ => none

/-- Reads flags up to `)` or `:`; `seen` are the letters and signs read so far. -/
def flags? (f : Flags) (on : Bool) (seen : List Char) : List Char →
    Option (Flags × List Char × List Char)
  | [] => none
  | c :: cs =>
    if c = ')' || c = ':' then
      if seen.head? = some '-' then none else some (f, seen, c :: cs)
    else if seen.contains c then none
    else if c = '-' then flags? f false (c :: seen) cs
    else do flags? (← f.put? on c) on (c :: seen) cs

/-- Whether a character may stand in the name of a group. -/
def isGroupName (first : Bool) (c : Char) : Bool :=
  c = '_' || (if first then Unicode.Property.alphabetic.contains c
    else c = '.' || c = '[' || c = ']' || Unicode.isAlphanumeric c)

/-- Reads the name of a group up to `>`. -/
def groupName? (cs : List Char) : Option (String × List Char) :=
  match cs.takeWhile (· ≠ '>'), cs.dropWhile (· ≠ '>') with
  | c :: name, '>' :: rest =>
    if isGroupName true c && name.all (isGroupName false) then
      some (String.ofList (c :: name), rest)
    else none
  | _, _ => none

/-- Reads a number of repetitions, with blanks around it; nothing inside if there are no
digits. -/
def count? (f : Flags) (cs : List Char) : Option (Option Nat × List Char) :=
  let isDigitOrSkipped (c : Char) : Bool := c.isDigit || (f.verbose && Text.isBlank c)
  let cs := cs.dropWhile Text.isBlank
  let ds := (cs.takeWhile isDigitOrSkipped).filter Char.isDigit
  let rest := (cs.dropWhile isDigitOrSkipped).dropWhile Text.isBlank
  if ds.isEmpty then some (none, f.skip rest)
  else do
    let n ← number? 10 (fun c => some (c.toNat - '0'.toNat)) ds
    some (some n, f.skip rest)

/-- Reads the counts of a repetition after its opening brace, up to the closing one. -/
def counts? (f : Flags) (cs : List Char) : Option ((Nat × Option Nat) × List Char) := do
  let (least, cs) ← count? f (f.skip cs)
  match cs with
  | '}' :: rest => do
    let least ← least
    some ((least, some least), rest)
  | ',' :: cs =>
    match f.skip cs with
    | '}' :: rest => do some ((← least, none), rest)
    | cs => do
      let least ← least
      let (most, cs) ← count? f cs
      let most ← most
      match cs with
      | '}' :: rest => if least ≤ most then some ((least, some most), rest) else none
      | _ => none
  | _ => none

/-- Reads the `?` after a repetition; answers whether the repetition is greedy. -/
def greed (f : Flags) : List Char → Bool × List Char
  | '?' :: cs => (f.swapped, cs)
  | cs => (!f.swapped, cs)

/-- A place in a pattern: the rest, the flags in force and the names of groups so far. -/
structure Scan where
  rest : List Char
  flags : Flags
  names : List String

/-- An expression with how deep it nests. -/
abbrev Part := Nested Expr

/-- The expression for parts in a row, the last one first; setting flags leaves a gap. -/
def sequence (items : List (Option Part)) : Part :=
  ⟨items.foldl (fun e i => match i, e with
    | none, e => e
    | some x, .empty => x.value
    | some x, e => .seq x.value e) .empty,
    rowDepth (items.map fun i => (i.map Nested.depth).getD 0)⟩

/-- The expression for alternatives, the last one first. -/
def alternatives : List Part → Part
  | [] => ⟨.empty, 0⟩
  | e :: es => ⟨es.foldl (fun e x => .alt x.value e) e.value, rowDepth ((e :: es).map Nested.depth)⟩

/-- What a group starts with. -/
inductive GroupHead where
  /-- flags for the rest of the group around -/
  | flags (f : Flags) (rest : List Char)
  /-- a group, with the flags inside and its name -/
  | group (f : Flags) (name : Option String) (rest : List Char)

/-- Reads the head of a group after its parenthesis. -/
def groupHead? (f : Flags) (cs : List Char) : Option GroupHead :=
  match cs with
  | '?' :: '=' :: _ => none
  | '?' :: '!' :: _ => none
  | '?' :: '<' :: '=' :: _ => none
  | '?' :: '<' :: '!' :: _ => none
  | '?' :: 'P' :: '<' :: cs => (groupName? cs).map fun (n, rest) => .group f (some n) rest
  | '?' :: '<' :: cs => (groupName? cs).map fun (n, rest) => .group f (some n) rest
  | '?' :: cs => do
    let (g, seen, cs) ← flags? f true [] cs
    match cs with
    | ')' :: rest => if seen.isEmpty then none else some (.flags g rest)
    | _ :: rest => some (.group g none rest)
    | [] => none
  | cs => some (.group f none cs)

/-- How deep an expression may nest. -/
def maxNesting : Nat := 250

/-- Reads an expression up to the end of its group or of the text, after the parts of the
current alternative and the alternatives read so far.  The number bounds the steps. -/
def expr? : Nat → List (Option Part) → List Part → Scan → Option (Part × Scan)
  | 0, _, _, _ => none
  | n + 1, items, done, scan =>
    let f := scan.flags
    let finish (rest : List Char) : Part × Scan :=
      (alternatives (sequence items :: done), { scan with rest })
    let next (e : Part) (rest : List Char) : Option (Part × Scan) :=
      expr? n (some e :: items) done { scan with rest }
    let again (least : Nat) (most : Option Nat) (rest : List Char) : Option (Part × Scan) :=
      match items with
      | some e :: items =>
        let (greedy, rest) := greed f rest
        expr? n (some ⟨.times e.value least most greedy, e.depth + 1⟩ :: items) done
          { scan with rest }
      | _ => none
    match f.skip scan.rest with
    | [] => some (finish [])
    | ')' :: cs => some (finish (')' :: cs))
    | '|' :: cs => expr? n [] (sequence items :: done) { scan with rest := cs }
    | '(' :: cs => do
      match ← groupHead? f (f.skip cs) with
      | .flags g rest => expr? n (none :: items) done { scan with rest, flags := g }
      | .group g name rest =>
        let names ← match name with
          | some name => if scan.names.contains name then none else some (name :: scan.names)
          | none => some scan.names
        let (e, inner) ← expr? n [] [] ⟨rest, g, names⟩
        match inner.rest with
        | ')' :: rest =>
          expr? n (some ⟨e.value, e.depth + 1⟩ :: items) done ⟨rest, f, inner.names⟩
        | _ => none
    | '[' :: cs => do
      let (s, rest) ← class? f cs
      next ⟨.chars s.value, s.depth⟩ rest
    | '?' :: cs => again 0 (some 1) cs
    | '*' :: cs => again 0 none cs
    | '+' :: cs => again 1 none cs
    | '{' :: cs => do
      let ((least, most), rest) ← counts? f cs
      again least most (f.skip rest)
    | '.' :: cs => do next ⟨.chars (← dot? f), 0⟩ cs
    | '^' :: cs => next ⟨.look (if f.multiline then .lineStart f.crlf else .textStart), 0⟩ cs
    | '$' :: cs => next ⟨.look (if f.multiline then .lineEnd f.crlf else .textEnd), 0⟩ cs
    | '\\' :: cs => do
      let (atom, rest) ← escape? f cs
      next ⟨← atom.expr? f, 0⟩ rest
    | c :: cs => do next ⟨← literalExpr? f c false, 0⟩ cs

/-- The expression a text spells. -/
def Expr.ofText? (text : String) : Option Expr := do
  let cs := text.toList
  let (e, scan) ← expr? (2 * cs.length + 2) [] [] ⟨cs, .default, []⟩
  if scan.rest.isEmpty && e.depth ≤ maxNesting then some e.value else none

end Regex
end LintWorkspace
