/-
# Regular expressions

An expression says which stretches of a text match, and of several matches from
one place which is preferred: of two alternatives the first, of repetitions as
many as possible if they are greedy and as few as possible if not.

A look matches no character; it asks something of the characters around a place.
-/

import LintWorkspace.Text.CharSet
import LintWorkspace.Unicode.Word

namespace LintWorkspace
namespace Regex

/-- A question about the characters before and after a place.  The word questions carry
whether they are about words of ASCII only. -/
inductive Look where
  | textStart
  | textEnd
  /-- after a line feed; with `crlf` after any line break -/
  | lineStart (crlf : Bool)
  /-- before a line feed; with `crlf` before any line break -/
  | lineEnd (crlf : Bool)
  | wordBoundary (ascii : Bool)
  | noWordBoundary (ascii : Bool)
  | wordStart (ascii : Bool)
  | wordEnd (ascii : Bool)
  | noWordBefore (ascii : Bool)
  | noWordAfter (ascii : Bool)
deriving DecidableEq, Repr

/-- Whether a neighbour of a place is a character of words. -/
def isWordAt (ascii : Bool) : Option Char → Bool
  | none => false
  | some c => if ascii then c.isAlphanum || c = '_' else Unicode.isWord c

/-- The answer to a question at the place between two characters. -/
def Look.holds (before after : Option Char) : Look → Bool
  | textStart => before.isNone
  | textEnd => after.isNone
  | lineStart false => before.isNone || before = some '\n'
  | lineEnd false => after.isNone || after = some '\n'
  | lineStart true =>
    before.isNone || before = some '\n' || (before = some '\r' && after ≠ some '\n')
  | lineEnd true =>
    after.isNone || after = some '\r' || (after = some '\n' && before ≠ some '\r')
  | wordBoundary ascii => isWordAt ascii before != isWordAt ascii after
  | noWordBoundary ascii => isWordAt ascii before == isWordAt ascii after
  | wordStart ascii => !isWordAt ascii before && isWordAt ascii after
  | wordEnd ascii => isWordAt ascii before && !isWordAt ascii after
  | noWordBefore ascii => !isWordAt ascii before
  | noWordAfter ascii => !isWordAt ascii after

/-- A regular expression. -/
inductive Expr where
  | empty
  | chars (s : CharSet)
  | look (l : Look)
  | seq (a b : Expr)
  | alt (a b : Expr)
  /-- at least `least` times and at most `most` times, if that is given -/
  | times (a : Expr) (least : Nat) (most : Option Nat) (greedy : Bool)

namespace Expr

/-- Whether the expression can match a stretch without characters. -/
def canBeEmpty : Expr → Bool
  | empty => true
  | chars _ => false
  | look _ => true
  | seq a b => a.canBeEmpty && b.canBeEmpty
  | alt a b => a.canBeEmpty || b.canBeEmpty
  | times a least _ _ => least = 0 || a.canBeEmpty

/-- The room that a compiled set takes, in bytes: a state for each byte of a single
character, two states for characters of ASCII, and more with every range beyond. -/
def setRoom (s : CharSet) : Nat :=
  match s.bounds with
  | [a, b] => if b = a + 1 then 32 * (Char.ofNat a).utf8Size else if b ≤ 0x80 then 72 else 432
  | bounds =>
    if bounds.length % 2 = 0 && bounds.all (· ≤ 0x80) then 64 + 4 * bounds.length
    else 400 + 13 * bounds.length

/-- The room that the compiled expression takes, in bytes. -/
def room : Expr → Nat
  | empty => 32
  | chars s => setRoom s
  | look _ => 32
  | seq a b => a.room + b.room
  | alt a b => 64 + a.room + b.room
  | times a least (some most) _ => a.room * least + (a.room + 40) * (most - least) + 32
  | times a least none _ => a.room * max 1 least + 40

end Expr
end Regex
end LintWorkspace
