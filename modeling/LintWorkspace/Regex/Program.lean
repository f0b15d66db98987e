/-
# Programs that match

An expression is compiled to a list of instructions that point at each other.  A
split has a first and a second way on, in order of preference.  Instructions are
emitted from the end of the expression to its start, so each knows where to go
on; a loop is closed by filling in its split afterwards.
-/

import LintWorkspace.Regex.Pattern

namespace LintWorkspace
namespace Regex

/-- One instruction; numbers are the places of other instructions. -/
inductive Instr where
  | chars (s : CharSet) (next : Nat)
  | look (l : Look) (next : Nat)
  | split (first second : Nat)
  | accept
deriving Inhabited

/-- The instructions emitted so far. -/
abbrev Code := Array Instr

/-- The place of a new instruction, and the instructions with it. -/
def emit (i : Instr) (code : Code) : Nat × Code := (code.size, code.push i)

/-- A split that prefers to go in when greedy and to go on when not. -/
def choice (greedy : Bool) (inside outside : Nat) : Instr :=
  if greedy then .split inside outside else .split outside inside

/-- Emits the same part so many times in a row, each leading to the next. -/
def emitCopies (part : Nat → Code → Nat × Code) : Nat → Nat → Code → Nat × Code
  | 0, next, code => (next, code)
  | n + 1, next, code =>
    let (place, code) := part next code
    emitCopies part n place code

/-- Emits a part that may come up to so many times, one inside the other, before `inside`;
every one of them may be left for `next`. -/
def emitOptional (part : Nat → Code → Nat × Code) (greedy : Bool) (next : Nat) :
    Nat → Nat → Code → Nat × Code
  | 0, inside, code => (inside, code)
  | n + 1, inside, code =>
    let (place, code) := part inside code
    let (place, code) := emit (choice greedy place next) code
    emitOptional part greedy next n place code

/-- Emits a part that comes at least once and then any number of times before `next`. -/
def emitLoop (part : Nat → Code → Nat × Code) (greedy : Bool) (next : Nat) (code : Code) :
    Nat × Code :=
  let (loop, code) := emit .accept code
  let (place, code) := part loop code
  (place, code.set! loop (choice greedy place next))

/-- Emits a part that comes any number of times before `next`.  A part that may match
nothing is entered through a split of its own, so that it is tried once. -/
def emitStar (part : Nat → Code → Nat × Code) (canBeEmpty greedy : Bool) (next : Nat)
    (code : Code) : Nat × Code :=
  if canBeEmpty then
    let (place, code) := emitLoop part greedy next code
    emit (choice greedy place next) code
  else
    let (loop, code) := emit .accept code
    let (place, code) := part loop code
    (loop, code.set! loop (choice greedy place next))

/-- Emits an expression that leads to `next`; the answer is where it starts. -/
def Expr.emit : Expr → Nat → Code → Nat × Code
  | empty, next, code => (next, code)
  | chars s, next, code => Regex.emit (.chars s next) code
  | look l, next, code => Regex.emit (.look l next) code
  | seq a b, next, code =>
    let (place, code) := b.emit next code
    a.emit place code
  | alt a b, next, code =>
    let (second, code) := b.emit next code
    let (first, code) := a.emit next code
    Regex.emit (.split first second) code
  | times a least most greedy, next, code =>
    match most with
    | some most =>
      let (place, code) := emitOptional a.emit greedy next (most - least) next code
      emitCopies a.emit least place code
    | none =>
      if least = 0 then emitStar a.emit a.canBeEmpty greedy next code
      else
        let (place, code) := emitLoop a.emit greedy next code
        emitCopies a.emit (least - 1) place code

/-- A compiled expression. -/
structure Program where
  code : Code
  start : Nat

/-- Why a text is no usable expression. -/
inductive PatternFault where
  | malformed
  /-- the compiled expression would take too much room -/
  | tooLarge
deriving DecidableEq, Repr

/-- The room a compiled expression may take, in bytes. -/
def maxRoom : Nat := 10485760

/-- The wording of a fault. -/
def PatternFault.message : PatternFault → String
  | malformed => "regex parse error"
  | tooLarge => s!"Compiled regex exceeds size limit of {maxRoom} bytes."

/-- The program of an expression. -/
def Expr.program (e : Expr) : Program :=
  let (start, code) := e.emit 0 #[.accept]
  ⟨code, start⟩

/-- Compiles the expression a text spells. -/
def compile (text : String) : Except PatternFault Program :=
  match Expr.ofText? text with
  | none => .error .malformed
  | some e => if maxRoom < e.room then .error .tooLarge else .ok e.program

end Regex
end LintWorkspace
