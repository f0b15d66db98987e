/-
# Searching a text

A search walks over the text once.  At every place it holds the instructions
that are reached there, in order of preference, each with the place where its
match starts.  An accepted match ends everything less preferred, and from then
on no match starts; so the match found is the leftmost one and, of those, the
preferred one.

`findAll` repeats the search behind each match.  A match without characters right
at the end of the last match does not count.

Places are counted in characters.
-/

import LintWorkspace.Regex.Program

namespace LintWorkspace
namespace Regex

/-- A stretch of a text, from its first character up to before `stop`. -/
structure Span where
  start : Nat
  stop : Nat
deriving DecidableEq, Repr

/-- An instruction that is reached, for a match that starts at a place. -/
structure Thread where
  place : Nat
  start : Nat

/-- The threads at one place of the text, the preferred ones last, and the instructions seen
there. -/
structure Front where
  threads : List Thread
  seen : Array Bool

/-- Follows splits and looks from the instructions on a stack to the ones that match or
accept.  The number bounds the steps. -/
def follow (code : Code) (before after : Option Char) (start : Nat) :
    Nat → List Nat → Front → Front
  | 0, _, front => front
  | _ + 1, [], front => front
  | n + 1, place :: stack, front =>
    if front.seen.getD place true then follow code before after start n stack front
    else
      let front := { front with seen := front.seen.setIfInBounds place true }
      match code[place]? with
      | some (.split a b) => follow code before after start n (a :: b :: stack) front
      | some (.look l next) =>
        follow code before after start n
          (if l.holds before after then next :: stack else stack) front
      | _ =>
        follow code before after start n stack
          { front with threads := ⟨place, start⟩ :: front.threads }

/-- The threads reached from others, in order, at the place between two characters. -/
def reach (code : Code) (before after : Option Char) (threads : List Thread) : List Thread :=
  let bound := 2 * code.size + 2
  let front : Front := ⟨[], Array.replicate code.size false⟩
  (threads.foldl (fun front t => follow code before after t.start bound [t.place] front)
    front).threads.reverse

/-- Cuts threads at the first that accepts: those before it, and where its match starts. -/
def cut (code : Code) : List Thread → List Thread × Option Nat
  | [] => ([], none)
  | t :: ts =>
    match code[t.place]? with
    | some .accept => ([], some t.start)
    | _ =>
      let (kept, hit) := cut code ts
      (t :: kept, hit)

/-- The threads that a character moves on. -/
def move (code : Code) (c : Char) (threads : List Thread) : List Thread :=
  threads.filterMap fun (t : Thread) =>
    match code[t.place]? with
    | some (Instr.chars s next) => if s.contains c then some ⟨next, t.start⟩ else none
    | _ => none

/-- The match that a search finds from a place on, given the threads moved there and the
best match so far. -/
def search (p : Program) (before : Option Char) (threads : List Thread) (best : Option Span) :
    Nat → List Char → Option Span
  | place, cs =>
    let threads := if best.isNone then threads ++ [⟨p.start, place⟩] else threads
    let (kept, hit) := cut p.code (reach p.code before cs.head? threads)
    let best := match hit with
      | some start => some ⟨start, place⟩
      | none => best
    match cs with
    | [] => best
    | c :: cs =>
      if kept.isEmpty && best.isSome then best
      else search p (some c) (move p.code c kept) best (place + 1) cs

/-- The leftmost match in a text that goes on from a place after a character. -/
def find (p : Program) (before : Option Char) (place : Nat) (cs : List Char) : Option Span :=
  search p before [] none place cs

/-- The character before a place, in a text that starts at another place. -/
def charBefore (before : Option Char) (place : Nat) (cs : List Char) (target : Nat) :
    Option Char :=
  if target ≤ place then before else cs[target - place - 1]?

/-- The matches in a text that goes on from a place, one behind the other; `last` is where
the last match ended.  The first number bounds their number. -/
def findAllFrom (p : Program) : Nat → Option Nat → Option Char → Nat → List Char → List Span
  | 0, _, _, _, _ => []
  | n + 1, last, before, place, cs =>
    match find p before place cs with
    | none => []
    | some m =>
      if m.start = m.stop && last = some m.stop then
        match cs with
        | [] => []
        | c :: cs => findAllFrom p n none (some c) (place + 1) cs
      else
        m :: findAllFrom p n (some m.stop) (charBefore before place cs m.stop) m.stop
          (cs.drop (m.stop - place))

/-- All matches in a text, one behind the other. -/
def findAll (p : Program) (cs : List Char) : List Span :=
  findAllFrom p (2 * cs.length + 2) none none 0 cs

end Regex
end LintWorkspace
