/-
# Numbers and boolean words

A value that is no string, array or table is one run of letters, digits and
`+ - _ . :`.  This module decides which runs are booleans and numbers.

| run | value |
| --- | --- |
| `true`, `false` | a boolean |
| `+17`, `-1_000`, `0` | an integer; no zero leads, an underscore stands between digits |
| `0xff`, `0o17`, `0b1` | an integer; no sign |
| `1.5`, `1e3`, `-2.5E-3` | a number with a fraction, an exponent or both |
| `inf`, `-nan` | the numbers that are not finite |

An integer is held by 64 or 128 bits, and any other number by the binary format; a
number beyond that is out of range.
-/

import LintWorkspace.Decimal.Binary64
import LintWorkspace.Toml.Literal

namespace LintWorkspace
namespace Toml

/-- A value that holds no other values. -/
inductive Scalar where
  | string (s : String)
  | integer (n : Int)
  | float (x : Binary64)
  | boolean (b : Bool)
  /-- a date, a time or both -/
  | moment
  /-- a number that is too great -/
  | outOfRange
deriving DecidableEq, Repr

/-- The digits of a run in which underscores may stand between two digits, by their
values. -/
def digits? (value : Char → Option Nat) : List Char → Option (List Nat)
  | [] => none
  | [c] => (value c).map fun d => [d]
  | c :: '_' :: cs => do
    let d ← value c
    let ds ← digits? value cs
    some (d :: ds)
  | c :: cs => do
    let d ← value c
    let ds ← digits? value cs
    some (d :: ds)

/-- The number written by digits in a base. -/
def ofDigits (base : Nat) (ds : List Nat) : Nat := ds.foldl (fun n d => base * n + d) 0

/-- The value of a digit below a base. -/
def digitBelow? (base : Nat) (c : Char) : Option Nat :=
  (hexDigit? c).filter (· < base)

/-- The decimal digits of a run. -/
def decimals? (cs : List Char) : Option (List Nat) := digits? (digitBelow? 10) cs

/-- The digits of a run that does not start with a zero, except for the zero itself. -/
def wholeDigits? (cs : List Char) : Option (List Nat) := do
  let ds ← decimals? cs
  match ds with
  | 0 :: _ :: _ => none
  | ds => some ds

/-- The sign of a run, true for a minus, and what it is the sign of. -/
def signed : List Char → Bool × List Char
  | '-' :: cs => (true, cs)
  | '+' :: cs => (false, cs)
  | cs => (false, cs)

/-- A run cut at the first character of a kind; the part after it, if there is one. -/
def cutAt (p : Char → Bool) (cs : List Char) : List Char × Option (List Char) :=
  match cs.dropWhile fun c => !p c with
  | [] => (cs, none)
  | _ :: after => (cs.takeWhile fun c => !p c, some after)

/-- The integer a run writes. -/
def integer? : List Char → Option Int
  | '0' :: 'x' :: cs => (digits? (digitBelow? 16) cs).map fun ds => ofDigits 16 ds
  | '0' :: 'o' :: cs => (digits? (digitBelow? 8) cs).map fun ds => ofDigits 8 ds
  | '0' :: 'b' :: cs => (digits? (digitBelow? 2) cs).map fun ds => ofDigits 2 ds
  | cs => do
    let (negative, cs) := signed cs
    let n := ofDigits 10 (← wholeDigits? cs)
    some (if negative then -n else n)

/-- The exponent a run writes. -/
def exponent? (cs : List Char) : Option Int := do
  let (negative, cs) := signed cs
  let n := ofDigits 10 (← decimals? cs)
  some (if negative then -n else n)

/-- Whether 64 bits with a sign hold an integer. -/
def isWord (n : Int) : Bool := -Int.pow 2 63 ≤ n && n < Int.pow 2 63

/-- Whether 64 bits, with or without a sign, hold an integer. -/
def isShort (n : Int) : Bool := -Int.pow 2 63 ≤ n && n < Int.pow 2 64

/-- Whether 128 bits, with or without a sign, hold an integer. -/
def isLong (n : Int) : Bool := -Int.pow 2 127 ≤ n && n < Int.pow 2 128

/-- The number with a fraction or an exponent that a run writes, or one that is not
finite. -/
def float? (cs : List Char) : Option Scalar := do
  let (negative, cs) := signed cs
  if cs = "inf".toList then some (.float (.infinite negative))
  else if cs = "nan".toList then some (.float .nan)
  else
    let (mantissa, power) := cutAt (fun c => c = 'e' || c = 'E') cs
    let (whole, fraction) := cutAt (· = '.') mantissa
    let wholeDs ← wholeDigits? whole
    let fractionDs ← match fraction with
      | some f => decimals? f
      | none => if power.isSome then some [] else none
    let e ← match power with
      | some p => exponent? p
      | none => some 0
    match Binary64.ofDecimal? negative (ofDigits 10 (wholeDs ++ fractionDs))
        (e - fractionDs.length) with
    | some x => some (.float x)
    | none => some .outOfRange

/-- The number a run writes. -/
def number? (cs : List Char) : Option Scalar :=
  match integer? cs with
  | some n => some (if isLong n then .integer n else .outOfRange)
  | none => float? cs

/-- The boolean a run writes. -/
def boolean? (cs : List Char) : Option Bool :=
  if cs = "true".toList then some true
  else if cs = "false".toList then some false
  else none

example : integer? "-1_000".toList = some (-1000) := by decide
example : integer? "01".toList = none := by decide
example : integer? "-0x1".toList = none := by decide
example : float? "1.".toList = none := by decide
example : number? "1e999".toList = some .outOfRange := by decide +kernel

end Toml
end LintWorkspace
