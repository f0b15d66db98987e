/-
# Binary floating point numbers and their decimal texts

The numbers of the 64-bit binary format, read from a decimal and shown as one,
in exact arithmetic on natural numbers.  A finite number is `s · 2 ^ q` with
`s < 2 ^ 53` and `-1074 ≤ q ≤ 971`.

* Reading takes the nearest number, a half going to the even significand; a
  decimal beyond the largest number has none.
* Showing takes the fewest digits that read back, the nearest such decimal, and
  writes it without an exponent and with at least one decimal.
-/

namespace LintWorkspace

/-- A number of the 64-bit binary format. -/
inductive Binary64 where
  /-- `significand · 2 ^ exponent`, with its sign -/
  | finite (negative : Bool) (significand : Nat) (exponent : Int)
  | infinite (negative : Bool)
  | nan
deriving DecidableEq, Repr

namespace Binary64

/-- The quotient rounded to the nearest integer, a half to the even one. -/
def roundDiv (num den : Nat) : Nat :=
  let q := num / den
  let r := num % den
  if 2 * r < den then q else if 2 * r = den then q + q % 2 else q + 1

/-- The greatest `e` with `2 ^ e ≤ num / den`, for positive `num` and `den`. -/
def binaryExponent (num den : Nat) : Int :=
  let e : Int := (num.log2 : Int) - den.log2
  if num * Nat.pow 2 (-e).toNat < den * Nat.pow 2 e.toNat then e - 1 else e

/-- The number nearest to `num / den`, if none of the finite ones is too small for it. -/
def ofQuotient? (negative : Bool) (num den : Nat) : Option Binary64 :=
  if num = 0 then some (finite negative 0 (-1074))
  else
    let q := max (binaryExponent num den - 52) (-1074)
    let s := roundDiv (num * Nat.pow 2 (-q).toNat) (den * Nat.pow 2 q.toNat)
    let (s, q) := if s = Nat.pow 2 53 then (Nat.pow 2 52, q + 1) else (s, q)
    if 971 < q then none else some (finite negative s q)

/-- The number nearest to `digits · 10 ^ exponent`.  A decimal far outside the range of
the format is decided by its size alone. -/
def ofDecimal? (negative : Bool) (digits : Nat) (exponent : Int) : Option Binary64 :=
  let size := (Nat.toDigits 10 digits).length + exponent
  if digits = 0 ∨ size < -400 then some (finite negative 0 (-1074))
  else if 400 < size then none
  else ofQuotient? negative (digits * Nat.pow 10 exponent.toNat) (Nat.pow 10 (-exponent).toNat)

/-- The decimals `d · 10 ^ k` on one grid next to a number, `d` from below and from
above, that read back as it; the number is `value / den` grid steps, and `low / den` and
`high / den` bound what reads back, themselves included when `closed` holds. -/
def gridHit? (value low high den : Nat) (closed : Bool) : Option Nat :=
  let inside (d : Nat) : Bool :=
    if closed then low ≤ d * den && d * den ≤ high else low < d * den && d * den < high
  let below := value / den
  let above := below + 1
  match below ≠ 0 && inside below, inside above with
  | true, true => if 2 * (value % den) ≤ den then some below else some above
  | true, false => some below
  | false, true => some above
  | false, false => none

/-- The shortest decimal `d · 10 ^ k` that reads back, looking at `steps` grids from the
coarsest, `10 ^ k`, on. -/
def shortestFrom (s : Nat) (q : Int) (k : Int) : Nat → Nat × Int
  | 0 => (s, q)
  | steps + 1 =>
    let scale (n : Nat) : Nat := n * Nat.pow 2 (q - 2).toNat * Nat.pow 10 (-k).toNat
    let den := Nat.pow 2 (2 - q).toNat * Nat.pow 10 k.toNat
    let step := if s = Nat.pow 2 52 ∧ -1074 < q then 1 else 2
    match gridHit? (scale (4 * s)) (scale (4 * s - step)) (scale (4 * s + 2)) den (s % 2 = 0) with
    | some d => (d, k)
    | none => shortestFrom s q (k - 1) steps

/-- The shortest decimal that reads back as `s · 2 ^ q`. -/
def shortest (s : Nat) (q : Int) : Nat × Int :=
  if s = 0 then (0, 0)
  else
    let integral := s * Nat.pow 2 q.toNat / Nat.pow 2 (-q).toNat
    let top : Int :=
      if integral = 0 then 1 - ((Nat.pow 2 (-q).toNat / s).log2 * 30103 / 100000 : Nat)
      else (Nat.toDigits 10 integral).length
    shortestFrom s q top 24

/-- `digits · 10 ^ exponent` without an exponent and with at least one decimal. -/
def positional (digits : Nat) (exponent : Int) : String :=
  let ds := Nat.toDigits 10 digits
  if 0 ≤ exponent then String.ofList (ds ++ List.replicate exponent.toNat '0') ++ ".0"
  else
    let places := (-exponent).toNat
    let padded := List.replicate (places + 1 - ds.length) '0' ++ ds
    let whole := padded.length - places
    String.ofList (padded.take whole) ++ "." ++ String.ofList (padded.drop whole)

/-- The text of a number. -/
def text : Binary64 → String
  | finite negative s q =>
    let (digits, exponent) := shortest s q
    (if negative then "-" else "") ++ positional digits exponent
  | infinite negative => if negative then "-inf" else "inf"
  | nan => "NaN"

example : (ofDecimal? false 1 (-1)).map text = some "0.1" := by decide +kernel
example : (ofDecimal? true 15 (-1)).map text = some "-1.5" := by decide +kernel
example : (ofDecimal? false 1 23).map text = some "100000000000000000000000.0" := by decide +kernel
example : ofDecimal? false 18 308 = none := by decide +kernel

end Binary64
end LintWorkspace
