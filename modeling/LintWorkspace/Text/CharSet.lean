/-
# Sets of characters

A set of characters is the increasing list of the codes at which membership
changes: `[0x41, 0x5B]` holds the codes from `0x41` up to `0x5A`.  So the
complement is one more change at zero, and every Boolean combination of two sets
is one walk over both lists.
-/

namespace LintWorkspace

/-- A set of characters, as the codes at which membership changes. -/
structure CharSet where
  bounds : List Nat
deriving DecidableEq, Repr, Inhabited

namespace CharSet

/-- The set without characters. -/
def empty : CharSet := ⟨[]⟩

/-- The set of all characters. -/
def all : CharSet := ⟨[0]⟩

/-- The codes from `lo` to `hi`. -/
def range (lo hi : Nat) : CharSet := if lo ≤ hi then ⟨[lo, hi + 1]⟩ else empty

/-- One character. -/
def single (c : Char) : CharSet := range c.toNat c.toNat

/-- Whether a code that is not below the bounds passed so far is in the set; `inside` says
what holds up to the next bound. -/
def holdsFrom (n : Nat) : Bool → List Nat → Bool
  | inside, [] => inside
  | inside, b :: bs => if n < b then inside else holdsFrom n (!inside) bs

/-- Whether a code is in the set. -/
def holds (s : CharSet) (n : Nat) : Bool := holdsFrom n false s.bounds

/-- Whether a character is in the set. -/
def contains (s : CharSet) (c : Char) : Bool := s.holds c.toNat

/-- The bounds at which `op` of the memberships changes, walking over both lists; `a`, `b`
and `now` are the memberships up to the next bound.  The number bounds the steps. -/
def combineFrom (op : Bool → Bool → Bool) :
    Nat → Bool → Bool → Bool → List Nat → List Nat → List Nat
  | 0, _, _, _, _, _ => []
  | _ + 1, _, _, _, [], [] => []
  | n + 1, a, b, now, x :: xs, [] =>
    let next := op (!a) b
    if next = now then combineFrom op n (!a) b now xs []
    else x :: combineFrom op n (!a) b next xs []
  | n + 1, a, b, now, [], y :: ys =>
    let next := op a (!b)
    if next = now then combineFrom op n a (!b) now [] ys
    else y :: combineFrom op n a (!b) next [] ys
  | n + 1, a, b, now, x :: xs, y :: ys =>
    if x < y then
      let next := op (!a) b
      if next = now then combineFrom op n (!a) b now xs (y :: ys)
      else x :: combineFrom op n (!a) b next xs (y :: ys)
    else if y < x then
      let next := op a (!b)
      if next = now then combineFrom op n a (!b) now (x :: xs) ys
      else y :: combineFrom op n a (!b) next (x :: xs) ys
    else
      let next := op (!a) (!b)
      if next = now then combineFrom op n (!a) (!b) now xs ys
      else x :: combineFrom op n (!a) (!b) next xs ys

/-- The characters for which `op` of the two memberships holds; `op false false` must be
false. -/
def combine (op : Bool → Bool → Bool) (s t : CharSet) : CharSet :=
  ⟨combineFrom op (s.bounds.length + t.bounds.length) false false false s.bounds t.bounds⟩

/-- The characters of either set. -/
def union (s t : CharSet) : CharSet := combine (· || ·) s t

/-- The characters of both sets. -/
def inter (s t : CharSet) : CharSet := combine (· && ·) s t

/-- The characters of the first set that are not of the second. -/
def diff (s t : CharSet) : CharSet := combine (fun a b => a && !b) s t

/-- The characters of exactly one of the sets. -/
def symmDiff (s t : CharSet) : CharSet := combine xor s t

/-- The characters outside a set. -/
def compl (s : CharSet) : CharSet :=
  match s.bounds with
  | 0 :: bs => ⟨bs⟩
  | bs => ⟨0 :: bs⟩

/-- The union of a list of sets. -/
def unions (sets : List CharSet) : CharSet := sets.foldl union empty

/-- The set with the codes of another list of closed ranges, in increasing order. -/
def ofRanges (ranges : List (Nat × Nat)) : CharSet :=
  ranges.foldl (fun s r => s.union (range r.1 r.2)) empty

/-- Whether no character is in the set. -/
def isEmpty (s : CharSet) : Bool := s.bounds.isEmpty

theorem holdsFrom_not (n : Nat) (inside : Bool) (bs : List Nat) :
    holdsFrom n (!inside) bs = !holdsFrom n inside bs := by
  induction bs generalizing inside with
  | nil => rfl
  | cons b bs ih =>
    rw [holdsFrom, holdsFrom]
    split
    · rfl
    · exact ih _

/-- A code is in the complement exactly when it is not in the set. -/
theorem holds_compl (s : CharSet) (n : Nat) : s.compl.holds n = !s.holds n := by
  unfold compl holds
  split
  · rename_i bs h
    rw [h, holdsFrom, if_neg (Nat.not_lt_zero n)]
    simpa using holdsFrom_not n true bs
  · rw [holdsFrom, if_neg (Nat.not_lt_zero n)]
    exact holdsFrom_not n false s.bounds

end CharSet
end LintWorkspace
