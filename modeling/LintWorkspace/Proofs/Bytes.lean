/-
# Texts by bytes

A text is kept as UTF-8, one to four bytes for a character.  A slice goes from one number of
bytes to another: it exists when both are in range and neither splits a character.

| byte | where it stands |
| --- | --- |
| below 128 | for the character of that number, nowhere else |
| from 128 on | inside the characters that take more than one byte |
-/

import Mathlib.Data.List.Basic

namespace LintWorkspace
namespace Text

variable {cs u v w : List Char} {a c : Char} {b : UInt8} {i j n : Nat}

/-- The bytes of a text. -/
def bytes (cs : List Char) : List UInt8 := cs.flatMap String.utf8EncodeChar

/-- How many bytes a text takes. -/
def byteLength (cs : List Char) : Nat := (bytes cs).length

/-- The byte of a character that takes one. -/
def byteOf (c : Char) : UInt8 := c.val.toUInt8

theorem bytes_append (u v : List Char) : bytes (u ++ v) = bytes u ++ bytes v :=
  List.flatMap_append

theorem bytes_cons (c : Char) (cs : List Char) :
    bytes (c :: cs) = String.utf8EncodeChar c ++ bytes cs :=
  List.flatMap_cons

@[simp] theorem byteLength_nil : byteLength [] = 0 := rfl

theorem byteLength_append (u v : List Char) :
    byteLength (u ++ v) = byteLength u + byteLength v := by
  rw [byteLength, bytes_append, List.length_append]
  rfl

theorem byteLength_cons (c : Char) (cs : List Char) :
    byteLength (c :: cs) = c.utf8Size + byteLength cs := by
  rw [byteLength, bytes_cons, List.length_append, String.length_utf8EncodeChar]
  rfl

/-! ### Bytes of one character -/

/-- A character below 128 takes its own byte. -/
theorem encode_ascii (h : a.toNat < 128) : String.utf8EncodeChar a = [byteOf a] :=
  String.utf8EncodeChar_eq_singleton (Char.utf8Size_eq_one_iff.2 (UInt32.le_iff_toNat_le.2
    (Nat.le_of_lt_succ h)))

/-- **A byte below 128 stands for its own character only.** -/
theorem mem_encode_iff (ha : a.toNat < 128) : byteOf a ∈ String.utf8EncodeChar c ↔ c = a := by
  constructor
  · intro h
    have hbyte : (byteOf a).toNat = a.toNat := by
      simp only [byteOf, UInt32.toNat_toUInt8]
      exact Nat.mod_eq_of_lt (by change a.toNat < 256; omega)
    have hnat : ∀ n, byteOf a = UInt8.ofNat n → a.toNat = n % 256 := fun n hn => by
      rw [← hbyte, hn, UInt8.toNat_ofNat']
    by_cases hc : c.val.toNat ≤ 127
    · rw [encode_ascii (Nat.lt_succ_of_le hc), List.mem_singleton] at h
      have := hnat c.toNat h
      have hlt : c.toNat ≤ 127 := hc
      exact Char.toNat_inj.1 (by omega)
    · -- every byte of a longer character is 128 at least
      exfalso
      simp only [String.utf8EncodeChar, if_neg hc] at h
      split at h
      · simp only [List.mem_cons, List.not_mem_nil, or_false] at h
        rcases h with h | h <;> have := hnat _ h <;> omega
      · split at h
        · simp only [List.mem_cons, List.not_mem_nil, or_false] at h
          rcases h with h | h | h <;> have := hnat _ h <;> omega
        · simp only [List.mem_cons, List.not_mem_nil, or_false] at h
          rcases h with h | h | h | h <;> have := hnat _ h <;> omega
  · rintro rfl
    rw [encode_ascii ha]
    exact List.mem_singleton_self _

/-- **Where the byte of a character below 128 stands, that character does,** and no byte inside
another character is taken for it. -/
theorem bytes_getElem?_iff (ha : a.toNat < 128) :
    (bytes cs)[j]? = some (byteOf a) ↔ ∃ u v, cs = u ++ a :: v ∧ byteLength u = j := by
  constructor
  · intro h
    induction cs generalizing j with
    | nil => simp [bytes] at h
    | cons c cs ih =>
      rw [bytes_cons] at h
      rcases Nat.lt_or_ge j (String.utf8EncodeChar c).length with hj | hj
      · rw [List.getElem?_append_left hj] at h
        obtain rfl : c = a := (mem_encode_iff ha).1 (List.mem_of_getElem? h)
        rw [encode_ascii ha, List.length_singleton] at hj
        exact ⟨[], cs, rfl, by rw [byteLength_nil]; omega⟩
      · rw [List.getElem?_append_right hj] at h
        obtain ⟨u, v, rfl, hu⟩ := ih h
        refine ⟨c :: u, v, rfl, ?_⟩
        rw [String.length_utf8EncodeChar] at hj hu
        rw [byteLength_cons]
        omega
  · rintro ⟨u, v, rfl, rfl⟩
    rw [bytes_append, bytes_cons, encode_ascii ha, byteLength, List.getElem?_append_right
      (Nat.le_refl _), Nat.sub_self]
    rfl

/-! ### Slices -/

/-- A text cut behind a number of bytes, unless it is shorter or a character would be split. -/
def cutAt? : Nat → List Char → Option (List Char × List Char)
  | 0, cs => some ([], cs)
  | _ + 1, [] => none
  | n + 1, c :: cs =>
    if c.utf8Size ≤ n + 1 then
      (cutAt? (n + 1 - c.utf8Size) cs).map fun cut => (c :: cut.1, cut.2)
    else none

/-- The part of a text between two numbers of bytes. -/
def slice? (cs : List Char) (i j : Nat) : Option (List Char) :=
  (cutAt? j cs).bind fun front => (cutAt? i front.1).map Prod.snd

/-- **A text is cut between its characters only.** -/
theorem cutAt?_eq_some_iff : cutAt? n cs = some (u, v) ↔ cs = u ++ v ∧ byteLength u = n := by
  constructor
  · intro h
    fun_induction cutAt? n cs generalizing u with
    | case1 cs =>
      obtain ⟨rfl, rfl⟩ := Prod.mk.inj (Option.some.inj h)
      exact ⟨rfl, rfl⟩
    | case2 => simp at h
    | case3 n c cs hsize ih =>
      obtain ⟨⟨front, behind⟩, hcut, heq⟩ := Option.map_eq_some_iff.1 h
      dsimp only at heq
      obtain ⟨rfl, rfl⟩ := Prod.mk.inj heq
      obtain ⟨rfl, hlength⟩ := ih hcut
      refine ⟨rfl, ?_⟩
      rw [byteLength_cons, hlength]
      omega
    | case4 => simp at h
  · rintro ⟨rfl, rfl⟩
    induction u with
    | nil => simp [cutAt?]
    | cons c u ih =>
      obtain ⟨n, hn⟩ := Nat.exists_eq_add_one.2 c.utf8Size_pos
      rw [byteLength_cons, hn, show n + 1 + byteLength u = n + byteLength u + 1 by omega,
        List.cons_append, cutAt?, if_pos (by omega),
        show n + byteLength u + 1 - c.utf8Size = byteLength u by omega, ih]
      rfl

/-- **A slice is a part of the text,** found behind the bytes of what stands before it. -/
theorem slice?_eq_some_iff : slice? cs i j = some v ↔
    ∃ u w, cs = u ++ v ++ w ∧ i = byteLength u ∧ j = byteLength (u ++ v) := by
  simp only [slice?, Option.bind_eq_some_iff, Option.map_eq_some_iff, Prod.exists]
  constructor
  · rintro ⟨front, w, hfront, u, _, hv, rfl⟩
    obtain ⟨rfl, rfl⟩ := cutAt?_eq_some_iff.1 hfront
    obtain ⟨rfl, rfl⟩ := cutAt?_eq_some_iff.1 hv
    exact ⟨u, w, rfl, rfl, rfl⟩
  · rintro ⟨u, w, rfl, rfl, rfl⟩
    exact ⟨u ++ v, w, cutAt?_eq_some_iff.2 ⟨rfl, rfl⟩, u, v, cutAt?_eq_some_iff.2 ⟨rfl, rfl⟩, rfl⟩

theorem slice?_append (u v w : List Char) :
    slice? (u ++ v ++ w) (byteLength u) (byteLength u + byteLength v) = some v :=
  slice?_eq_some_iff.2 ⟨u, w, rfl, rfl, (byteLength_append u v).symm⟩

/-- What stands before a place. -/
theorem slice?_front (u w : List Char) : slice? (u ++ w) 0 (byteLength u) = some u :=
  slice?_eq_some_iff.2 ⟨[], w, rfl, rfl, rfl⟩

/-- What stands behind a place. -/
theorem slice?_back (u w : List Char) :
    slice? (u ++ w) (byteLength u) (byteLength (u ++ w)) = some w :=
  slice?_eq_some_iff.2 ⟨u, [], (List.append_nil _).symm, rfl, rfl⟩

/-- The second byte of a character is no place to cut. -/
example : slice? "añb".toList 0 2 = none ∧ slice? "añb".toList 1 3 = some ['ñ'] := by
  decide +kernel

end Text
end LintWorkspace
