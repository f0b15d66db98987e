/-
# Blank characters, trimming and splitting

Text is handled as a list of characters wherever a rule looks inside it.  This
module holds the character class "blank", the two cuts every reader of tokens
makes (`trim`, `splitOn`), and the small facts that pin them down: trimming
leaves no blank at either end, and the pieces of a split hold the characters of
the text and no separator.
-/

namespace LintWorkspace
namespace Text

/-- The characters of the Unicode property `White_Space`. -/
def isBlank (c : Char) : Bool :=
  let n := c.toNat
  (9 ≤ n && n ≤ 13) || n == 0x20 || n == 0x85 || n == 0xA0 || n == 0x1680 ||
    (0x2000 ≤ n && n ≤ 0x200A) || n == 0x2028 || n == 0x2029 || n == 0x202F ||
    n == 0x205F || n == 0x3000

/-- The text without the blanks at its end. -/
def trimEnd (cs : List Char) : List Char := (cs.reverse.dropWhile isBlank).reverse

/-- The text without the blanks at its two ends. -/
def trim (cs : List Char) : List Char := trimEnd (cs.dropWhile isBlank)

/-- The pieces between the separators, one more than there are separators. -/
def splitOn (sep : Char) : List Char → List (List Char)
  | [] => [[]]
  | c :: cs =>
    if c = sep then [] :: splitOn sep cs
    else match splitOn sep cs with
      | [] => [[c]]
      | piece :: pieces => (c :: piece) :: pieces

/-- Lower case for the letters `A` to `Z`, every other character as it is. -/
def lowerAscii (cs : List Char) : List Char := cs.map Char.toLower

theorem splitOn_ne_nil (sep : Char) (cs : List Char) : splitOn sep cs ≠ [] := by
  cases cs with
  | nil => simp [splitOn]
  | cons c cs =>
    rw [splitOn]
    split
    · simp
    · split <;> simp

/-- No piece of a split holds the separator. -/
theorem not_mem_of_mem_splitOn {sep : Char} {cs piece : List Char}
    (h : piece ∈ splitOn sep cs) : sep ∉ piece := by
  induction cs generalizing piece with
  | nil => simp [splitOn] at h; simp [h]
  | cons c cs ih =>
    rw [splitOn] at h
    split at h
    · rcases List.mem_cons.1 h with rfl | h
      · simp
      · exact ih h
    · rename_i hc
      split at h
      · rename_i hnil
        exact absurd hnil (splitOn_ne_nil sep cs)
      · rename_i p ps hps
        rcases List.mem_cons.1 h with rfl | h
        · have : sep ∉ p := ih (by simp [hps])
          simp only [List.mem_cons, not_or]
          exact ⟨fun e => hc e.symm, this⟩
        · exact ih (by simp [hps, h])

/-- The pieces of a split hold the characters of the text. -/
theorem mem_of_mem_splitOn {c sep : Char} {cs piece : List Char} (h : piece ∈ splitOn sep cs)
    (hc : c ∈ piece) : c ∈ cs := by
  induction cs generalizing piece with
  | nil =>
    rw [splitOn, List.mem_singleton] at h
    exact h ▸ hc
  | cons x cs ih =>
    rw [splitOn] at h
    split at h
    · rcases List.mem_cons.1 h with rfl | h
      · simp at hc
      · exact List.mem_cons_of_mem x (ih h hc)
    · split at h
      · rename_i hnil
        exact absurd hnil (splitOn_ne_nil sep cs)
      · rename_i first pieces hsplit
        rw [hsplit] at ih
        rcases List.mem_cons.1 h with rfl | h
        · rcases List.mem_cons.1 hc with rfl | hc
          · exact List.mem_cons_self
          · exact List.mem_cons_of_mem x (ih List.mem_cons_self hc)
        · exact List.mem_cons_of_mem x (ih (List.mem_cons_of_mem first h) hc)

/-- A character other than the separator is not in joined texts if it is in none of them. -/
theorem not_mem_intercalate {c d : Char} (hne : c ≠ d) (texts : List (List Char)) :
    c ∉ [d].intercalate texts ↔ ∀ text ∈ texts, c ∉ text := by
  induction texts with
  | nil => simp
  | cons text texts ih =>
    cases texts with
    | nil => simp
    | cons =>
      rw [List.intercalate_cons_cons, List.forall_mem_cons, ← ih]
      simp [hne]

end Text
end LintWorkspace
