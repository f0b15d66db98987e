/-
# Reported names as parts of words

A reported name goes on to the end of its word.  It starts at the first character of the word
that is an ASCII letter or an underscore, and this need not be the first character of the word:

| parameter | reported | whole word |
| --- | --- | --- |
| `name` | `name` | yes |
| `naïve` | `naïve` | yes |
| `ñame` | `ame` | no |

The name is found in its piece; that nothing of its word lies outside the piece follows from
what surrounds a piece, which is a comma or a parenthesis.
-/

import LintWorkspace.Proofs.Reports

namespace LintWorkspace
namespace Diagnostic

open Unicode (isWord)

variable {cs u v : List Char} {h : Hit}

/-- A hit is a whole word of a text: no character of a word stands before it or behind it. -/
def Whole (cs : List Char) (h : Hit) : Prop :=
  (cs.take h.offset).getLast?.any isWord = false ∧
    (cs.drop (h.offset + h.text.length)).head?.any isWord = false

instance (cs : List Char) (h : Hit) : Decidable (Whole cs h) :=
  inferInstanceAs (Decidable (_ ∧ _))

/-- A name is a whole word exactly if nothing of its word stands before it. -/
theorem IsName.whole_iff {front pre name back : List Char} (hname : IsName front pre name back) :
    Whole (front ++ pre ++ name ++ back) ⟨(front ++ pre).length, name⟩ ↔ pre = [] := by
  have hfront : (front ++ pre ++ name ++ back).take (front ++ pre).length = front ++ pre := by
    rw [List.append_assoc, List.take_left]
  have hback : (front ++ pre ++ name ++ back).drop ((front ++ pre).length + name.length) =
      back := by
    rw [← List.length_append, List.drop_left]
  rw [Whole, hfront, hback, and_iff_left hname.back]
  constructor
  · intro hlast
    rcases List.eq_nil_or_concat' pre with hpre | ⟨init, c, rfl⟩
    · exact hpre
    · have hc := (hname.pre c (by simp)).1
      rw [← List.append_assoc, List.getLast?_concat] at hlast
      exact absurd hlast (by simp [hc])
  · rintro rfl
    rw [List.append_nil]
    exact hname.front

/-- A name stays what it is in a text around its own that does not go on with its word. -/
theorem NameAt.surround (hh : NameAt cs h) (hu : u.getLast?.any isWord = false)
    (hv : v.head?.any isWord = false) : NameAt (u ++ cs ++ v) ⟨u.length + h.offset, h.text⟩ := by
  obtain ⟨front, pre, back, rfl, hoffset, hname⟩ := hh
  refine ⟨u ++ front, pre, back ++ v, by simp, ?_, ?_, hname.pre, hname.name, ?_⟩
  · simp only [hoffset, List.length_append, Nat.add_assoc]
  · rcases List.eq_nil_or_concat' front with rfl | ⟨init, c, rfl⟩
    · rwa [List.append_nil]
    · have := hname.front
      rw [List.getLast?_concat] at this
      rw [← List.append_assoc, List.getLast?_concat]
      exact this
  · cases back with
    | nil => exact hv
    | cons c back => exact hname.back

/-- **An unused parameter of a head is a name in the text.** -/
theorem Site.nameAt_of_mem_unused {s : Site} {o : Occurrence} (ho : o ∈ s.unused) :
    NameAt s.text o.hit := by
  have hcomma : isWord ',' = false := by decide +kernel
  have hopen : isWord '(' = false := by decide +kernel
  have hclose : isWord ')' = false := by decide +kernel
  obtain ⟨p, h, hp, hh, rfl⟩ := Site.exists_of_mem_unused ho
  obtain ⟨u, v, hjoin, hbefore, hu, hv⟩ := exists_of_mem_located hp
  rw [(isSplit_splitParams 0 s.params).join] at hjoin
  have hname := nameAt_of_declaredName? hh
  have hsurround := @NameAt.surround p.2 (s.opened ++ u) (v ++ ')' :: s.result ++ ['{'] ++ s.rest) h
    hname ?_ ?_
  · have htext : s.text = s.opened ++ u ++ p.2 ++ (v ++ ')' :: s.result ++ ['{'] ++ s.rest) := by
      simp [Site.text, Site.entered, hjoin]
    rw [htext, Occurrence.hit, List.length_append, hname.length_take, hbefore]
    exact hsurround
  · rcases hu with rfl | hu
    · rw [List.append_nil, Site.opened, List.getLast?_concat]
      simpa using hopen
    · rw [List.getLast?_append, hu]
      simpa using hcomma
  · rcases hv with rfl | hv
    · simpa using hclose
    · obtain ⟨v, rfl⟩ := List.head?_eq_some_iff.1 hv
      simpa using hcomma

/-- **Every reported name ends where its word ends,** and starts where a name can first start in
it: what stands before it in the word are characters that no name starts with.  It is the whole
word exactly if there are none. -/
theorem reported_ends_word (hh : h ∈ unusedHits cs) : ∃ front pre back,
    cs = front ++ pre ++ h.text ++ back ∧ h.offset = (front ++ pre).length ∧
    IsName front pre h.text back ∧ (Whole cs h ↔ pre = []) := by
  obtain ⟨sites, hscan, hheads⟩ := exists_scan_heads cs
  rw [unusedHits, hheads, List.flatMap_map] at hh
  obtain ⟨s, hs, hh⟩ := List.mem_flatMap.1 hh
  rw [s.unused_head] at hh
  obtain ⟨o, ho, rfl⟩ := List.mem_map.1 hh
  obtain ⟨-, rfl⟩ := hscan.of_mem s hs
  obtain ⟨front, pre, back, htext, hoffset, hname⟩ := Site.nameAt_of_mem_unused ho
  refine ⟨front, pre, back, htext, hoffset, hname, ?_⟩
  have hhit : o.hit = ⟨(front ++ pre).length, o.hit.text⟩ := by rw [← hoffset]
  rw [htext, hhit]
  exact hname.whole_iff

/-- A function whose parameter starts with a letter outside ASCII, and uses it. -/
def accented : List Char := "f(ñame) { ñame }".toList

theorem reported_ends_word_accented : (⟨3, "ame".toList⟩ : Hit) ∈ unusedHits accented ∧
    ∃ front pre back, accented = front ++ pre ++ "ame".toList ++ back ∧
      3 = (front ++ pre).length ∧ IsName front pre "ame".toList back ∧
      (Whole accented ⟨3, "ame".toList⟩ ↔ pre = []) :=
  have hh : (⟨3, "ame".toList⟩ : Hit) ∈ unusedHits accented := by decide +kernel
  ⟨hh, reported_ends_word hh⟩

/-- **A reported name need not be a whole word,** although the body uses the whole one. -/
theorem not_reportsWhole : ¬ ∀ cs, ∀ h ∈ unusedHits cs, Whole cs h := by
  intro hwhole
  have hh : (⟨3, "ame".toList⟩ : Hit) ∈ unusedHits accented := by decide +kernel
  have hnot : ¬ Whole accented ⟨3, "ame".toList⟩ := by decide +kernel
  exact hnot (hwhole accented _ hh)

end Diagnostic
end LintWorkspace
