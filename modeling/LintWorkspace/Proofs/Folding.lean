/-
# Paths that are one by spelling

A path is folded to the path of the place where it leads, from the root and without a detour.
Whatever folding does is put together from three steps on what is written behind the root:

| written | folded | step |
| --- | --- | --- |
| `a//b`, `a/./b`, `a/b/` | `a/b` | a segment that asks for nothing |
| `a/x/../b` | `a/b` | a name and the step up behind it |
| `/../b` | `/b` | a step up at the root |

So the folded path is the one normal form of a path (`eqvGen_way`), and two paths are folded to
one path exactly if these steps, forth and back, lead from one to the other
(`normalize_eq_iff_eqvGen`).  No disk is asked.
-/

import LintWorkspace.Proofs.Recognition
import LintWorkspace.Proofs.Tree
import Mathlib.Data.List.Induction
import Mathlib.Logic.Relation

namespace LintWorkspace
namespace Path

open Disk (enterSegment)
open Relation (EqvGen)

variable {cwd l : Location} {p q : Path} {xs ys zs : List String}

/-- The path that a path is folded to when it is read in a directory. -/
def folded (cwd : Location) (p : Path) : Path := (p.normalize cwd).toPath

/-- What is written behind the root when a path is read in a directory. -/
def way (cwd : Location) (p : Path) : List String := (cwd.toPath.join p).segments.tail

/-- One step of folding what is written behind the root. -/
inductive Folds : List String → List String → Prop
  /-- a segment that asks for nothing -/
  | idle (xs : List String) (s : String) (ys : List String) (hs : isIdle s = true) :
      Folds (xs ++ s :: ys) (xs ++ ys)
  /-- a name and the step up behind it -/
  | back (xs : List String) (n : Name) (ys : List String) :
      Folds (xs ++ n.text :: ".." :: ys) (xs ++ ys)
  /-- a step up at the root -/
  | top (ys : List String) : Folds (".." :: ys) ys

theorem enterSegment_up (l : Location) : enterSegment l ".." = l.parent := rfl

/-! ### Folding keeps where a way leads -/

theorem Folds.foldl_eq (h : Folds xs ys) :
    xs.foldl enterSegment .root = ys.foldl enterSegment .root := by
  cases h with
  | idle front s back hs =>
    rw [List.foldl_append, List.foldl_cons, enterSegment_idle hs, ← List.foldl_append]
  | back front n back =>
    rw [List.foldl_append, List.foldl_cons, List.foldl_cons, Disk.enterSegment_name,
      enterSegment_up, Location.parent_child, ← List.foldl_append]
  | top ys => rfl

theorem foldl_eq_of_eqvGen (h : EqvGen Folds xs ys) :
    xs.foldl enterSegment .root = ys.foldl enterSegment .root := by
  induction h with
  | rel _ _ h => exact h.foldl_eq
  | refl _ => rfl
  | symm _ _ _ ih => exact ih.symm
  | trans _ _ _ _ _ ih ih' => exact ih.trans ih'

/-! ### Every way folds to names -/

theorem Folds.append (h : Folds xs ys) (zs : List String) : Folds (xs ++ zs) (ys ++ zs) := by
  cases h with
  | idle front s back hs => simpa using Folds.idle front s (back ++ zs) hs
  | back front n back => simpa using Folds.back front n (back ++ zs)
  | top ys => exact .top (ys ++ zs)

theorem eqvGen_append (h : EqvGen Folds xs ys) (zs : List String) :
    EqvGen Folds (xs ++ zs) (ys ++ zs) := by
  induction h with
  | rel _ _ h => exact .rel _ _ (h.append zs)
  | refl _ => exact .refl _
  | symm _ _ _ ih => exact ih.symm
  | trans _ _ _ _ _ ih ih' => exact ih.trans _ _ _ ih'

/-- A segment without a slash asks for nothing, goes up, or is a name. -/
theorem segment_cases {s : String} (hs : '/' ∉ s.toList) :
    isIdle s = true ∨ s = ".." ∨ IsName s := by
  by_cases hidle : isIdle s = true
  · exact .inl hidle
  · by_cases hup : s = ".."
    · exact .inr (.inl hup)
    · simp only [isIdle, Bool.or_eq_true, decide_eq_true_eq, not_or] at hidle
      exact .inr (.inr ⟨hidle.1, hidle.2, hup, hs⟩)

/-- One more segment behind the names of a place folds to the names of the place it leads to. -/
theorem eqvGen_concat (l : Location) {s : String} (hs : '/' ∉ s.toList) :
    EqvGen Folds (l.names.map Name.text ++ [s]) ((enterSegment l s).names.map Name.text) := by
  rcases segment_cases hs with hidle | rfl | hname
  · rw [enterSegment_idle hidle]
    simpa using EqvGen.rel _ _ (Folds.idle (l.names.map Name.text) s [] hidle)
  · rw [enterSegment_up, Location.parent]
    obtain ⟨names⟩ := l
    rcases List.eq_nil_or_concat' names with rfl | ⟨above, n, rfl⟩
    · exact .rel _ _ (.top [])
    · simpa using EqvGen.rel _ _ (Folds.back (above.map Name.text) n [])
  · rw [Disk.enterSegment_name l ⟨s, hname⟩, Location.child, List.map_append]
    exact .refl _

/-- **Every way folds to the names of the place it leads to.** -/
theorem eqvGen_way (hxs : ∀ s ∈ xs, '/' ∉ s.toList) :
    EqvGen Folds xs ((xs.foldl enterSegment .root).names.map Name.text) := by
  induction xs using List.reverseRecOn with
  | nil => exact .refl _
  | append_singleton xs s ih =>
    rw [List.foldl_append, List.foldl_cons, List.foldl_nil]
    have hfront := eqvGen_append (ih fun t ht => hxs t (List.mem_append_left _ ht)) [s]
    exact hfront.trans _ _ _ (eqvGen_concat _ (hxs s (List.mem_append_right _ List.mem_cons_self)))

/-! ### Written paths -/

theorem segments_ofText_ne_nil (text : String) : (ofText text).segments ≠ [] := by
  simpa [ofText] using Text.splitOn_ne_nil '/' text.toList

theorem slashless_ofText {text s : String} (hs : s ∈ (ofText text).segments) :
    '/' ∉ s.toList := by
  obtain ⟨piece, hpiece, rfl⟩ := List.mem_map.1 hs
  rw [String.toList_ofList]
  exact Text.not_mem_of_mem_splitOn hpiece

theorem segments_toPath (l : Location) : l.toPath.segments = ["", ""] ∨
    l.toPath.segments = "" :: l.names.map Name.text := by
  obtain ⟨names⟩ := l
  cases names with
  | nil => exact .inl rfl
  | cons n names => exact .inr rfl

theorem mem_segments_join {s : String} (hs : s ∈ (p.join q).segments) :
    s ∈ p.segments ∨ s ∈ q.segments := by
  rw [join] at hs
  split at hs
  · exact .inr hs
  · split at hs
    · exact (List.mem_append.1 hs).imp_left fun h => (List.dropLast_sublist _).subset h
    · exact List.mem_append.1 hs

theorem slashless_toPath {s : String} (hs : s ∈ l.toPath.segments) : '/' ∉ s.toList := by
  have hname : ∀ t ∈ l.names.map Name.text, '/' ∉ t.toList := by
    intro t ht
    obtain ⟨n, -, rfl⟩ := List.mem_map.1 ht
    exact n.legal.2.2.2
  rcases segments_toPath l with h | h <;> rw [h] at hs
  · have : s = "" := by simpa using hs
    simp [this]
  · rcases List.mem_cons.1 hs with rfl | hs
    · simp
    · exact hname s hs

theorem slashless_way (cwd : Location) {text s : String} (hs : s ∈ way cwd (ofText text)) :
    '/' ∉ s.toList :=
  (mem_segments_join (List.mem_of_mem_tail hs)).elim slashless_toPath slashless_ofText

/-- A path leads where its way leads from the root. -/
theorem normalize_eq_way (cwd : Location) (hp : p.segments ≠ []) :
    p.normalize cwd = (way cwd p).foldl enterSegment .root := by
  have hjoin : (cwd.toPath.join p).normalize cwd = p.normalize cwd := by
    rw [normalize_join cwd _ hp, normalize_toPath]
  have habsolute := Project.isAbsolute_join (Project.isAbsolute_toPath cwd) hp
  obtain ⟨s, rest, hsegments⟩ := Project.exists_segments habsolute
  rw [← hjoin, normalize_eq_foldl_enterSegment, if_pos habsolute, way, hsegments, List.foldl_cons,
    enterSegment_idle (by decide), List.tail_cons]

/-- **Two paths lead to one place exactly if folding makes them one.** -/
theorem normalize_eq_iff_eqvGen (cwd : Location) (s t : String) :
    (ofText s).normalize cwd = (ofText t).normalize cwd ↔
      EqvGen Folds (way cwd (ofText s)) (way cwd (ofText t)) := by
  rw [normalize_eq_way cwd (segments_ofText_ne_nil s),
    normalize_eq_way cwd (segments_ofText_ne_nil t)]
  constructor
  · intro h
    have hs := eqvGen_way fun u hu => @slashless_way cwd s u hu
    have ht := eqvGen_way fun u hu => @slashless_way cwd t u hu
    rw [h] at hs
    exact hs.trans _ _ _ ht.symm
  · exact foldl_eq_of_eqvGen

/-! ### The folded path -/

theorem folded_eq_iff : folded cwd p = folded cwd q ↔ p.normalize cwd = q.normalize cwd := by
  constructor
  · intro h
    have := congrArg (normalize cwd) h
    rwa [folded, folded, normalize_toPath, normalize_toPath] at this
  · exact congrArg Location.toPath

/-- Nothing is left to fold. -/
theorem folded_folded (cwd cwd' : Location) (p : Path) :
    folded cwd' (folded cwd p) = folded cwd p := by
  rw [folded, folded, normalize_toPath]

theorem dots_not_mem_toPath (l : Location) :
    "." ∉ l.toPath.segments ∧ ".." ∉ l.toPath.segments := by
  have hname : ∀ t ∈ l.names.map Name.text, t ≠ "." ∧ t ≠ ".." := by
    intro t ht
    obtain ⟨n, -, rfl⟩ := List.mem_map.1 ht
    exact ⟨n.legal.2.1, n.legal.2.2.1⟩
  rcases segments_toPath l with h | h <;> rw [h]
  · decide
  · constructor <;> intro hmem
    · exact (hname _ ((List.mem_cons.1 hmem).resolve_left (by decide))).1 rfl
    · exact (hname _ ((List.mem_cons.1 hmem).resolve_left (by decide))).2 rfl

theorem folded_join (cwd : Location) (p : Path) (hq : q.segments ≠ []) :
    folded cwd (p.join q) = folded cwd ((folded cwd p).join q) := by
  rw [folded_eq_iff, normalize_join cwd _ hq, normalize_join cwd _ hq, folded, normalize_toPath]

/-- A name and the step up behind it lead back. -/
theorem folded_join_back (cwd : Location) (p : Path) (n : Name) (hq : q.segments ≠ []) :
    folded cwd (((p.join ⟨[n.text]⟩).join ⟨[".."]⟩).join q) = folded cwd (p.join q) := by
  rw [folded_eq_iff, normalize_join cwd _ hq, normalize_join cwd _ hq, normalize_join_segment,
    normalize_join_name, enterSegment_up, Location.parent_child]

/-- A step up at the root stays there. -/
theorem folded_root_up (cwd : Location) (hq : q.segments ≠ []) :
    folded cwd ((Location.root.toPath.join ⟨[".."]⟩).join q) =
      folded cwd (Location.root.toPath.join q) := by
  rw [folded_eq_iff, normalize_join cwd _ hq, normalize_join cwd _ hq, normalize_join_segment,
    normalize_toPath]
  rfl

/-- **Folding is canonical and compositional.**  A folded path is absolute, has no dots and is
folded to itself; a path behind another is folded as behind the folded one; a name and the step up
behind it make no difference, nor does a step up at the root.  And two paths are folded to one
exactly if the steps of folding lead from one to the other. -/
theorem folding_canonical (cwd : Location) :
    (∀ p : Path, (folded cwd p).isAbsolute = true ∧
      ("." ∉ (folded cwd p).segments ∧ ".." ∉ (folded cwd p).segments) ∧
      (∃ ns : List Name, (folded cwd p).components = .root :: ns.map Component.name) ∧
      folded cwd (folded cwd p) = folded cwd p) ∧
    (∀ (b : Path) (r : String),
      folded cwd (b.join (ofText r)) = folded cwd ((folded cwd b).join (ofText r))) ∧
    (∀ (b : Path) (x : Name) (r : String),
      folded cwd (((b.join ⟨[x.text]⟩).join ⟨[".."]⟩).join (ofText r)) =
        folded cwd (b.join (ofText r))) ∧
    (∀ r : String, folded cwd ((Location.root.toPath.join ⟨[".."]⟩).join (ofText r)) =
      folded cwd (Location.root.toPath.join (ofText r))) ∧
    ∀ s t : String, folded cwd (ofText s) = folded cwd (ofText t) ↔
      EqvGen Folds (way cwd (ofText s)) (way cwd (ofText t)) := by
  refine ⟨fun p => ⟨Project.isAbsolute_toPath _, dots_not_mem_toPath _,
    ⟨_, Location.components_toPath _⟩, folded_folded cwd cwd p⟩,
    fun b r => folded_join cwd b (segments_ofText_ne_nil r),
    fun b x r => folded_join_back cwd b x (segments_ofText_ne_nil r),
    fun r => folded_root_up cwd (segments_ofText_ne_nil r), fun s t => ?_⟩
  rw [folded_eq_iff, normalize_eq_iff_eqvGen]

example : folded .root (ofText "a/./x//../../../b/") = ofText "/b" := by decide +kernel

end Path
end LintWorkspace
