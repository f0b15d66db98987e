/-
# The documents that a resolution reaches

`Imports` is the graph of the documents on a disk: a document imports another if
one of its imports leads there from the directory that it stands in.

A visit lists a document when it joins the chain and never again: whatever it
reached is on the chain or finished (`Sound`), and it turns back from both.  A
document is finished after everything that it imports (`Finished`), so what is
finished is closed under imports.  Together these say what a resolution reports
(`reached_is_footprint`): a list without repetitions, the root first, on which
alone the outcome depends, and after a success exactly the documents that the root
leads to.
-/

import LintWorkspace.Proofs.Course
import Mathlib.Logic.Relation
import Mathlib.Tactic.Tauto

namespace LintWorkspace
namespace Ruleset

/-- A document imports another one: some import, read in the directory of the document,
leads there. -/
def Imports (d : Disk) (l t : Location) : Prop :=
  ∃ doc, Document.read d l = .ok doc ∧ ∃ i ∈ doc.imports, (Path.ofText i).normalize l.parent = t

/-- A document leads to another one through imports, or is that one. -/
def Reaches (d : Disk) : Location → Location → Prop := Relation.ReflTransGen (Imports d)

/-- Documents, each of which imports only documents after it in the list: the last one
finished stands first. -/
inductive Finished (d : Disk) : List Location → Prop
  | nil : Finished d []
  | cons {l ls} {doc : Document} (hread : Document.read d l = .ok doc) (hnew : l ∉ ls)
    (hbelow : targets l doc ⊆ ls) (hrest : Finished d ls) : Finished d (l :: ls)

/-- What is true of the progress of a visit along a chain. -/
structure Sound (d : Disk) (chain : List Location) (p : Progress) : Prop where
  finished : Finished d p.settled
  nodup : p.reached.Nodup
  /-- whatever was reached is on the way or done -/
  mem_reached : ∀ x, x ∈ p.reached ↔ x ∈ chain ∨ x ∈ p.settled
  /-- nothing is both -/
  apart : ∀ x ∈ chain, x ∉ p.settled

variable {d : Disk} {chain ls : List Location} {l t : Location} {m n : Severities}
  {p q : Progress} {doc : Document} {out : Except RulesetFault Severities}

theorem imports_iff (hread : Document.read d l = .ok doc) : Imports d l t ↔ t ∈ targets l doc := by
  simp [Imports, hread, targets]

/-! ### One more document -/

theorem lookup_eq_none_iff : p.done.lookup l = none ↔ l ∉ p.settled := by
  rw [List.lookup_eq_none_iff, Progress.settled, List.mem_map]
  constructor
  · rintro h ⟨e, he, rfl⟩
    simpa using h e he
  · intro h e he
    simpa using fun hle : l = e.1 => h ⟨e, he, hle.symm⟩

theorem mem_settled_of_lookup (h : p.done.lookup l = some n) : l ∈ p.settled := by
  refine Decidable.byContradiction fun hnew => ?_
  simp [lookup_eq_none_iff.2 hnew] at h

@[simp] theorem settled_reach (p : Progress) (l : Location) : (p.reach l).settled = p.settled := rfl

@[simp] theorem settled_finish (p : Progress) (l : Location) (n : Severities) :
    (p.finish l n).settled = l :: p.settled := rfl

@[simp] theorem reached_reach (p : Progress) (l : Location) :
    (p.reach l).reached = p.reached ++ [l] := rfl

@[simp] theorem reached_finish (p : Progress) (l : Location) (n : Severities) :
    (p.finish l n).reached = p.reached := rfl

/-- A document that is read joins the chain. -/
theorem Sound.reach (hp : Sound d chain p) (hnew : p.done.lookup l = none) (hmem : l ∉ chain) :
    Sound d (chain ++ [l]) (p.reach l) where
  finished := hp.finished
  nodup := by
    refine nodup_concat hp.nodup fun hl => ?_
    rcases (hp.mem_reached l).1 hl with hl | hl
    · exact hmem hl
    · exact lookup_eq_none_iff.1 hnew hl
  mem_reached x := by
    rw [reached_reach, settled_reach, List.mem_append, List.mem_append, hp.mem_reached]
    tauto
  apart x hx := by
    rcases List.mem_append.1 hx with hx | hx
    · exact hp.apart x hx
    · rw [List.mem_singleton.1 hx]
      exact lookup_eq_none_iff.1 hnew

/-- A document leaves the chain when it and all that it imports are finished. -/
theorem Sound.finish (hq : Sound d (chain ++ [l]) q) (n : Severities) (hmem : l ∉ chain)
    (hread : Document.read d l = .ok doc) (hbelow : targets l doc ⊆ q.settled) :
    Sound d chain (q.finish l n) where
  finished := .cons hread (hq.apart l (by simp)) hbelow hq.finished
  nodup := hq.nodup
  mem_reached x := by
    rw [reached_finish, settled_finish, hq.mem_reached, List.mem_append, List.mem_singleton,
      List.mem_cons]
    tauto
  apart x hx := by
    rw [settled_finish, List.mem_cons]
    rintro (rfl | hdone)
    · exact hmem hx
    · exact hq.apart x (by simp [hx]) hdone

/-! ### Along a course -/

/-- What was reached stays where it stands. -/
theorem Visits.prefix_reached (h : Visits d chain ls m p out q) : p.reached <+: q.reached := by
  induction h with
  | none | cycle => exact List.prefix_refl _
  | again _ _ ih => exact ih
  | unreadable => exact List.prefix_append _ _
  | broken _ _ _ _ ih => exact (List.prefix_append _ _).trans ih
  | unruly _ _ _ _ _ ih => exact (List.prefix_append _ _).trans ih
  | settled _ _ _ _ _ _ ih ihrest => exact ((List.prefix_append _ _).trans ih).trans ihrest

/-- What is finished stays finished. -/
theorem Visits.settled_subset (h : Visits d chain ls m p out q) : p.settled ⊆ q.settled := by
  induction h with
  | none | cycle | unreadable => exact List.Subset.refl _
  | again _ _ ih => exact ih
  | broken _ _ _ _ ih => exact ih
  | unruly _ _ _ _ _ ih => exact ih
  | settled _ _ _ _ _ _ ih ihrest =>
    exact fun x hx => ihrest (List.mem_cons_of_mem _ (ih hx))

/-- **Visits keep the progress sound** as long as they succeed, and then everything that was
to be visited is finished.  Even when they fail no document was listed twice. -/
theorem Visits.sound (h : Visits d chain ls m p out q) (hp : Sound d chain p) :
    q.reached.Nodup ∧ ∀ n, out = .ok n → Sound d chain q ∧ ls ⊆ q.settled := by
  induction h with
  | none => exact ⟨hp.nodup, fun _ _ => ⟨hp, List.nil_subset _⟩⟩
  | again hdone hrest ih =>
    have hafter := ih hp
    refine ⟨hafter.1, fun n hn => ⟨(hafter.2 n hn).1, ?_⟩⟩
    exact List.cons_subset.2
      ⟨hrest.settled_subset (mem_settled_of_lookup hdone), (hafter.2 n hn).2⟩
  | cycle => exact ⟨hp.nodup, nofun⟩
  | unreadable hnew hmem => exact ⟨(hp.reach hnew hmem).nodup, nofun⟩
  | broken hnew hmem _ _ ih => exact ⟨(ih (hp.reach hnew hmem)).1, nofun⟩
  | unruly hnew hmem _ _ _ ih => exact ⟨(ih (hp.reach hnew hmem)).1, nofun⟩
  | settled hnew hmem hread _ _ hrest ih ihrest =>
    obtain ⟨hsound, hbelow⟩ := (ih (hp.reach hnew hmem)).2 _ rfl
    have hafter := ihrest (hsound.finish _ hmem hread hbelow)
    refine ⟨hafter.1, fun n hn => ⟨(hafter.2 n hn).1, ?_⟩⟩
    exact List.cons_subset.2 ⟨hrest.settled_subset (by simp), (hafter.2 n hn).2⟩

/-- Visits reach nothing but what the documents to be visited lead to. -/
theorem Visits.reaches (h : Visits d chain ls m p out q) {x : Location} (hx : x ∈ q.reached) :
    x ∈ p.reached ∨ ∃ l ∈ ls, Reaches d l x := by
  -- what a document that is read adds: itself, and what its imports lead to
  have hstep : ∀ {l : Location} {doc : Document} {p : Progress},
      Document.read d l = .ok doc →
      (x ∈ (p.reach l).reached ∨ ∃ t ∈ targets l doc, Reaches d t x) →
      x ∈ p.reached ∨ Reaches d l x := by
    rintro l doc p hread (hx | ⟨t, ht, hreaches⟩)
    · rw [reached_reach, List.mem_append, List.mem_singleton] at hx
      exact hx.imp_right fun hxl => by rw [hxl]; exact .refl
    · exact .inr (.head ((imports_iff hread).2 ht) hreaches)
  induction h with
  | none | cycle => exact .inl hx
  | again _ _ ih =>
    exact (ih hx).imp_right fun ⟨l, hl, hreaches⟩ => ⟨l, List.mem_cons_of_mem _ hl, hreaches⟩
  | unreadable =>
    rw [reached_reach, List.mem_append, List.mem_singleton] at hx
    exact hx.imp_right fun hxl => ⟨_, List.mem_cons_self, by rw [hxl]; exact .refl⟩
  | broken _ _ hread _ ih =>
    exact (hstep hread (ih hx)).imp_right fun h => ⟨_, List.mem_cons_self, h⟩
  | unruly _ _ hread _ _ ih =>
    exact (hstep hread (ih hx)).imp_right fun h => ⟨_, List.mem_cons_self, h⟩
  | settled _ _ hread _ _ _ ih ihrest =>
    rcases ihrest hx with hx | ⟨l, hl, hreaches⟩
    · exact (hstep hread (ih hx)).imp_right fun h => ⟨_, List.mem_cons_self, h⟩
    · exact .inr ⟨l, List.mem_cons_of_mem _ hl, hreaches⟩

/-! ### What is finished -/

/-- A finished document can be read, and what it imports is finished. -/
theorem Finished.targets_subset (h : Finished d ls) (hl : l ∈ ls) :
    ∃ doc, Document.read d l = .ok doc ∧ targets l doc ⊆ ls := by
  induction h with
  | nil => simp at hl
  | cons hread _ hbelow _ ih =>
    rcases List.mem_cons.1 hl with rfl | hl
    · exact ⟨_, hread, List.subset_cons_of_subset _ hbelow⟩
    · obtain ⟨doc, hdoc, hsub⟩ := ih hl
      exact ⟨doc, hdoc, List.subset_cons_of_subset _ hsub⟩

/-- Documents that import nothing but each other lead nowhere else. -/
theorem mem_of_reaches (hclosed : ∀ l ∈ ls, ∀ t, Imports d l t → t ∈ ls) (hl : l ∈ ls)
    (hreaches : Reaches d l t) : t ∈ ls := by
  induction hreaches with
  | refl => exact hl
  | tail _ himports ih => exact hclosed _ ih _ himports

/-- Whatever finished documents lead to is finished. -/
theorem Finished.mem_of_reaches (h : Finished d ls) (hl : l ∈ ls) (hreaches : Reaches d l t) :
    t ∈ ls := by
  refine Ruleset.mem_of_reaches (fun l hl t himports => ?_) hl hreaches
  obtain ⟨doc, hread, hsub⟩ := h.targets_subset hl
  exact hsub ((imports_iff hread).1 himports)

/-! ### The footprint -/

/-- A resolution starts without progress. -/
theorem sound_nil (d : Disk) : Sound d [] ⟨[], []⟩ :=
  ⟨.nil, List.nodup_nil, fun x => by simp [Progress.settled], fun x hx => by simp at hx⟩

/-- The root is reached first. -/
theorem Visits.head?_reached {root : Location} (h : Visits d [] [root] m ⟨[], []⟩ out q) :
    q.reached.head? = some root := by
  suffices hpre : [root] <+: q.reached by
    obtain ⟨rest, hrest⟩ := hpre
    rw [← hrest]
    rfl
  cases h with
  | again hdone => simp at hdone
  | cycle _ hmem => simp at hmem
  | unreadable => exact List.prefix_refl _
  | broken _ _ _ hbelow => exact hbelow.prefix_reached
  | unruly _ _ _ hbelow => exact hbelow.prefix_reached
  | settled _ _ _ hbelow _ hrest => exact hbelow.prefix_reached.trans hrest.prefix_reached

/-- **The documents that a resolution reports are its footprint.**  A resolution on another
disk on which they read alike ends alike and reports the same; the list starts with the
root and never holds a document twice; and after a success it holds exactly what the root
leads to.  The root is written in the directory `base`. -/
theorem reached_is_footprint (F : Disk) (base : Location) (root : Path) :
    (∀ G, (∀ l ∈ (resolve F (root.normalize base)).2,
        F.readText l.toPath = G.readText l.toPath) →
      resolve G (root.normalize base) = resolve F (root.normalize base)) ∧
    (resolve F (root.normalize base)).2.Nodup ∧
    (resolve F (root.normalize base)).2.head? = some (root.normalize base) ∧
    ∀ r, (resolve F (root.normalize base)).1 = .ok r →
      r.documents = (resolve F (root.normalize base)).2 ∧
      ∀ l, l ∈ (resolve F (root.normalize base)).2 ↔ Reaches F (root.normalize base) l := by
  obtain ⟨q, hcourse, hreached⟩ := visits_resolve F (root.normalize base)
  have hsound := hcourse.sound (sound_nil F)
  refine ⟨fun G => resolve_congr, hreached ▸ hsound.1, hreached ▸ hcourse.head?_reached,
    fun r hr => ⟨documents_of_resolve hr, fun l => ?_⟩⟩
  obtain ⟨hq, hroot⟩ := hsound.2 r.severities (by rw [hr]; rfl)
  rw [hreached]
  constructor
  · intro hl
    rcases hcourse.reaches hl with hl | ⟨t, ht, hreaches⟩
    · simp at hl
    · rwa [List.mem_singleton.1 ht] at hreaches
  · intro hreaches
    exact (hq.mem_reached l).2 (.inr (hq.finished.mem_of_reaches (hroot (by simp)) hreaches))

/-- The location that a text leads to from the root. -/
def place (text : String) : Location := Path.normalize .root (.ofText text)

/-- A document that imports a common one twice: by way of another document, and by a path
that goes up and down again. -/
def diamond : Disk :=
  ⟨.root, [
    (place "/a",
      .file "imports = [\"b\", \"./d/../c\"]\nrules = [[\"X\", \"warn\"]]".toUTF8),
    (place "/b",
      .file "imports = [\"c\"]\nrules = [[\"Y\", \"info\"], [\"Y\", \"error\"]]".toUTF8),
    (place "/c", .file "rules = [[\"X\", \"hidden\"], [\"Y\", \"hidden\"]]".toUTF8)]⟩

/-- Of the diamond the three documents are reported, each once, and a directory beside them
does not matter. -/
theorem reached_diamond :
    ∃ r, (resolve diamond (place "/a")).1 = .ok r ∧
      r.documents = [place "/a", place "/b", place "/c"] ∧
      (∀ l, l ∈ r.documents ↔ Reaches diamond (place "/a") l) ∧
      resolve (diamond.put (place "/d") .directory) (place "/a") =
        resolve diamond (place "/a") := by
  have hroot : (Path.ofText "./e/../a").normalize .root = place "/a" := by decide +kernel
  obtain ⟨hcongr, -, -, hdocs⟩ := hroot ▸ reached_is_footprint diamond .root (.ofText "./e/../a")
  have hok : (resolve diamond (place "/a")).1.toOption.isSome = true := by decide +kernel
  have hlist : (resolve diamond (place "/a")).2 = [place "/a", place "/b", place "/c"] := by
    decide +kernel
  cases hr : (resolve diamond (place "/a")).1 with
  | error fault => simp [hr, Except.toOption] at hok
  | ok r =>
    obtain ⟨hr, hreaches⟩ := hdocs r hr
    refine ⟨r, rfl, hr.trans hlist, hr ▸ hreaches, hcongr _ fun l hl => ?_⟩
    have hbeside : ∀ l ∈ [place "/a", place "/b", place "/c"],
        l ≠ place "/d" ∧ l.isWithin (place "/d") = false := by decide +kernel
    obtain ⟨hne, hwithin⟩ := hbeside l (hlist ▸ hl)
    exact (Disk.Edited.put _ (by decide +kernel) _).readText_eq hne (.inr hwithin)

end Ruleset
end LintWorkspace
