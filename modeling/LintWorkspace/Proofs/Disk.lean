/-
# What an operation on a disk looks at

A written path is followed from place to place (`Disk.places`), and if it leads
anywhere, it leads to the location it is normalized to (`eq_normalize_of_locate`).
The path of a location passes only the places above it.

So what is found on a path depends on little: two disks on which the places of the
path are alike (`Disk.Alike`) lead to the same place (`locate_congr`), and if the
same stands there, they answer the same (`find_congr`).  An edit of one file leaves
all paths alone that neither lead to it nor pass it (`Disk.Edited`).
-/

import LintWorkspace.Disk.Writing

namespace LintWorkspace
namespace Disk

variable {F G d : Disk} {l m cwd : Location} {p : Path}

/-! ### Places on the way -/

/-- The places that segments pass from a location on, with the place they lead to. -/
def passed : Location → List String → List Location
  | l, [] => [l]
  | l, s :: rest => l :: passed (enterSegment l s) rest

/-- The places that a written path passes when it is followed from a working directory. -/
def places (cwd : Location) (p : Path) : List Location :=
  match p.segments with
  | "" :: s :: rest => passed .root (s :: rest)
  | [""] => []
  | segments => passed cwd segments

theorem mem_passed_self (l : Location) (segments : List String) : l ∈ passed l segments := by
  cases segments <;> simp [passed]

theorem foldl_enterSegment_mem_passed (l : Location) (segments : List String) :
    segments.foldl enterSegment l ∈ passed l segments := by
  induction segments generalizing l with
  | nil => simp [passed]
  | cons s rest ih => exact List.mem_cons_of_mem _ (ih _)

/-- Segments that can be followed lead to the last place they pass. -/
theorem follow_eq_ok {segments : List String} (h : d.follow l segments = .ok m) :
    m = segments.foldl enterSegment l := by
  induction segments generalizing l with
  | nil => exact (Except.ok.inj h).symm
  | cons s rest ih =>
    rw [follow] at h
    split at h
    · exact ih h
    · simp at h
    · simp at h

theorem foldl_enterSegment (l : Location) (segments : List String) :
    segments.foldl enterSegment l =
      (segments.filterMap Component.ofSegment?).foldl Location.enter l := by
  induction segments generalizing l with
  | nil => rfl
  | cons s rest ih =>
    rw [List.foldl_cons, ih, List.filterMap_cons, enterSegment]
    cases Component.ofSegment? s <;> rfl

/-! A path is relative if its first segment is not empty. -/

section Relative

variable {s : String} {rest : List String}

theorem places_relative (hs : s ≠ "") : places cwd ⟨s :: rest⟩ = passed cwd (s :: rest) := by
  unfold places
  split
  · rename_i hp
    exact absurd (List.cons.inj hp).1 hs
  · rename_i hp
    exact absurd (List.cons.inj hp).1 hs
  · rfl

theorem locate_relative (hs : s ≠ "") : d.locate ⟨s :: rest⟩ = d.follow d.cwd (s :: rest) := by
  unfold locate
  split
  · rename_i hp
    exact absurd (List.cons.inj hp).1 hs
  · rename_i hp
    exact absurd (List.cons.inj hp).1 hs
  · rfl

theorem normalize_relative (hs : s ≠ "") :
    Path.normalize cwd ⟨s :: rest⟩ = (s :: rest).foldl enterSegment cwd := by
  rw [foldl_enterSegment]
  unfold Path.normalize Path.components
  split
  · rename_i hp
    exact absurd (List.cons.inj hp).1 hs
  · rename_i hp
    rw [(List.cons.inj hp).1, (List.cons.inj hp).2]
    rfl
  · rfl

end Relative

/-- The segments of a path that are followed, and where from. -/
theorem locate_cases (cwd : Location) (p : Path) :
    (places cwd p = [] ∧ ∀ d : Disk, d.locate p = .error .notFound) ∨
      ∃ start segments, places cwd p = passed start segments ∧
        p.normalize cwd = segments.foldl enterSegment start ∧
        ∀ d : Disk, d.cwd = cwd → d.locate p = d.follow start segments := by
  obtain ⟨segments⟩ := p
  cases segments with
  | nil => exact Or.inr ⟨cwd, [], rfl, rfl, fun d hd => hd ▸ rfl⟩
  | cons s rest =>
    by_cases hs : s = ""
    · subst hs
      cases rest with
      | nil => exact Or.inl ⟨rfl, fun _ => rfl⟩
      | cons t rest =>
        refine Or.inr ⟨.root, t :: rest, rfl, ?_, fun _ _ => rfl⟩
        rw [foldl_enterSegment]
        rfl
    · exact Or.inr ⟨cwd, s :: rest, places_relative hs, normalize_relative hs,
        fun d hd => hd ▸ locate_relative hs⟩

/-- If a path leads anywhere, it leads to the location it is normalized to. -/
theorem eq_normalize_of_locate (h : d.locate p = .ok m) : m = p.normalize d.cwd := by
  rcases locate_cases d.cwd p with ⟨-, hnone⟩ | ⟨start, segments, -, hnormalize, hlocate⟩
  · simp [hnone d] at h
  · rw [hlocate d rfl] at h
    rw [follow_eq_ok h, hnormalize]

/-- A path leads to a place that it passes. -/
theorem mem_places_of_locate (h : d.locate p = .ok m) : m ∈ places d.cwd p := by
  rcases locate_cases d.cwd p with ⟨-, hnone⟩ | ⟨start, segments, hplaces, -, hlocate⟩
  · simp [hnone d] at h
  · rw [hlocate d rfl] at h
    rw [follow_eq_ok h, hplaces]
    exact foldl_enterSegment_mem_passed start segments

/-! ### What is found -/

/-- Two disks are alike at a place if the same stands there, or a file on both: there is no
way through any file. -/
def Alike (F G : Disk) (m : Location) : Prop :=
  F.entryAt m = G.entryAt m ∨
    ∃ a b, F.entryAt m = some (.file a) ∧ G.entryAt m = some (.file b)

theorem follow_congr {segments : List String} (h : ∀ m ∈ passed l segments, Alike F G m) :
    F.follow l segments = G.follow l segments := by
  induction segments generalizing l with
  | nil => rfl
  | cons s rest ih =>
    rw [follow, follow, ih fun m hm => h m (List.mem_cons_of_mem _ hm)]
    rcases h l (mem_passed_self l _) with heq | ⟨a, b, hF, hG⟩
    · rw [heq]
    · rw [hF, hG]

/-- **The places on the way decide where a path leads.** -/
theorem locate_congr (hcwd : F.cwd = G.cwd) (h : ∀ m ∈ places F.cwd p, Alike F G m) :
    F.locate p = G.locate p := by
  rcases locate_cases F.cwd p with ⟨-, hnone⟩ | ⟨start, segments, hplaces, -, hlocate⟩
  · rw [hnone F, hnone G]
  · rw [hlocate F rfl, hlocate G hcwd.symm]
    exact follow_congr fun m hm => h m (hplaces ▸ hm)

/-- **With what stands at its end they decide what is found.** -/
theorem find_congr (hcwd : F.cwd = G.cwd) (h : ∀ m ∈ places F.cwd p, Alike F G m)
    (hend : F.entryAt (p.normalize F.cwd) = G.entryAt (p.normalize F.cwd)) :
    F.find p = G.find p := by
  unfold find
  rw [← locate_congr hcwd h]
  cases hlocate : F.locate p with
  | error fault => rfl
  | ok m =>
    simp only [bind, Except.bind]
    rw [eq_normalize_of_locate hlocate, hend]

theorem readBytes_congr (h : F.find p = G.find p) : F.readBytes p = G.readBytes p := by
  unfold readBytes
  rw [h]

theorem readText_congr (h : F.find p = G.find p) : F.readText p = G.readText p := by
  unfold readText
  rw [readBytes_congr h]

/-! ### What is read -/

variable {bytes : ByteArray} {text : String}

/-- What is found on a path stands where the path leads, and the path leads there. -/
theorem find_eq_ok_iff {entry : DiskEntry} : d.find p = .ok entry ↔
    d.locate p = .ok (p.normalize d.cwd) ∧ d.entryAt (p.normalize d.cwd) = some entry := by
  unfold find
  cases hlocate : d.locate p with
  | error fault => simp [bind, Except.bind]
  | ok m =>
    obtain rfl := eq_normalize_of_locate hlocate
    cases hentry : d.entryAt (p.normalize d.cwd) <;> simp [bind, Except.bind, hentry]

/-- Bytes are read from a file that is found. -/
theorem readBytes_eq_ok_iff_find : d.readBytes p = .ok bytes ↔ d.find p = .ok (.file bytes) := by
  unfold readBytes
  cases d.find p with
  | error fault => simp [bind, Except.bind]
  | ok entry => cases entry <;> simp [bind, Except.bind]

theorem readBytes_eq_ok_iff : d.readBytes p = .ok bytes ↔
    d.locate p = .ok (p.normalize d.cwd) ∧ d.entryAt (p.normalize d.cwd) = some (.file bytes) :=
  readBytes_eq_ok_iff_find.trans find_eq_ok_iff

/-- A text is read from the bytes that encode it. -/
theorem readText_eq_ok_iff : d.readText p = .ok text ↔
    ∃ bytes, d.readBytes p = .ok bytes ∧ String.fromUTF8? bytes = some text := by
  unfold readText
  cases d.readBytes p with
  | error fault => simp [bind, Except.bind]
  | ok bytes => cases hutf8 : String.fromUTF8? bytes <;> simp [bind, Except.bind, hutf8]

/-- The file that a path with a text leads to. -/
theorem exists_file_of_readText (h : d.readText p = .ok text) : ∃ bytes,
    d.locate p = .ok (p.normalize d.cwd) ∧
      d.entryAt (p.normalize d.cwd) = some (.file bytes) ∧ String.fromUTF8? bytes = some text := by
  obtain ⟨bytes, hbytes, hutf8⟩ := readText_eq_ok_iff.1 h
  obtain ⟨hlocate, hentry⟩ := readBytes_eq_ok_iff.1 hbytes
  exact ⟨bytes, hlocate, hentry, hutf8⟩

theorem readText_of_entryAt (hlocate : d.locate p = .ok (p.normalize d.cwd))
    (hentry : d.entryAt (p.normalize d.cwd) = some (.file bytes))
    (hutf8 : String.fromUTF8? bytes = some text) : d.readText p = .ok text :=
  readText_eq_ok_iff.2 ⟨bytes, readBytes_eq_ok_iff.2 ⟨hlocate, hentry⟩, hutf8⟩

/-! ### Locations -/

theorem ne_root_of_entryAt_ne (hl : d.entryAt l ≠ some .directory) : l ≠ .root := by
  rintro rfl
  exact hl (by simp [entryAt])

/-- A file that can be read is an entry. -/
theorem mem_of_readText (h : d.readText l.toPath = .ok text) :
    l ∈ d.entries.map Prod.fst := by
  obtain ⟨bytes, -, hbytes, -⟩ := exists_file_of_readText h
  rw [Path.normalize_toPath] at hbytes
  unfold entryAt at hbytes
  split at hbytes
  · simp at hbytes
  · obtain ⟨e, he, -⟩ := Option.map_eq_some_iff.1 hbytes
    have hl : e.1 = l := by simpa using List.find?_some he
    exact hl ▸ List.mem_map_of_mem (List.mem_of_find?_eq_some he)

/-- A name leads to the entry of that name. -/
theorem enterSegment_name (l : Location) (n : Name) : enterSegment l n.text = l.child n := by
  have hname : Component.ofSegment? n.text = some (.name n) := by
    have := n.legal
    unfold Component.ofSegment?
    rw [if_neg this.2.2.1, dif_pos this]
  simp [enterSegment, hname, Location.enter]

/-- Names pass the places above the one they lead to. -/
theorem isWithin_of_mem_passed {ns : List Name} (h : m ∈ passed l (ns.map Name.text)) :
    Location.isWithin ⟨l.names ++ ns⟩ m = true := by
  induction ns generalizing l with
  | nil =>
    rw [List.map_nil, passed, List.mem_singleton] at h
    simp [h, Location.isWithin]
  | cons n ns ih =>
    rw [List.map_cons, passed, enterSegment_name] at h
    rcases List.mem_cons.1 h with rfl | h
    · simp [Location.isWithin]
    · simpa [Location.child] using ih h

/-- **The path of a location passes only the places above it.** -/
theorem isWithin_of_mem_places (h : m ∈ places cwd l.toPath) : l.isWithin m = true := by
  obtain ⟨names⟩ := l
  cases names with
  | nil =>
    have hm : m = .root := by
      simpa [places, Location.toPath, passed, enterSegment, Component.ofSegment?, IsName] using h
    rw [hm]
    rfl
  | cons n ns => exact isWithin_of_mem_passed (l := .root) h

/-! ### Edits -/

/-- Two disks that differ at one place at most. -/
structure Edited (l : Location) (F G : Disk) : Prop where
  cwd_eq : F.cwd = G.cwd
  entryAt_eq : ∀ m ≠ l, F.entryAt m = G.entryAt m

/-- A file stands at a place on both disks. -/
def Overwritten (l : Location) (F G : Disk) : Prop :=
  ∃ a b, F.entryAt l = some (.file a) ∧ G.entryAt l = some (.file b)

/-- An edit of a place leaves the way of a path alone: it only overwrites a file there, or
the path passes neither the place nor one below it. -/
def Spares (l : Location) (F G : Disk) (p : Path) : Prop :=
  Overwritten l F G ∨ ∀ m ∈ places F.cwd p, m.isWithin l = false

namespace Edited

/-- Putting one entry on a disk is an edit. -/
theorem put (d : Disk) {l : Location} (hl : l ≠ .root) (e : DiskEntry) :
    Edited l d (d.put l e) where
  cwd_eq := rfl
  entryAt_eq m hm := by rw [entryAt_put d l m e hl, if_neg (Ne.symm hm)]

theorem alike (h : Edited l F G) (hm : Overwritten l F G ∨ m ≠ l) : Alike F G m := by
  by_cases hml : m = l
  · obtain ⟨a, b, hF, hG⟩ := hm.resolve_right (fun hne => hne hml)
    exact Or.inr ⟨a, b, hml ▸ hF, hml ▸ hG⟩
  · exact Or.inl (h.entryAt_eq m hml)

theorem alike_of_spares (h : Edited l F G) (hp : Spares l F G p) :
    ∀ m ∈ places F.cwd p, Alike F G m := fun m hm =>
  h.alike (hp.imp_right fun hway => Location.ne_of_not_isWithin (hway m hm))

/-- Above a spared way the disks are alike as well. -/
theorem alike_parent_of_spares (h : Edited l F G) (hp : Spares l F G p) :
    ∀ m ∈ places F.cwd p, Alike F G m.parent := fun m hm =>
  h.alike (hp.imp_right fun hway hparent => by
    have hm := hway m hm
    rw [← hparent, Location.isWithin_parent] at hm
    simp at hm)

/-- **An edit changes nothing that is found on a path whose way it spares,** unless the
path leads to the place itself. -/
theorem find_eq (h : Edited l F G) (hp : Spares l F G p) (hend : p.normalize F.cwd ≠ l) :
    F.find p = G.find p :=
  find_congr h.cwd_eq (h.alike_of_spares hp) (h.entryAt_eq _ hend)

theorem spares_toPath {x : Location} (hx : Overwritten l F G ∨ x.isWithin l = false) :
    Spares l F G x.toPath := hx.imp_right fun hx m hm => by
  cases hml : m.isWithin l with
  | false => rfl
  | true =>
    rw [Location.isWithin_trans (isWithin_of_mem_places hm) hml] at hx
    simp at hx

/-- Every other location reads as before, unless it lies below a file that comes or goes. -/
theorem readText_eq (h : Edited l F G) {x : Location} (hne : x ≠ l)
    (hx : Overwritten l F G ∨ x.isWithin l = false) :
    F.readText x.toPath = G.readText x.toPath :=
  readText_congr (h.find_eq (spares_toPath hx) (by rw [Path.normalize_toPath]; exact hne))

end Edited
end Disk
end LintWorkspace
