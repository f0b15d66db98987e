/-
# The root that is detected

A repository has its root at the nearest directory with a settings file or a `.git` entry (a
mark), from where the search starts upward.  The search goes from parent to parent of the path it
starts with as it is written, so what it finds is the last marked place of the trail of the path,
as far as the trail leads through directories (`normalize_detectRoot`).

A path is clear if the places of its trail that are not above its end are directories without a
mark, as is every path without `..`.  From a clear path the search finds the nearest of the roots
that it reaches:

| start | reaches |
| --- | --- |
| absolute | every marked place above its end |
| relative | those in the working directory, and those in a place that it climbs to by `..` |

From `a/..` it finds a mark in `a`, and from `.` no mark above the working directory
(`not_detectsNearest`).  Two clear paths that have the same end and reach the same marks find the
same root and the same settings.
-/

import Mathlib.Data.List.Find
import LintWorkspace.Proofs.Trail
import LintWorkspace.Settings.Effective

namespace LintWorkspace

namespace Settings

open Disk

variable {d : Disk} {p q start other : Path} {l m x r t : Location} {way : List Location}
  {segments : List String} {reached : Location → Prop}

/-! ### Marks -/

/-- The names that mark the root of a repository. -/
def marks : List Name :=
  [⟨"reanalyze.toml", by decide⟩, ⟨"reanalyze.yaml", by decide⟩, ⟨"reanalyze.yml", by decide⟩,
    ⟨".git", by decide⟩]

/-- Whether a place holds an entry that marks a root. -/
def hasMark (d : Disk) (l : Location) : Bool := marks.any fun n => (d.entryAt (l.child n)).isSome

/-- A settings file has the name of a mark. -/
theorem exists_mark_of_mem_fileNames {name : String} (h : name ∈ fileNames) :
    ∃ n ∈ marks, ∀ p, entry p name = p.join ⟨[n.text]⟩ := by
  simp only [fileNames, List.mem_cons, List.not_mem_nil, or_false] at h
  rcases h with rfl | rfl | rfl
  · exact ⟨⟨"reanalyze.toml", by decide⟩, by simp [marks], fun p => rfl⟩
  · exact ⟨⟨"reanalyze.yaml", by decide⟩, by simp [marks], fun p => rfl⟩
  · exact ⟨⟨"reanalyze.yml", by decide⟩, by simp [marks], fun p => rfl⟩

theorem isRoot_eq (d : Disk) (p : Path) :
    isRoot d p = marks.any fun n => d.holds (p.join ⟨[n.text]⟩) := by
  simp only [isRoot, fileNames, marks, List.any_cons, List.any_nil, Bool.or_false, Bool.or_assoc]
  rfl

/-- A name behind an open path is looked up at the end of the path. -/
theorem find_join_name (h : Opens d p) (n : Name) : d.find (p.join ⟨[n.text]⟩) =
    match d.entryAt ((p.normalize d.cwd).child n) with
    | some e => .ok e
    | none => .error .notFound := by
  rw [find, h.locate_eq]
  rfl

/-- **A path is a root if it is open and leads to a mark.** -/
theorem isRoot_iff : isRoot d p = true ↔ Opens d p ∧ hasMark d (p.normalize d.cwd) = true := by
  have hholds : ∀ n : Name, d.holds (p.join ⟨[n.text]⟩) = true ↔
      Opens d p ∧ (d.entryAt ((p.normalize d.cwd).child n)).isSome = true := fun n => by
    by_cases hopens : Opens d p
    · rw [holds, find_join_name hopens]
      cases d.entryAt ((p.normalize d.cwd).child n) <;> simp [hopens, Except.isOk, Except.toBool]
    · obtain ⟨fault, -, hfault⟩ := (opens_or d p).resolve_left hopens
      simp [holds, find, hfault n, hopens, bind, Except.bind, Except.isOk, Except.toBool]
  rw [isRoot_eq, hasMark, List.any_eq_true, List.any_eq_true]
  simp only [hholds]
  constructor
  · rintro ⟨n, hn, hopens, hsome⟩
    exact ⟨hopens, n, hn, hsome⟩
  · rintro ⟨hopens, n, hn, hsome⟩
    exact ⟨n, hn, hopens, hsome⟩

/-- A marked place is a directory below directories. -/
theorem directory_of_hasMark (hd : d.Tree) (hm : hasMark d m = true) (hx : m.isWithin x = true) :
    d.entryAt x = some .directory := by
  obtain ⟨n, -, hsome⟩ := List.any_eq_true.1 hm
  have hdir := hd.parent _ (Option.isSome_iff_ne_none.1 hsome)
  rw [Location.parent_child] at hdir
  by_cases hmx : m = x
  · rw [← hmx, hdir]
  · exact hd.directory_of_isWithin (by simp [hdir]) hx hmx

/-! ### The search -/

/-- The places of a way, as far as it leads through directories. -/
def opened (d : Disk) (way : List Location) : List Location :=
  way.takeWhile fun m => d.entryAt m = some .directory

/-- The last marked place of a way, as far as it leads through directories. -/
def lastMark? (d : Disk) (way : List Location) : Option Location :=
  (opened d way).reverse.find? (hasMark d)

theorem opened_cons (d : Disk) (x : Location) (way : List Location) : opened d (x :: way) =
    if d.entryAt x = some .directory then x :: opened d way else [] := by
  rw [opened, List.takeWhile_cons]
  simp only [decide_eq_true_eq]
  rfl

theorem lastMark?_cons (d : Disk) (x : Location) (way : List Location) :
    lastMark? d (x :: way) =
      if d.entryAt x = some .directory then
        (lastMark? d way).or (if hasMark d x then some x else none)
      else none := by
  rw [lastMark?, opened_cons]
  split
  · rw [List.reverse_cons, List.find?_append, lastMark?, List.find?_singleton]
  · rfl

/-- A way leads to its end if all of it is directories. -/
theorem lastMark?_concat (d : Disk) (way : List Location) (x : Location) :
    lastMark? d (way ++ [x]) =
      if (∀ m ∈ way ++ [x], d.entryAt m = some .directory) ∧ hasMark d x = true then some x
      else lastMark? d way := by
  induction way with
  | nil =>
    rw [List.nil_append, lastMark?_cons]
    simp only [List.forall_mem_singleton]
    by_cases hx : d.entryAt x = some .directory <;> simp [hx, lastMark?, opened]
  | cons y way ih =>
    rw [List.cons_append, lastMark?_cons, lastMark?_cons, ih]
    simp only [List.forall_mem_cons]
    by_cases hy : d.entryAt y = some .directory
    · simp only [hy, if_true, true_and]
      split <;> simp
    · simp [hy]

theorem of_lastMark?_eq_some (h : lastMark? d way = some r) :
    r ∈ opened d way ∧ hasMark d r = true :=
  ⟨List.mem_reverse.1 (List.mem_of_find?_eq_some h), List.find?_some h⟩

/-- The search goes back along the trail of a path. -/
theorem map_normalize_rootAbove? {n : Nat} (hn : p.steps.length < n) :
    (rootAbove? d n p).map (Path.normalize d.cwd) = lastMark? d (p.trail d.cwd) := by
  induction n generalizing p with
  | zero => omega
  | succ n ih =>
    have hroot : isRoot d p = true ↔ (∀ m ∈ p.trail d.cwd, d.entryAt m = some .directory) ∧
        hasMark d (p.normalize d.cwd) = true := by rw [isRoot_iff, opens_iff]
    rw [rootAbove?]
    rcases Path.parent?_trail d.cwd p with ⟨hnone, htrail⟩ | ⟨q, hq, hlength, htrail⟩
    · rw [← List.nil_append [p.normalize d.cwd]] at htrail
      rw [htrail] at hroot ⊢
      rw [lastMark?_concat, hnone]
      simp only [← hroot]
      split <;> rfl
    · rw [htrail] at hroot ⊢
      rw [lastMark?_concat, hq, ← ih (by omega : q.steps.length < n)]
      simp only [← hroot]
      split <;> rfl

theorem length_steps_lt (p : Path) : p.steps.length < p.segments.length + 2 := by
  have hle := p.length_steps_le
  omega

/-- **What is detected is the last marked place of the trail** of a path, or else the end of the
path. -/
theorem normalize_detectRoot (d : Disk) (start : Path) :
    (detectRoot d start).normalize d.cwd =
      (lastMark? d (start.trail d.cwd)).getD (start.normalize d.cwd) := by
  rw [detectRoot, ← map_normalize_rootAbove? (length_steps_lt start)]
  cases rootAbove? d (start.segments.length + 2) start <;> rfl

/-! ### Clear paths -/

/-- A way that leaves the places above `l` only for directories without a mark. -/
def ClearWay (d : Disk) (l : Location) (way : List Location) : Prop := ∀ y ∈ way,
  l.isWithin y = true ∨ d.entryAt y = some .directory ∧ hasMark d y = false

instance (d : Disk) (l : Location) (way : List Location) : Decidable (ClearWay d l way) :=
  inferInstanceAs (Decidable (∀ y ∈ way, _))

theorem ClearWay.tail (h : ClearWay d l (x :: way)) : ClearWay d l way :=
  fun y hy => h y (List.mem_cons_of_mem x hy)

/-- A path with a clear way to its end. -/
def Clear (d : Disk) (p : Path) : Prop := ClearWay d (p.normalize d.cwd) (p.trail d.cwd)

instance (d : Disk) (p : Path) : Decidable (Clear d p) :=
  inferInstanceAs (Decidable (ClearWay d _ _))

/-- A path without `..` is clear. -/
theorem clear_of_not_up (d : Disk) (hup : ".." ∉ p.segments) : Clear d p := fun _ hy =>
  .inl (Path.isWithin_of_mem_trail hup hy)

/-- A step from outside a place leads into it only at the place itself. -/
theorem eq_of_isWithin_enterSegment {s : String} (habove : x.isWithin m = true → x = m)
    (hne : x ≠ m) (hwithin : (enterSegment x s).isWithin m = true) : enterSegment x s = m := by
  by_cases hup : s = ".."
  · subst hup
    exact absurd (habove (Location.isWithin_trans (Location.isWithin_parent x) hwithin)) hne
  · rcases Glob.enterSegment_cases hup x with heq | ⟨n, heq⟩
    · rw [heq] at hwithin
      exact absurd (habove hwithin) hne
    · rw [heq] at hwithin ⊢
      by_contra hchild
      have hparent := Location.parent_isWithin hwithin hchild
      rw [Location.parent_child] at hparent
      exact hne (habove hparent)

/-- On a clear way, what is not strictly below a marked place above the end is a directory. -/
theorem directory_of_clear (hd : d.Tree)
    (hclear : l.isWithin x = true ∨ d.entryAt x = some .directory ∧ hasMark d x = false)
    (hm : hasMark d m = true) (hlm : l.isWithin m = true) (habove : x.isWithin m = true → x = m) :
    d.entryAt x = some .directory := by
  rcases hclear with hlx | ⟨hdir, -⟩
  · refine directory_of_hasMark hd hm ?_
    rcases Location.isWithin_or hlm hlx with hmx | hxm
    · exact hmx
    · exact habove hxm ▸ Location.isWithin_self _
  · exact hdir

/-- A clear way that does not start strictly below a marked place above its end meets a mark: it
comes to that place, for one step does not lead past it. -/
theorem lastMark?_ne_none (hd : d.Tree) (hl : segments.foldl enterSegment x = l)
    (hclear : ClearWay d l (passed x segments)) (hm : hasMark d m = true)
    (hlm : l.isWithin m = true) (habove : x.isWithin m = true → x = m) :
    lastMark? d (passed x segments) ≠ none := by
  induction segments generalizing x with
  | nil =>
    obtain rfl : x = l := hl
    rw [passed, lastMark?_cons, directory_of_hasMark hd hm (habove hlm ▸ Location.isWithin_self _),
      habove hlm, hm]
    simp
  | cons s rest ih =>
    have hdir := directory_of_clear hd (hclear x (mem_passed_self _ _)) hm hlm habove
    rw [passed, lastMark?_cons, if_pos hdir]
    by_cases hxm : x = m
    · rw [hxm, hm, if_pos rfl]
      simp
    · have hstep := ih hl hclear.tail (eq_of_isWithin_enterSegment habove hxm)
      simp [hstep]

/-- A clear way meets a mark if the search comes to a place above a marked one. -/
theorem lastMark?_ne_none_of_mem (hd : d.Tree) (hl : segments.foldl enterSegment x = l)
    (hclear : ClearWay d l (passed x segments)) (hm : hasMark d m = true)
    (hlm : l.isWithin m = true) (ht : t ∈ opened d (passed x segments))
    (hmt : m.isWithin t = true) : lastMark? d (passed x segments) ≠ none := by
  induction segments generalizing x with
  | nil =>
    obtain rfl := List.mem_singleton.1 (List.takeWhile_subset _ ht)
    exact lastMark?_ne_none hd hl hclear hm hlm fun h => Location.isWithin_antisymm h hmt
  | cons s rest ih =>
    by_cases htx : t = x
    · subst htx
      exact lastMark?_ne_none hd hl hclear hm hlm fun h => Location.isWithin_antisymm h hmt
    · rw [passed, opened_cons] at ht
      rw [passed, lastMark?_cons]
      split at ht
      · rw [if_pos ‹_›]
        have hrest := ih hl hclear.tail ((List.mem_cons.1 ht).resolve_left htx)
        simp [hrest]
      · simp at ht

/-- **The last mark of a clear way is the nearest**: it lies within every marked place above the
end. -/
theorem isWithin_of_lastMark? (hd : d.Tree) (hl : segments.foldl enterSegment x = l)
    (hclear : ClearWay d l (passed x segments)) (hm : hasMark d m = true)
    (hlm : l.isWithin m = true) (hr : lastMark? d (passed x segments) = some r) :
    r.isWithin m = true := by
  induction segments generalizing x with
  | nil =>
    obtain rfl : x = l := hl
    obtain rfl := List.mem_singleton.1 (List.takeWhile_subset _ (of_lastMark?_eq_some hr).1)
    exact hlm
  | cons s rest ih =>
    obtain ⟨-, hmark⟩ := of_lastMark?_eq_some hr
    rw [passed, lastMark?_cons] at hr
    split at hr
    · rcases Option.or_eq_some_iff.1 hr with hr | ⟨hnone, hr⟩
      · exact ih hl hclear.tail hr
      · -- the mark is where the way starts, and no other mark is met
        obtain rfl : x = r := by
          split at hr
          · exact Option.some.inj hr
          · simp at hr
        have hlx := (hclear x (mem_passed_self _ _)).resolve_right fun h => by simp [hmark] at h
        rcases Location.isWithin_or hlx hlm with hwithin | hmx
        · exact hwithin
        · by_cases hxm : x = m
          · exact hxm ▸ Location.isWithin_self _
          · refine absurd hnone (lastMark?_ne_none hd hl hclear.tail hm hlm ?_)
            exact eq_of_isWithin_enterSegment (fun h => Location.isWithin_antisymm h hmx) hxm
    · simp at hr

/-! ### The nearest root -/

/-- A path reaches what lies within the places that it passes, as far as its trail leads through
directories: if that is above its end, the rest of the trail comes by it. -/
def Reaches (d : Disk) (p : Path) (m : Location) : Prop :=
  ∃ t ∈ opened d (p.trail d.cwd), m.isWithin t = true

/-- Of the marked places above `l` that are reached, `r` is the one next to `l`; or it is `l` if
there is none. -/
def Nearest (d : Disk) (reached : Location → Prop) (l r : Location) : Prop :=
  (hasMark d r = true ∧ l.isWithin r = true ∧ reached r ∧
    ∀ m, l.isWithin m = true → hasMark d m = true → reached m → r.isWithin m = true) ∨
  (r = l ∧ ∀ m, l.isWithin m = true → hasMark d m = true → ¬ reached m)

/-- The nearest root is determined by the marked places that are reached. -/
theorem Nearest.unique {reached' : Location → Prop} {r' : Location} (h : Nearest d reached l r)
    (h' : Nearest d reached' l r')
    (hsame : ∀ m, l.isWithin m = true → hasMark d m = true → (reached m ↔ reached' m)) :
    r = r' := by
  rcases h with ⟨hmark, hl, hr, hnear⟩ | ⟨rfl, hnone⟩ <;>
    rcases h' with ⟨hmark', hl', hr', hnear'⟩ | ⟨rfl, hnone'⟩
  · exact Location.isWithin_antisymm (hnear r' hl' hmark' ((hsame _ hl' hmark').2 hr'))
      (hnear' r hl hmark ((hsame _ hl hmark).1 hr))
  · exact absurd ((hsame _ hl hmark).1 hr) (hnone' r hl hmark)
  · exact absurd ((hsame _ hl' hmark').2 hr') (hnone r' hl' hmark')
  · rfl

/-- A path reaches what lies within the place it starts from. -/
theorem reaches_of_isWithin_base (hd : d.Tree) (hm : m.isWithin (p.base d.cwd) = true) :
    Reaches d p m := by
  refine ⟨p.base d.cwd, ?_, hm⟩
  have hbase : d.entryAt (p.base d.cwd) = some .directory := by
    rw [Path.base]
    split
    · rfl
    · exact hd.cwd
  rw [Path.trail]
  cases p.steps with
  | nil => simp [passed, opened_cons, hbase]
  | cons s rest => simp [passed, opened_cons, hbase]

/-- The mark that a clear path meets is above its end and reached. -/
theorem of_lastMark?_trail (hclear : Clear d p) (h : lastMark? d (p.trail d.cwd) = some r) :
    hasMark d r = true ∧ (p.normalize d.cwd).isWithin r = true ∧ Reaches d p r := by
  obtain ⟨hopened, hmark⟩ := of_lastMark?_eq_some h
  have habove := (hclear r (List.takeWhile_subset _ hopened)).resolve_right fun hplain => by
    simp [hmark] at hplain
  exact ⟨hmark, habove, r, hopened, Location.isWithin_self r⟩

/-- A clear path meets a mark if it reaches one above its end. -/
theorem isSome_lastMark?_trail (hd : d.Tree) (hclear : Clear d p) :
    (lastMark? d (p.trail d.cwd)).isSome = true ↔
      ∃ m, (p.normalize d.cwd).isWithin m = true ∧ hasMark d m = true ∧ Reaches d p m := by
  rw [Option.isSome_iff_exists]
  constructor
  · rintro ⟨r, hr⟩
    obtain ⟨hmark, habove, hreached⟩ := of_lastMark?_trail hclear hr
    exact ⟨r, habove, hmark, hreached⟩
  · rintro ⟨m, hlm, hm, t, ht, hmt⟩
    exact Option.ne_none_iff_exists'.1 (lastMark?_ne_none_of_mem hd
      (Path.normalize_eq_steps d.cwd p).symm hclear hm hlm ht hmt)

/-- **From a clear path the search finds the nearest root that the path reaches.** -/
theorem nearest_detectRoot (hd : d.Tree) (hclear : Clear d p) :
    Nearest d (Reaches d p) (p.normalize d.cwd) ((detectRoot d p).normalize d.cwd) := by
  rw [normalize_detectRoot]
  cases hlast : lastMark? d (p.trail d.cwd) with
  | none =>
    have hnone := mt (isSome_lastMark?_trail hd hclear).2 (by simp [hlast])
    exact .inr ⟨rfl, fun m hlm hm hreached => hnone ⟨m, hlm, hm, hreached⟩⟩
  | some r =>
    obtain ⟨hmark, habove, hreached⟩ := of_lastMark?_trail hclear hlast
    exact .inl ⟨hmark, habove, hreached, fun m hlm hm _ =>
      isWithin_of_lastMark? hd (Path.normalize_eq_steps d.cwd p).symm hclear hm hlm hlast⟩

/-! ### The settings -/

/-- The settings are read from entries with the names of settings files. -/
theorem load?_eq_of_find (h : ∀ n ∈ fileNames, d.find (entry p n) = d.find (entry q n)) :
    load? d p = load? d q := by
  have hfind : fileNames.find? (fun n => d.holds (entry p n)) =
      fileNames.find? (fun n => d.holds (entry q n)) :=
    List.find?_congr fun n hn => by rw [holds, holds, h n hn]
  rw [load?, load?, hfind]
  cases hname : fileNames.find? fun n => d.holds (entry q n) with
  | none => rfl
  | some name =>
    have hread : d.readText (entry p name) = d.readText (entry q name) := by
      rw [readText, readText, readBytes, readBytes, h name (List.mem_of_find?_eq_some hname)]
    simp only [bind, Option.bind, hread]

/-- Roots at the same place have the same settings. -/
theorem load?_of_isRoot (hp : isRoot d p = true) (hq : isRoot d q = true)
    (hend : p.normalize d.cwd = q.normalize d.cwd) : load? d p = load? d q := by
  refine load?_eq_of_find fun name hname => ?_
  obtain ⟨n, -, hentry⟩ := exists_mark_of_mem_fileNames hname
  rw [hentry p, hentry q, find_join_name (isRoot_iff.1 hp).1, find_join_name (isRoot_iff.1 hq).1,
    hend]

/-- Only a root has settings. -/
theorem load?_of_not_isRoot (h : isRoot d p = false) : load? d p = none := by
  have hnone : fileNames.find? (fun n => d.holds (entry p n)) = none := by
    rw [isRoot, Bool.or_eq_false_iff] at h
    simpa using h.1
  rw [load?, hnone]
  rfl

theorem isRoot_of_rootAbove? {n : Nat} (h : rootAbove? d n p = some q) : isRoot d q = true := by
  induction n generalizing p with
  | zero => simp [rootAbove?] at h
  | succ n ih =>
    rw [rootAbove?] at h
    split at h
    · rename_i hroot
      exact Option.some.inj h ▸ hroot
    · obtain ⟨x, -, hx⟩ := Option.bind_eq_some_iff.1 h
      exact ih hx

/-- What is detected is a root, if the way meets a mark. -/
theorem isRoot_detectRoot : isRoot d (detectRoot d p) = (lastMark? d (p.trail d.cwd)).isSome := by
  rw [detectRoot, ← map_normalize_rootAbove? (length_steps_lt p), Option.isSome_map]
  cases hroot : rootAbove? d (p.segments.length + 2) p with
  | some q => exact isRoot_of_rootAbove? hroot
  | none =>
    rw [rootAbove?] at hroot
    split at hroot
    · simp at hroot
    · rename_i hnot
      exact Bool.eq_false_iff.2 hnot

/-- **The nearest root that is reached is detected.** The root of every path is the last marked
place of its trail, as far as that leads through directories, or else its end.

Every path without `..` is clear.  The root of a clear path is the nearest marked place above its
end, of those that the path reaches; and it reaches all that lie within the place it starts from,
which is the top of the tree for an absolute path.  Two clear paths that have the same end and
reach the same marked places above it have the same root and the same settings. -/
theorem detects_nearest (d : Disk) (start : Path) :
    (detectRoot d start).normalize d.cwd =
        (lastMark? d (start.trail d.cwd)).getD (start.normalize d.cwd) ∧
      (".." ∉ start.segments → Clear d start) ∧
      (d.Tree → Clear d start →
        Nearest d (Reaches d start) (start.normalize d.cwd)
            ((detectRoot d start).normalize d.cwd) ∧
          (∀ m, m.isWithin (start.base d.cwd) = true → Reaches d start m) ∧
          ∀ other, Clear d other → other.normalize d.cwd = start.normalize d.cwd →
            (∀ m, (start.normalize d.cwd).isWithin m = true → hasMark d m = true →
              (Reaches d start m ↔ Reaches d other m)) →
            (detectRoot d start).normalize d.cwd = (detectRoot d other).normalize d.cwd ∧
              load? d (detectRoot d start) = load? d (detectRoot d other)) := by
  refine ⟨normalize_detectRoot d start, clear_of_not_up d, fun hd hclear =>
    ⟨nearest_detectRoot hd hclear, fun m hm => reaches_of_isWithin_base hd hm,
      fun other hclear' hend hsame => ?_⟩⟩
  have hnear := nearest_detectRoot hd hclear'
  rw [hend] at hnear
  have hroot := (nearest_detectRoot hd hclear).unique hnear hsame
  refine ⟨hroot, ?_⟩
  -- one of them is a root if the other is
  have hiff : isRoot d (detectRoot d start) = true ↔ isRoot d (detectRoot d other) = true := by
    rw [isRoot_detectRoot, isRoot_detectRoot, isSome_lastMark?_trail hd hclear,
      isSome_lastMark?_trail hd hclear', hend]
    exact exists_congr fun m => and_congr_right fun hlm => and_congr_right fun hm => hsame m hlm hm
  cases hother : isRoot d (detectRoot d other) with
  | true => exact load?_of_isRoot (hiff.2 hother) hother hroot
  | false =>
    have hstart := Bool.eq_false_iff.2 fun h => Bool.eq_false_iff.1 hother (hiff.1 h)
    rw [load?_of_not_isRoot hstart, load?_of_not_isRoot hother]

/-- A repository with settings in one of its two directories, and the working directory of its
user. -/
def checkout : Disk :=
  { cwd := ⟨[⟨"w", by decide⟩]⟩
    entries := [("/.git", .directory), ("/w", .directory), ("/w/a", .directory),
      ("/w/a/reanalyze.toml", .file "output = \"json\"".toUTF8), ("/w/b", .directory)].map
        fun e => (Path.normalize .root (.ofText e.1), e.2) }

theorem tree_checkout : checkout.Tree :=
  Disk.tree_of_entries (by decide +kernel) (by decide +kernel)

/-- A detour through a directory without a mark leads to the same root and settings. -/
theorem detects_nearest_detour :
    checkout.Tree ∧ Clear checkout (.ofText "/w/b/../a") ∧ Clear checkout (.ofText "/w/a") ∧
      load? checkout (detectRoot checkout (.ofText "/w/b/../a")) =
        load? checkout (detectRoot checkout (.ofText "/w/a")) ∧
      load? checkout (.ofText "/w/a") ≠ none := by
  have hclear : Clear checkout (.ofText "/w/b/../a") := by decide +kernel
  have hplain : Clear checkout (.ofText "/w/a") := by decide +kernel
  have hroot : ∀ m : Location, m.isWithin .root = true := fun m =>
    Location.isWithin_iff.2 List.nil_prefix
  obtain ⟨-, -, hsame⟩ := (detects_nearest checkout (.ofText "/w/b/../a")).2.2 tree_checkout hclear
  refine ⟨tree_checkout, hclear, hplain, (hsame (.ofText "/w/a") hplain (by decide +kernel)
    fun m _ _ => ?_).2, by decide +kernel⟩
  exact iff_of_true (reaches_of_isWithin_base tree_checkout (hroot m))
    (reaches_of_isWithin_base tree_checkout (hroot m))

/-- **The root that is detected need not be the nearest:** the search goes down from `a/..` to
the settings in `a`, which is not above where it starts, and from `.` it does not see the root
above the working directory, which it finds from `/w`. -/
theorem not_detectsNearest : checkout.Tree ∧
    ¬ Nearest checkout (fun _ => True) (Path.normalize checkout.cwd (.ofText "a/.."))
      ((detectRoot checkout (.ofText "a/..")).normalize checkout.cwd) ∧
    ¬ Nearest checkout (fun _ => True) (Path.normalize checkout.cwd (.ofText "."))
      ((detectRoot checkout (.ofText ".")).normalize checkout.cwd) ∧
    (detectRoot checkout (.ofText "/w")).normalize checkout.cwd = .root := by
  have hmark : hasMark checkout .root = true := by decide +kernel
  refine ⟨tree_checkout, ?_, ?_, by decide +kernel⟩
  · rintro (⟨-, habove, -⟩ | ⟨hend, -⟩)
    · exact absurd habove (by decide +kernel)
    · exact absurd hend (by decide +kernel)
  · rintro (⟨hfound, -⟩ | ⟨-, hnone⟩)
    · exact absurd hfound (by decide +kernel)
    · exact hnone .root (by decide +kernel) hmark trivial

end Settings
end LintWorkspace
