/-
# Disks that are trees

On a real disk whatever stands anywhere stands in a directory (`Disk.Tree`).  A path that goes
down only (`Path.Straight`) to a name is then followed as far as there are directories, and what
stops it is read off the place it leads to:

| above the place | the path |
| --- | --- |
| a directory | leads there |
| a file somewhere (`Disk.Barred`) | `notDirectory` |
| nothing | `notFound` |

So making directories fails only for a file in the way: it fails at once there, and changes
nothing (`Tree.createDirectories_of_barred`).  Otherwise it ends with directories all the way
(`Tree.exists_createDirectories`).
-/

import LintWorkspace.Proofs.Loading

namespace LintWorkspace

namespace Location

variable {l m k : Location}

@[simp] theorem parent_child (l : Location) (n : Name) : (l.child n).parent = l := by
  simp [parent, child]

theorem isWithin_antisymm (h : l.isWithin m = true) (h' : m.isWithin l = true) : l = m := by
  obtain ⟨ls⟩ := l
  obtain ⟨ms⟩ := m
  exact congrArg mk ((isWithin_iff.1 h').eq_of_length_le (isWithin_iff.1 h).length_le)

/-- Of two places above a third one is above the other. -/
theorem isWithin_or (h : l.isWithin m = true) (h' : l.isWithin k = true) :
    m.isWithin k = true ∨ k.isWithin m = true := by
  rw [isWithin_iff] at h h'
  rw [isWithin_iff, isWithin_iff]
  exact List.prefix_or_prefix_of_prefix h' h

theorem parent_isWithin (h : l.isWithin m = true) (hne : l ≠ m) :
    l.parent.isWithin m = true := by
  obtain ⟨ls⟩ := l
  obtain ⟨ms⟩ := m
  obtain ⟨rest, rfl⟩ := isWithin_iff.1 h
  have hrest : rest ≠ [] := by
    rintro rfl
    exact hne (by simp)
  rw [isWithin_iff, parent, List.dropLast_append_of_ne_nil hrest]
  exact List.prefix_append _ _

end Location

namespace Disk

variable {d e : Disk} {l m : Location} {p : Path}

/-- Whatever stands on a disk stands in a directory, and relative paths start in one. -/
structure Tree (d : Disk) : Prop where
  cwd : d.entryAt d.cwd = some .directory
  parent : ∀ l, d.entryAt l ≠ none → d.entryAt l.parent = some .directory

/-- It is enough to look at the entries. -/
theorem tree_of_entries (hcwd : d.entryAt d.cwd = some .directory)
    (h : ∀ x ∈ d.entries, d.entryAt x.1.parent = some .directory) : d.Tree where
  cwd := hcwd
  parent l hl := by
    by_cases hroot : l = .root
    · subst hroot
      rfl
    · obtain ⟨x, hx, rfl⟩ := List.mem_map.1
        ((isSome_entryAt_iff hroot).1 (Option.isSome_iff_ne_none.2 hl))
      exact h x hx

theorem tree_iff : d.Tree ↔ d.entryAt d.cwd = some .directory ∧
    ∀ x ∈ d.entries, d.entryAt x.1.parent = some .directory := by
  refine ⟨fun h => ⟨h.cwd, fun x hx => ?_⟩, fun h => tree_of_entries h.1 h.2⟩
  by_cases hroot : x.1 = .root
  · rw [hroot]
    rfl
  · exact h.parent _ (Option.isSome_iff_ne_none.1
      ((isSome_entryAt_iff hroot).2 (List.mem_map_of_mem hx)))

instance : Decidable d.Tree := decidable_of_iff _ tree_iff.symm

/-- Whatever has something below it is a directory. -/
theorem Tree.directory_of_isWithin (h : d.Tree) (hl : d.entryAt l ≠ none)
    (hw : l.isWithin m = true) (hne : l ≠ m) : d.entryAt m = some .directory := by
  induction hlength : l.names.length generalizing l with
  | zero =>
    have hnil : l.names = [] := List.length_eq_zero_iff.1 hlength
    rw [Location.isWithin_iff, hnil, List.prefix_nil] at hw
    exact absurd (Location.mk.injEq _ _ ▸ hnil.trans hw.symm) hne
  | succ k ih =>
    have hparent := h.parent l hl
    by_cases hm : l.parent = m
    · rw [← hm, hparent]
    · refine ih (by simp [hparent]) (Location.parent_isWithin hw hne) hm ?_
      rw [Location.parent, List.length_dropLast, hlength, Nat.add_sub_cancel]

/-- A file stands at a place or above it. -/
def Barred (d : Disk) (l : Location) : Prop := ∃ m, l.isWithin m = true ∧ d.HasFile m

instance (d : Disk) (l : Location) : Decidable (d.HasFile l) :=
  match h : d.entryAt l with
  | some (.file bytes) => .isTrue ⟨bytes, h⟩
  | some .directory => .isFalse (by rintro ⟨_, hfile⟩; simp [h] at hfile)
  | none => .isFalse (by rintro ⟨_, hfile⟩; simp [h] at hfile)

instance (d : Disk) (l : Location) : Decidable (d.Barred l) :=
  decidable_of_iff (∃ i, i < l.names.length + 1 ∧ d.HasFile ⟨l.names.take i⟩) <| by
    simp only [Barred, Location.isWithin_iff]
    constructor
    · rintro ⟨i, -, hfile⟩
      exact ⟨_, List.take_prefix i l.names, hfile⟩
    · rintro ⟨m, hw, hfile⟩
      refine ⟨m.names.length, Nat.lt_succ_of_le hw.length_le, ?_⟩
      rwa [← List.prefix_iff_eq_take.1 hw]

theorem Barred.mono (h : d.Barred m) (hw : l.isWithin m = true) : d.Barred l :=
  h.imp fun _ hk => hk.imp_left (Location.isWithin_trans hw)

/-- Nothing stands in the way to a directory. -/
theorem Tree.not_barred (h : d.Tree) (hl : d.entryAt l = some .directory) : ¬ d.Barred l := by
  rintro ⟨m, hw, bytes, hfile⟩
  by_cases hm : l = m
  · simp [← hm, hl] at hfile
  · simp [h.directory_of_isWithin (by simp [hl]) hw hm] at hfile

/-- What bars a place where there is no file bars the place above. -/
theorem Barred.parent (h : d.Barred l) (hl : ¬ d.HasFile l) : d.Barred l.parent := by
  obtain ⟨m, hw, hfile⟩ := h
  refine ⟨m, Location.parent_isWithin hw ?_, hfile⟩
  rintro rfl
  exact hl hfile

end Disk

/-! ### Paths that go down -/

namespace Path

variable {p above : Path} {segments : List String} {cwd : Location}

/-- A path that goes down only. -/
def Straight (p : Path) : Prop := ∀ s ∈ p.segments, isIdle s = true ∨ IsName s

instance : DecidablePred Straight := fun p =>
  inferInstanceAs (Decidable (∀ s ∈ p.segments, _))

/-- A path that goes down, and last to a name. -/
structure Named (p : Path) : Prop where
  straight : p.Straight
  exists_last : ∃ front, ∃ n : Name, p.segments = front ++ [n.text]

theorem Straight.not_up (h : p.Straight) : ".." ∉ p.segments := fun hmem => by
  rcases h _ hmem with hidle | hname
  · simp [isIdle] at hidle
  · exact hname.2.2.1 rfl

/-- A path that leads to where paths start. -/
def IsStart (p : Path) : Prop := p = ⟨[""]⟩ ∨ p = ⟨["", ""]⟩ ∨ p = ⟨["."]⟩

theorem not_up_of_ends (h : p.Named ∨ p.IsStart) : ".." ∉ p.segments := by
  rcases h with h | rfl | rfl | rfl
  · exact h.straight.not_up
  · decide
  · decide
  · decide

theorem not_isIdle (n : Name) : isIdle n.text = false := by
  obtain ⟨hempty, hdot, -⟩ := n.legal
  simp [isIdle, hempty, hdot]

theorem not_isEmpty_name (front : List String) (n : Name) :
    isEmpty ⟨front ++ [n.text]⟩ = false := by
  have hne : front ++ [n.text] ≠ [""] := fun heq => by
    have := congrArg List.getLast? heq
    simp [n.legal.1] at this
  simpa [isEmpty] using hne

theorem enterSegment_idle {s : String} (hs : isIdle s = true) (l : Location) :
    Disk.enterSegment l s = l := by
  have hidle : s = "" ∨ s = "." := by simpa [isIdle] using hs
  rcases hidle with rfl | rfl <;> simp [Disk.enterSegment, Component.ofSegment?, IsName]

/-- A named path is followed to the name from the root or from the working directory. -/
theorem Named.exists_way (h : p.Named) (cwd : Location) : ∃ start front, ∃ n : Name,
    (start = .root ∨ start = cwd) ∧ ".." ∉ front ∧
      p.normalize cwd = (front.foldl Disk.enterSegment start).child n ∧
      ∀ d : Disk, d.cwd = cwd → d.locate p = d.follow start (front ++ [n.text]) := by
  obtain ⟨segments⟩ := p
  obtain ⟨hstraight, front, n, hlast⟩ := h
  obtain rfl : segments = front ++ [n.text] := hlast
  have hname : ∀ l, Disk.enterSegment l n.text = l.child n := fun l => Disk.enterSegment_name l n
  have hfront : ".." ∉ front := fun hmem => hstraight.not_up (List.mem_append_left _ hmem)
  cases front with
  | nil =>
    refine ⟨cwd, [], n, .inr rfl, hfront, ?_, fun d hd => ?_⟩
    · rw [List.nil_append, Disk.normalize_relative n.legal.1, List.foldl_cons, hname]
      rfl
    · rw [List.nil_append, Disk.locate_relative n.legal.1, hd]
  | cons x front =>
    by_cases hx : x = ""
    · subst hx
      refine ⟨.root, front, n, .inl rfl, fun hmem => hfront (List.mem_cons_of_mem _ hmem), ?_,
        fun d _ => ?_⟩
      · have habsolute : isAbsolute ⟨"" :: front ++ [n.text]⟩ = true := by
          cases front <;> rfl
        rw [normalize_eq_foldl_enterSegment, habsolute, List.cons_append, List.foldl_cons,
          List.foldl_append]
        exact hname _
      · cases front <;> rfl
    · refine ⟨cwd, x :: front, n, .inr rfl, hfront, ?_, fun d hd => ?_⟩
      · rw [List.cons_append, Disk.normalize_relative hx, ← List.cons_append, List.foldl_append]
        exact hname _
      · rw [List.cons_append, Disk.locate_relative hx, hd]

/-! A named path is climbed from parent to parent, up to one that leads nowhere. -/

/-- How many segments of a path ask for something. -/
def rank (p : Path) : Nat := p.segments.countP fun s => !isIdle s

theorem foldl_enterSegment_idle (h : ∀ s ∈ segments, isIdle s = true) (l : Location) :
    segments.foldl Disk.enterSegment l = l := by
  induction segments with
  | nil => rfl
  | cons s segments ih =>
    rw [List.foldl_cons, enterSegment_idle (h s List.mem_cons_self)]
    exact ih fun t ht => h t (List.mem_cons_of_mem _ ht)

theorem exists_idle_end (segments : List String) :
    ∃ idle, segments = dropIdleEnd segments ++ idle ∧ ∀ s ∈ idle, isIdle s = true := by
  refine ⟨(segments.reverse.takeWhile isIdle).reverse, ?_, fun s hs => ?_⟩
  · rw [dropIdleEnd, ← List.reverse_append, List.takeWhile_append_dropWhile, List.reverse_reverse]
  · have hall : (segments.reverse.takeWhile isIdle).all isIdle = true := List.all_takeWhile
    exact List.all_eq_true.1 hall s (List.mem_reverse.1 hs)

/-- Idle segments at the end lead nowhere. -/
theorem foldl_dropIdleEnd (segments : List String) (l : Location) :
    (dropIdleEnd segments).foldl Disk.enterSegment l = segments.foldl Disk.enterSegment l := by
  obtain ⟨idle, heq, hidle⟩ := exists_idle_end segments
  conv => rhs; rw [heq, List.foldl_append, foldl_enterSegment_idle hidle]

theorem countP_dropIdleEnd (segments : List String) :
    ((dropIdleEnd segments).countP fun s => !isIdle s) = segments.countP fun s => !isIdle s := by
  obtain ⟨idle, heq, hidle⟩ := exists_idle_end segments
  have hnone : (idle.countP fun s => !isIdle s) = 0 := by
    simpa [List.countP_eq_zero] using hidle
  conv => rhs; rw [heq, List.countP_append, hnone, Nat.add_zero]

/-- What is left when idle segments at the end are dropped ends with one that is not idle. -/
theorem exists_asking_dropIdleEnd (hne : dropIdleEnd segments ≠ []) :
    ∃ front s, dropIdleEnd segments = front ++ [s] ∧ isIdle s = false := by
  obtain ⟨front, s, hs⟩ := (List.eq_nil_or_concat _).resolve_left hne
  rw [List.concat_eq_append] at hs
  refine ⟨front, s, hs, ?_⟩
  have hhead := List.head?_dropWhile_not isIdle segments.reverse
  rw [dropIdleEnd, List.reverse_eq_iff] at hs
  simpa [hs] using hhead

/-- Where all segments go down, it ends with a name. -/
theorem exists_last_dropIdleEnd (h : ∀ s ∈ segments, isIdle s = true ∨ IsName s)
    (hne : dropIdleEnd segments ≠ []) :
    ∃ front, ∃ n : Name, dropIdleEnd segments = front ++ [n.text] := by
  obtain ⟨front, s, hs, hlast⟩ := exists_asking_dropIdleEnd hne
  have hmem : s ∈ segments := (initial_dropIdleEnd segments).subset (by simp [hs])
  have hname : IsName s := (h s hmem).resolve_left (by simp [hlast])
  exact ⟨front, ⟨s, hname⟩, hs⟩

theorem named_append_dropIdleEnd (idle : List String) (hidle : ∀ s ∈ idle, isIdle s = true)
    (h : ∀ s ∈ segments, isIdle s = true ∨ IsName s) (hne : dropIdleEnd segments ≠ []) :
    Named ⟨idle ++ dropIdleEnd segments⟩ where
  straight s hs := (List.mem_append.1 hs).elim (fun hs => .inl (hidle s hs)) fun hs =>
    h s ((initial_dropIdleEnd segments).subset hs)
  exists_last := by
    obtain ⟨front, n, hlast⟩ := exists_last_dropIdleEnd h hne
    exact ⟨idle ++ front, n, by rw [hlast, List.append_assoc]⟩

section Parent

variable {front : List String}

/-- What is above a name that stands behind some segments. -/
def aboveName (front : List String) : Path :=
  match front with
  | "" :: rest => if dropIdleEnd rest = [] then ⟨["", ""]⟩ else ⟨"" :: dropIdleEnd rest⟩
  | "." :: rest => ⟨"." :: dropIdleEnd rest⟩
  | rest => if dropIdleEnd rest = [] then ⟨[""]⟩ else ⟨dropIdleEnd rest⟩

/-- A relative path but one that starts with a dot has no special rule. -/
theorem aboveName_relative (hroot : front.head? ≠ some "") (hdot : front.head? ≠ some ".") :
    aboveName front = if dropIdleEnd front = [] then ⟨[""]⟩ else ⟨dropIdleEnd front⟩ := by
  unfold aboveName
  split
  · exact absurd rfl hroot
  · exact absurd rfl hdot
  · rfl

/-- The parent of a path of some segments and a name. -/
theorem parent?_name (front : List String) (n : Name) :
    parent? ⟨front ++ [n.text]⟩ = some (aboveName front) := by
  have hbody : ∀ rest, dropIdleEnd (rest ++ [n.text]) = rest ++ [n.text] := fun rest =>
    dropIdleEnd_append_singleton (not_isIdle n)
  by_cases hroot : front.head? = some ""
  · obtain ⟨rest, rfl⟩ := List.head?_eq_some_iff.1 hroot
    have hbody := hbody rest
    have hlast : (rest ++ [n.text]).dropLast = rest := List.dropLast_concat
    obtain ⟨x, xs, hx⟩ := List.exists_cons_of_ne_nil (show rest ++ [n.text] ≠ [] by simp)
    rw [hx] at hbody hlast
    simp only [List.cons_append, hx, parent?, hbody, hlast, aboveName]
    cases dropIdleEnd rest with
    | nil => simp
    | cons y ys => simp
  · by_cases hdot : front.head? = some "."
    · obtain ⟨rest, rfl⟩ := List.head?_eq_some_iff.1 hdot
      simp only [List.cons_append, parent?, hbody, aboveName]
      split
      · rename_i hnil
        simp at hnil
      · rw [List.dropLast_concat]
    · rw [aboveName_relative hroot hdot]
      unfold parent?
      split
      · rename_i hp
        cases front <;> simp_all
      · rename_i hp
        cases front with
        | nil => exact absurd (List.cons.inj hp).1 n.legal.2.1
        | cons x front => exact absurd (congrArg some (List.cons.inj hp).1) hdot
      · simp only [hbody]
        split
        · rename_i hnil
          simp at hnil
        · rw [List.dropLast_concat]
          cases dropIdleEnd front with
          | nil => simp
          | cons x xs => simp

/-- Above a name that stands behind segments that go down is a path that starts where they do
and goes all their way. -/
structure Climbs (front : List String) (n : Name) : Prop where
  ends : (aboveName front).Named ∨ (aboveName front).IsStart
  isAbsolute_eq : (aboveName front).isAbsolute = isAbsolute ⟨front ++ [n.text]⟩
  way_eq : ∀ l, (aboveName front).segments.foldl Disk.enterSegment l =
    front.foldl Disk.enterSegment l
  rank_eq : (aboveName front).rank = front.countP fun s => !isIdle s

theorem climbs_absolute (h : ∀ s ∈ front, isIdle s = true ∨ IsName s) (n : Name) :
    Climbs ("" :: front) n := by
  have hidle : ∀ l, Disk.enterSegment l "" = l := enterSegment_idle rfl
  have hway := foldl_dropIdleEnd front
  have hcount := countP_dropIdleEnd front
  obtain ⟨x, xs, hx⟩ := List.exists_cons_of_ne_nil (show front ++ [n.text] ≠ [] by simp)
  have habsolute : isAbsolute ⟨"" :: front ++ [n.text]⟩ = true := by
    rw [List.cons_append, hx]
    rfl
  cases hrest : dropIdleEnd front with
  | nil =>
    have habove : aboveName ("" :: front) = ⟨["", ""]⟩ := if_pos hrest
    rw [hrest] at hway hcount
    refine ⟨?_, ?_, fun l => ?_, ?_⟩
    · exact .inr (.inr (.inl habove))
    · rw [habove, habsolute]
      rfl
    · simp [habove, hidle, ← hway]
    · simpa [habove, rank, isIdle] using hcount
  | cons y ys =>
    have hne : dropIdleEnd front ≠ [] := by simp [hrest]
    have habove : aboveName ("" :: front) = ⟨"" :: dropIdleEnd front⟩ := if_neg hne
    refine ⟨?_, ?_, fun l => ?_, ?_⟩
    · rw [habove]
      exact .inl (named_append_dropIdleEnd [""] (by simp [isIdle]) h hne)
    · rw [habove, habsolute, hrest]
      rfl
    · simp [habove, hidle, hway]
    · simpa [habove, rank, isIdle] using hcount

theorem climbs_dot (h : ∀ s ∈ front, isIdle s = true ∨ IsName s) (n : Name) :
    Climbs ("." :: front) n := by
  have hidle : ∀ l, Disk.enterSegment l "." = l := enterSegment_idle rfl
  have habove : aboveName ("." :: front) = ⟨"." :: dropIdleEnd front⟩ := rfl
  refine ⟨?_, by simp [habove, isAbsolute], fun l => ?_, ?_⟩
  · by_cases hnil : dropIdleEnd front = []
    · exact .inr (.inr (.inr (by rw [habove, hnil])))
    · exact .inl (named_append_dropIdleEnd ["."] (by simp [isIdle]) h hnil)
  · simp [habove, hidle, foldl_dropIdleEnd]
  · simpa [habove, rank, isIdle] using countP_dropIdleEnd front

theorem climbs_plain (h : ∀ s ∈ front, isIdle s = true ∨ IsName s)
    (hroot : front.head? ≠ some "") (hdot : front.head? ≠ some ".") (n : Name) :
    Climbs front n := by
  have hrelative : isAbsolute ⟨front ++ [n.text]⟩ = false := by
    cases front with
    | nil => simp [isAbsolute]
    | cons x front =>
      have hx : x ≠ "" := fun hx => hroot (by rw [hx]; rfl)
      simp [isAbsolute, hx]
  have habove := aboveName_relative hroot hdot
  have hidle : ∀ l, Disk.enterSegment l "" = l := enterSegment_idle rfl
  have hway := foldl_dropIdleEnd front
  have hcount := countP_dropIdleEnd front
  cases hrest : dropIdleEnd front with
  | nil =>
    rw [if_pos hrest] at habove
    rw [hrest] at hway hcount
    refine ⟨.inr (.inl habove), by rw [habove, hrelative]; rfl, fun l => ?_, ?_⟩
    · simp [habove, hidle, ← hway]
    · simpa [habove, rank, isIdle] using hcount
  | cons x xs =>
    have hne : dropIdleEnd front ≠ [] := by simp [hrest]
    rw [if_neg hne] at habove
    have hhead : front.head? = some x := by
      obtain ⟨rest, heq⟩ := initial_dropIdleEnd front
      rw [← heq, hrest]
      rfl
    have hx : x ≠ "" := fun hx => hroot (hx ▸ hhead)
    refine ⟨.inl ?_, ?_, fun l => by rw [habove, hway], by rw [habove, ← hcount]; rfl⟩
    · rw [habove]
      exact named_append_dropIdleEnd [] (by simp) h hne
    · rw [habove, hrelative, hrest]
      simp [isAbsolute, hx]

end Parent

/-- **The parent of a named path** leads to the place above, and is named itself until a path
is left that leads nowhere. -/
theorem Named.exists_parent (h : p.Named) (cwd : Location) : ∃ above, p.parent? = some above ∧
    (above.Named ∨ above.IsStart) ∧ above.normalize cwd = (p.normalize cwd).parent ∧
      above.rank + 1 = p.rank := by
  obtain ⟨segments⟩ := p
  obtain ⟨hstraight, front, n, hlast⟩ := h
  obtain rfl : segments = front ++ [n.text] := hlast
  have hfront : ∀ s ∈ front, isIdle s = true ∨ IsName s := fun s hs =>
    hstraight s (List.mem_append_left _ hs)
  have hclimbs : Climbs front n := by
    by_cases hroot : front.head? = some ""
    · obtain ⟨rest, rfl⟩ := List.head?_eq_some_iff.1 hroot
      exact climbs_absolute (fun s hs => hfront s (List.mem_cons_of_mem _ hs)) n
    · by_cases hdot : front.head? = some "."
      · obtain ⟨rest, rfl⟩ := List.head?_eq_some_iff.1 hdot
        exact climbs_dot (fun s hs => hfront s (List.mem_cons_of_mem _ hs)) n
      · exact climbs_plain hfront hroot hdot n
  refine ⟨aboveName front, parent?_name front n, hclimbs.ends, ?_, ?_⟩
  · rw [normalize_eq_foldl_enterSegment, hclimbs.isAbsolute_eq, hclimbs.way_eq,
      normalize_eq_foldl_enterSegment, List.foldl_append, List.foldl_cons, List.foldl_nil,
      Disk.enterSegment_name, Location.parent_child]
  · rw [hclimbs.rank_eq]
    simp [rank, List.countP_append, not_isIdle]

theorem Named.ne_root (h : p.Named) (cwd : Location) : p.normalize cwd ≠ .root := by
  obtain ⟨start, front, n, -, -, hplace, -⟩ := h.exists_way cwd
  rw [hplace]
  exact Disk.child_ne_root _ n

/-- The path of a location but the root is named. -/
theorem named_toPath {l : Location} (hl : l ≠ .root) : l.toPath.Named := by
  obtain ⟨names⟩ := l
  obtain ⟨front, n, rfl⟩ : ∃ front n, names = front ++ [n] := by
    rcases List.eq_nil_or_concat names with rfl | ⟨front, n, rfl⟩
    · exact absurd rfl hl
    · exact ⟨front, n, List.concat_eq_append⟩
  have hsegments : (Location.mk (front ++ [n])).toPath.segments =
      "" :: (front ++ [n]).map Name.text := by
    cases front <;> rfl
  refine ⟨fun s hs => ?_, "" :: front.map Name.text, n, ?_⟩
  · rw [hsegments, List.mem_cons] at hs
    rcases hs with rfl | hs
    · exact .inl rfl
    · obtain ⟨m, -, rfl⟩ := List.mem_map.1 hs
      exact .inr m.legal
  · rw [hsegments, List.map_append]
    rfl

end Path

/-! ### Where a named path leads -/

namespace Disk

variable {d e : Disk} {l : Location} {p : Path}

section Follow

variable {front : List String} {s : String}

/-- All that lies strictly above a place is a directory. -/
def Reached (d : Disk) (l : Location) : Prop :=
  ∀ m, l.isWithin m = true → m ≠ l → d.entryAt m = some .directory

theorem Tree.reached (h : d.Tree) (hl : d.entryAt l ≠ none) : d.Reached l := fun _ hw hne =>
  h.directory_of_isWithin hl hw hne.symm

theorem Reached.enterSegment (h : d.Reached l) (hl : d.entryAt l = some .directory)
    (hs : s ≠ "..") : d.Reached (enterSegment l s) := by
  rcases Glob.enterSegment_cases hs l with heq | ⟨n, heq⟩
  · rwa [heq]
  · rw [heq]
    intro m hw hne
    have hw' := Location.parent_isWithin hw hne.symm
    rw [Location.parent_child] at hw'
    by_cases hm : m = l
    · rw [hm, hl]
    · exact h m hw' hm

/-- **How far segments that go down are followed** is read off the place before the last. -/
theorem Tree.follow_concat (h : d.Tree) (hl : d.Reached l) (hfront : ".." ∉ front) :
    d.follow l (front ++ [s]) = match d.entryAt (front.foldl enterSegment l) with
      | some .directory => .ok (enterSegment (front.foldl enterSegment l) s)
      | _ => .error (if d.Barred (front.foldl enterSegment l) then .notDirectory
        else .notFound) := by
  induction front generalizing l with
  | nil =>
    rw [List.nil_append, List.foldl_nil, follow]
    cases hentry : d.entryAt l with
    | none =>
      have hfree : ¬ d.Barred l := by
        rintro ⟨m, hw, bytes, hfile⟩
        by_cases hm : m = l
        · simp [hm, hentry] at hfile
        · simp [hl m hw hm] at hfile
      rw [if_neg hfree]
    | some entry =>
      cases entry with
      | directory => rfl
      | file bytes => rw [if_pos ⟨l, l.isWithin_self, bytes, hentry⟩]
  | cons x front ih =>
    have hwithin : ((x :: front).foldl enterSegment l).isWithin l = true :=
      (isWithin_of_mem_passed_of_not_up hfront (mem_passed_self l (x :: front))).1
    rw [List.mem_cons, not_or] at hfront
    rw [List.cons_append, follow]
    cases hentry : d.entryAt l with
    | none =>
      -- a place below nothing is no directory, and what bars it would be above the nothing
      have hfree : ¬ d.Barred ((x :: front).foldl enterSegment l) := by
        rintro ⟨m, hw, bytes, hfile⟩
        by_cases hm : m = l
        · simp [hm, hentry] at hfile
        · rcases Location.isWithin_or hw hwithin with hml | hlm
          · have hdir := h.directory_of_isWithin (by simp [hfile]) hml hm
            simp [hdir] at hentry
          · simp [hl m hlm hm] at hfile
      have hnone : d.entryAt ((x :: front).foldl enterSegment l) = none := by
        by_contra hsome
        by_cases heq : (x :: front).foldl enterSegment l = l
        · rw [heq] at hsome
          exact hsome hentry
        · simp [h.directory_of_isWithin hsome hwithin heq] at hentry
      rw [hnone, if_neg hfree]
    | some entry =>
      cases entry with
      | directory => exact ih (hl.enterSegment hentry (Ne.symm hfront.1)) hfront.2
      | file bytes =>
        have hbarred : d.Barred ((x :: front).foldl enterSegment l) :=
          ⟨l, hwithin, bytes, hentry⟩
        have hnot : d.entryAt ((x :: front).foldl enterSegment l) ≠ some .directory :=
          fun hdir => h.not_barred hdir hbarred
        simp only [if_pos hbarred]

end Follow

/-- **Where a named path leads on a tree.** -/
theorem Tree.locate_eq (h : d.Tree) (hp : p.Named) :
    d.locate p = match d.entryAt (p.normalize d.cwd).parent with
      | some .directory => .ok (p.normalize d.cwd)
      | _ => .error (if d.Barred (p.normalize d.cwd).parent then .notDirectory
        else .notFound) := by
  obtain ⟨start, front, n, hstart, hfront, hnormalize, hlocate⟩ := hp.exists_way d.cwd
  have hreached : d.Reached start := by
    refine h.reached ?_
    rcases hstart with rfl | rfl
    · simp [entryAt]
    · simp [h.cwd]
  rw [hlocate d rfl, h.follow_concat hreached hfront, hnormalize, Location.parent_child,
    enterSegment_name]

/-- A place where nothing stands is barred from above. -/
theorem barred_parent_iff (hl : d.entryAt l = none) : d.Barred l ↔ d.Barred l.parent :=
  ⟨fun hb => hb.parent (by rintro ⟨bytes, hfile⟩; simp [hl] at hfile),
    fun hb => hb.mono (Location.isWithin_parent _)⟩

/-- **What is found on a named path.** -/
theorem Tree.find_eq (h : d.Tree) (hp : p.Named) :
    d.find p = match d.entryAt (p.normalize d.cwd) with
      | some entry => .ok entry
      | none => .error (if d.Barred (p.normalize d.cwd) then .notDirectory else .notFound) := by
  unfold find
  rw [h.locate_eq hp]
  cases hentry : d.entryAt (p.normalize d.cwd) with
  | some entry =>
    have hparent := h.parent (p.normalize d.cwd) (by simp [hentry])
    simp [hparent, hentry, bind, Except.bind]
  | none =>
    simp only [barred_parent_iff hentry]
    cases hparent : d.entryAt (p.normalize d.cwd).parent with
    | none => rfl
    | some entry =>
      cases entry with
      | file bytes => rfl
      | directory => simp [h.not_barred hparent, hentry, bind, Except.bind]

/-! ### Making directories -/

/-- **What making one directory comes to.** -/
theorem Tree.createDirectory_eq (h : d.Tree) (hp : p.Named) :
    d.createDirectory p = match d.entryAt (p.normalize d.cwd) with
      | some _ => .error .exists
      | none => match d.entryAt (p.normalize d.cwd).parent with
        | some .directory => .ok (d.put (p.normalize d.cwd) .directory)
        | _ => .error (if d.Barred (p.normalize d.cwd) then .notDirectory else .notFound) := by
  unfold createDirectory
  rw [h.locate_eq hp]
  cases hentry : d.entryAt (p.normalize d.cwd) with
  | some entry =>
    have hparent := h.parent (p.normalize d.cwd) (by simp [hentry])
    simp [hparent, hentry, bind, Except.bind]
  | none =>
    simp only [barred_parent_iff hentry]
    cases hparent : d.entryAt (p.normalize d.cwd).parent with
    | none => rfl
    | some entry =>
      cases entry with
      | file bytes => rfl
      | directory => simp [hparent, hentry, bind, Except.bind]

theorem Tree.put_directory (h : d.Tree) (hnone : d.entryAt l = none)
    (hparent : d.entryAt l.parent = some .directory) : (d.put l .directory).Tree := by
  have hgrown : Grown l d (d.put l .directory) := .put_directory hnone
  refine ⟨hgrown.directory _ h.cwd, fun m hm => ?_⟩
  rw [entryAt_put d l m .directory (ne_root_of_entryAt_ne (d := d) (by simp [hnone]))] at hm
  split at hm
  · rename_i hl
    exact hgrown.directory _ (hl ▸ hparent)
  · exact hgrown.directory _ (h.parent m hm)

theorem not_isEmpty_of_named (hp : p.Named) : p.isEmpty = false := by
  obtain ⟨segments⟩ := p
  obtain ⟨front, n, hlast⟩ := hp.exists_last
  obtain rfl : segments = front ++ [n.text] := hlast
  exact Path.not_isEmpty_name front n

/-- **A file in the way stops the making of directories at once.** -/
theorem Tree.createDirectories_of_barred (h : d.Tree) (hp : p.Named)
    (hb : d.Barred (p.normalize d.cwd)) : d.createDirectories p =
      (d, some (if d.HasFile (p.normalize d.cwd) then .exists else .notDirectory)) := by
  have hfind := h.find_eq hp
  have hmake := h.createDirectory_eq hp
  cases hentry : d.entryAt (p.normalize d.cwd) with
  | some entry =>
    cases entry with
    | directory => exact absurd hb (h.not_barred hentry)
    | file bytes =>
      rw [hentry] at hfind hmake
      simp [createDirectories, createDirectoriesWithin, not_isEmpty_of_named hp, hmake,
        isDirectory, hfind, HasFile, hentry]
  | none =>
    rw [hentry] at hfind hmake
    simp only [if_pos hb] at hfind hmake
    have hmake : d.createDirectory p = .error .notDirectory := by
      rw [hmake]
      split
      · rename_i hdir
        exact absurd ((barred_parent_iff hentry).1 hb) (h.not_barred hdir)
      · rfl
    simp [createDirectories, createDirectoriesWithin, not_isEmpty_of_named hp, hmake,
      isDirectory, hfind, HasFile, hentry]

/-- The making of directories ends well where paths start. -/
theorem Tree.createDirectoriesWithin_of_isStart (h : d.Tree) (hp : p.IsStart) (n : Nat) :
    createDirectoriesWithin (n + 1) d p = (d, none) ∧
      d.entryAt (p.normalize d.cwd) = some .directory := by
  have hroot : d.entryAt .root = some .directory := rfl
  rcases hp with rfl | rfl | rfl
  · exact ⟨rfl, h.cwd⟩
  · refine ⟨?_, hroot⟩
    simp [createDirectoriesWithin, Path.isEmpty, createDirectory, isDirectory, find, locate, follow,
      hroot, enterSegment, Component.ofSegment?, IsName, bind, Except.bind]
  · refine ⟨?_, h.cwd⟩
    simp [createDirectoriesWithin, Path.isEmpty, createDirectory, isDirectory, find, locate, follow,
      h.cwd, enterSegment, Component.ofSegment?, IsName, bind, Except.bind]

/-- In a directory one can make a directory, or there is one. -/
theorem Tree.createDirectory_cases (h : d.Tree) (hp : p.Named)
    (hparent : d.entryAt (p.normalize d.cwd).parent = some .directory)
    (hfree : ¬ d.Barred (p.normalize d.cwd)) :
    (∃ e, d.createDirectory p = .ok e ∧ e.Tree ∧
        e.entryAt (p.normalize d.cwd) = some .directory) ∨
      d.createDirectory p = .error .exists ∧ d.isDirectory p = true ∧
        d.entryAt (p.normalize d.cwd) = some .directory := by
  rw [h.createDirectory_eq hp, hparent]
  cases hentry : d.entryAt (p.normalize d.cwd) with
  | none =>
    refine .inl ⟨_, rfl, h.put_directory hentry hparent, ?_⟩
    rw [entryAt_put d _ _ _ (ne_root_of_entryAt_ne (d := d) (by simp [hentry])), if_pos rfl]
  | some entry =>
    cases entry with
    | directory => exact .inr ⟨rfl, by simp [isDirectory, h.find_eq hp, hentry], rfl⟩
    | file bytes => exact absurd ⟨_, Location.isWithin_self _, bytes, hentry⟩ hfree

/-- With no file in the way the making of directories ends well. -/
theorem Tree.exists_createDirectoriesWithin {n : Nat} (h : d.Tree) (hp : p.Named ∨ p.IsStart)
    (hfree : ¬ d.Barred (p.normalize d.cwd)) (hn : p.rank < n) :
    ∃ e, createDirectoriesWithin n d p = (e, none) ∧ e.Tree ∧
      e.entryAt (p.normalize d.cwd) = some .directory := by
  induction n generalizing d p with
  | zero => omega
  | succ n ih =>
    rcases hp with hp | hp
    · rw [createDirectoriesWithin, not_isEmpty_of_named hp]
      by_cases hparent : d.entryAt (p.normalize d.cwd).parent = some .directory
      · rcases h.createDirectory_cases hp hparent hfree with
          ⟨e, hmade, htree, hdir⟩ | ⟨hmade, hthere, hdir⟩
        · exact ⟨e, by simp [hmade], htree, hdir⟩
        · exact ⟨d, by simp [hmade, hthere], h, hdir⟩
      · -- nothing stands above: the directory there is made first
        have hnone : d.entryAt (p.normalize d.cwd) = none := by
          by_contra hsome
          exact hparent (h.parent _ hsome)
        have hmissing : d.createDirectory p = .error .notFound := by
          rw [h.createDirectory_eq hp, hnone]
          simp only [if_neg hfree]
        obtain ⟨above, habove, hends, hplace, hrank⟩ := hp.exists_parent d.cwd
        have hfree' : ¬ d.Barred (above.normalize d.cwd) := fun hb =>
          hfree (hb.mono (hplace ▸ Location.isWithin_parent _))
        obtain ⟨f, hfirst, hftree, hfdir⟩ := ih h hends hfree' (by omega)
        have hfurnished := (makes_createDirectoriesWithin n d above).furnished
        rw [hfirst] at hfurnished
        have hcwd : f.cwd = d.cwd := hfurnished.cwd_eq
        have hstill : ¬ f.Barred (p.normalize f.cwd) := by
          rw [hcwd]
          rintro ⟨m, hw, bytes, hfile⟩
          exact hfree ⟨m, hw, bytes, (hfurnished.file_iff bytes).1 hfile⟩
        rcases hftree.createDirectory_cases hp (by rw [hcwd, ← hplace, hfdir]) hstill with
          ⟨e, hmade, htree, hdir⟩ | ⟨hmade, hthere, hdir⟩
        · exact ⟨e, by simp [hmissing, habove, hfirst, hmade], htree, hcwd ▸ hdir⟩
        · exact ⟨f, by simp [hmissing, habove, hfirst, hmade, hthere], hftree, hcwd ▸ hdir⟩
    · obtain ⟨hmade, hdir⟩ := h.createDirectoriesWithin_of_isStart hp n
      exact ⟨d, hmade, h, hdir⟩

/-- **With no file in the way the making of directories ends with directories all the way,**
and everything else is as it was. -/
theorem Tree.exists_createDirectories (h : d.Tree) (hp : p.Named ∨ p.IsStart)
    (hfree : ¬ d.Barred (p.normalize d.cwd)) : ∃ e, d.createDirectories p = (e, none) ∧
      e.Tree ∧ e.cwd = d.cwd ∧ ∀ l, e.entryAt l =
        if (p.normalize d.cwd).isWithin l then some .directory else d.entryAt l := by
  have hrank : p.rank < p.segments.length + 1 := Nat.lt_succ_of_le List.countP_le_length
  obtain ⟨e, hmade, htree, hdir⟩ := h.exists_createDirectoriesWithin hp hfree hrank
  have hfurnished := (makes_createDirectories d p).furnished
  rw [createDirectories, hmade] at hfurnished
  refine ⟨e, hmade, htree, hfurnished.cwd_eq, fun l => ?_⟩
  split
  · rename_i hw
    by_cases hl : p.normalize d.cwd = l
    · rw [← hl, hdir]
    · exact htree.directory_of_isWithin (by simp [hdir]) hw hl
  · rename_i hw
    refine (hfurnished.entryAt_cases l).resolve_right ?_
    rintro ⟨hl, -, -⟩
    exact hw (isWithin_of_mem_places_of_not_up (Path.not_up_of_ends hp) hl)

end Disk
end LintWorkspace
