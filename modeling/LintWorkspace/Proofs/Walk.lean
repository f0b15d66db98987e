/-
# The course of a walk

`Leads` is one step of a walk along a pattern: from a stop with some components
left to another stop with the components that are left then.

| rule | the next component | leads to |
| --- | --- | --- |
| `enter` | has no wildcards, or matches `.` or `..` | the entry that is named |
| `matched` | has wildcards | an entry of the directory that it matches |
| `below` | is `**` | a directory below, with `**` still ahead |
| `after` | is `**` | an entry that the component behind it matches |

A walk finds the files at which such steps use up all components (`mem_walk_iff`).
The bound on its steps leaves room for all of them: a step uses up a component or
goes down one more directory.  So whether the sources of a project are the same on
two disks is a question about steps alone (`findSources_eq_of_iff`).
-/

import LintWorkspace.Proofs.Build
import Mathlib.Data.List.Sort
import Mathlib.Tactic.ByContra

namespace LintWorkspace
namespace Disk

variable {d : Disk} {l : Location} {n : Name}

theorem isSome_entryAt_iff (hl : l ≠ .root) :
    (d.entryAt l).isSome = true ↔ l ∈ d.entries.map Prod.fst := by
  rw [entryAt, if_neg hl, Option.isSome_map, List.find?_isSome, List.mem_map]
  simp only [decide_eq_true_eq]

theorem child_ne_root (l : Location) (n : Name) : l.child n ≠ .root := by
  simp [Location.child, Location.root]

/-- The names in a directory are those of the entries that stand in it. -/
theorem mem_children_iff : n ∈ d.children l ↔ (d.entryAt (l.child n)).isSome = true := by
  rw [isSome_entryAt_iff (child_ne_root l n), children, List.mem_mergeSort, List.mem_filterMap]
  constructor
  · rintro ⟨m, hm, hname⟩
    simp only [below, List.mem_filter, Bool.and_eq_true, decide_eq_true_eq] at hm
    obtain ⟨⟨hmem, hwithin, -⟩, hlength⟩ := hm
    obtain ⟨rest, hrest⟩ := Location.isWithin_iff.1 hwithin
    have hm : m = l.child n := by
      obtain ⟨names⟩ := m
      simp only at hrest hlength
      subst hrest
      rw [List.length_append, Nat.add_left_cancel_iff, List.length_eq_one_iff] at hlength
      obtain ⟨x, rfl⟩ := hlength
      rw [Location.fileName?, List.getLast?_concat, Option.some.injEq] at hname
      rw [Location.child, hname]
    exact hm ▸ hmem
  · intro hmem
    refine ⟨l.child n, ?_, by simp [Location.fileName?, Location.child]⟩
    simp only [below, List.mem_filter, Bool.and_eq_true, decide_eq_true_eq]
    refine ⟨⟨hmem, Location.isWithin_iff.2 (List.prefix_append _ _), fun h => ?_⟩, ?_⟩
    · simpa [Location.child] using congrArg (fun m => m.names.length) h
    · simp [Location.child]

end Disk

namespace Glob

/-- The stop at an entry of the directory at a stop. -/
def Stop.down (s : Stop) (name : Name) : Stop := ⟨s.place.child name, false⟩

/-- A component leads to the entry of a name without looking for it: it has no wildcards,
or it matches one of the special entries. -/
def Pattern.Enters (p : Pattern) (name : String) : Prop :=
  p.literal? = some name ∨ p.literal? = none ∧ name ∈ specials p

instance (p : Pattern) (name : String) : Decidable (p.Enters name) :=
  inferInstanceAs (Decidable (_ ∨ _))

/-- One step of a walk: from a stop with the components that are left there to a stop with
the components that are left then. -/
inductive Leads (d : Disk) : List Pattern → Stop → List Pattern → Stop → Prop
  | enter {p rest s t name} (hname : p.Enters name) (henter : s.enter? d name = some t) :
    Leads d (p :: rest) s rest t
  | matched {p rest s name} (hlit : p.literal? = none) (hflat : p.isRecursive = false)
    (hdir : d.entryAt s.place = some .directory) (hname : name ∈ d.children s.place)
    (hmatch : p.matchesText name.text = true) : Leads d (p :: rest) s rest (s.down name)
  | below {p rest s name} (hlit : p.literal? = none) (hrec : p.isRecursive = true)
    (hdir : d.entryAt s.place = some .directory) (hname : name ∈ d.children s.place)
    (hsub : d.entryAt (s.place.child name) = some .directory) :
    Leads d (p :: rest) s (p :: rest.dropWhile Pattern.isRecursive) (s.down name)
  | after {p q rest rest' s name} (hlit : p.literal? = none) (hrec : p.isRecursive = true)
    (hdir : d.entryAt s.place = some .directory) (hname : name ∈ d.children s.place)
    (hnext : rest.dropWhile Pattern.isRecursive = q :: rest')
    (hmatch : q.matchesText name.text = true) : Leads d (p :: rest) s rest' (s.down name)

/-- The files at which steps from a stop use up all components. -/
inductive Finds (d : Disk) : List Pattern → Stop → Location → Prop
  | last {ps s t bytes} (hstep : Leads d ps s [] t)
    (hfile : d.entryAt t.place = some (.file bytes)) : Finds d ps s t.place
  | step {ps s qs t l} (hstep : Leads d ps s qs t) (hrest : Finds d qs t l) : Finds d ps s l

variable {d : Disk} {p q : Pattern} {ps qs rest : List Pattern} {s t : Stop} {l : Location}
  {n : Nat}

/-! ### The steps of a walk -/

/-- What a walk does with the components that are left after a step. -/
def onward (d : Disk) (n : Nat) (rest : List Pattern) (s : Stop) : List Location :=
  if rest.isEmpty then s.file d else walk d n rest s

theorem mem_file_iff :
    l ∈ s.file d ↔ l = s.place ∧ ∃ bytes, d.entryAt s.place = some (.file bytes) := by
  unfold Stop.file
  split
  · rename_i bytes hfile
    simp [hfile]
  · rename_i hfile
    simp only [List.not_mem_nil, false_iff]
    rintro ⟨-, bytes, h⟩
    exact hfile bytes h

/-- A name is entered from a directory.  An empty one and a dot stay there, and any other
leads to what exists. -/
theorem enter?_eq_some_iff {name : String} : s.enter? d name = some t ↔
    d.entryAt s.place = some .directory ∧
      ((name = "" ∧ s.isBare = false ∨ name = ".") ∧ t = s ∨
        (name ≠ "" ∧ name ≠ ".") ∧ (d.entryAt t.place).isSome = true ∧
          t = ⟨Disk.enterSegment s.place name, false⟩) := by
  unfold Stop.enter?
  by_cases hdir : d.entryAt s.place = some .directory
  · rw [if_neg (not_not.2 hdir)]
    by_cases hempty : name = ""
    · cases hbare : s.isBare with
      | true => simp [hempty]
      | false => simp [hdir, hempty, eq_comm (a := s)]
    · by_cases hdot : name = "."
      · simp [hdir, hdot, eq_comm (a := s)]
      · simp only [hempty, hdot, if_false, hdir, true_and, false_and, or_self, false_or, ne_eq,
          not_false_eq_true, and_self]
        constructor
        · intro h
          split at h
          · rename_i hsome
            obtain rfl := Option.some.inj h
            exact ⟨hsome, rfl⟩
          · simp at h
        · rintro ⟨hsome, rfl⟩
          exact if_pos hsome
  · simp [hdir]

/-- What a walk finds by way of a name that is entered. -/
theorem mem_getD_enter? {name : String} :
    l ∈ ((s.enter? d name).map (onward d n rest)).getD [] ↔
      ∃ t, s.enter? d name = some t ∧ l ∈ onward d n rest t := by
  cases s.enter? d name <;> simp

/-- What a walk finds by way of an entry that a component with wildcards looks at. -/
def visited (d : Disk) (n : Nat) (p : Pattern) (rest : List Pattern) (s : Stop) (name : Name) :
    List Location :=
  let named (q : Pattern) (rest : List Pattern) : List Location :=
    if q.matchesText name.text then onward d n rest (s.down name) else []
  if p.isRecursive then
    let rest := rest.dropWhile Pattern.isRecursive
    (if d.entryAt (s.place.child name) = some .directory then walk d n (p :: rest) (s.down name)
      else []) ++
      match rest with
      | [] => []
      | q :: rest => named q rest
  else named p rest

theorem walk_succ_cons (d : Disk) (n : Nat) (p : Pattern) (rest : List Pattern) (s : Stop) :
    walk d (n + 1) (p :: rest) s =
      match p.literal? with
      | some name => ((s.enter? d name).map (onward d n rest)).getD []
      | none =>
        if d.entryAt s.place ≠ some .directory then []
        else (d.children s.place).flatMap (visited d n p rest s) ++
          (specials p).flatMap fun name => ((s.enter? d name).map (onward d n rest)).getD [] := by
  rw [walk]
  rfl

theorem exists_leads_of_mem_visited {name : Name} (hlit : p.literal? = none)
    (hdir : d.entryAt s.place = some .directory) (hname : name ∈ d.children s.place)
    (h : l ∈ visited d n p rest s name) :
    ∃ qs t, Leads d (p :: rest) s qs t ∧ l ∈ onward d n qs t := by
  unfold visited at h
  by_cases hrec : p.isRecursive = true
  · simp only [hrec, if_true] at h
    rcases List.mem_append.1 h with h | h
    · split at h
      · rename_i hsub
        exact ⟨_, _, .below hlit hrec hdir hname hsub, h⟩
      · simp at h
    · split at h
      · simp at h
      · rename_i q rest' hnext
        split at h
        · rename_i hmatch
          exact ⟨_, _, .after hlit hrec hdir hname hnext hmatch, h⟩
        · simp at h
  · simp only [hrec, Bool.false_eq_true, if_false] at h
    split at h
    · rename_i hmatch
      exact ⟨_, _, .matched hlit (by simpa using hrec) hdir hname hmatch, h⟩
    · simp at h

/-- A walk goes on from wherever one step leads. -/
theorem mem_walk_succ : l ∈ walk d (n + 1) ps s ↔
    ∃ qs t, Leads d ps s qs t ∧ l ∈ onward d n qs t := by
  constructor
  · cases ps with
    | nil => simp [walk]
    | cons p rest =>
      rw [walk_succ_cons]
      cases hlit : p.literal? with
      | some name =>
        simp only [mem_getD_enter?]
        rintro ⟨t, henter, h⟩
        exact ⟨_, t, .enter (.inl hlit) henter, h⟩
      | none =>
        simp only
        split
        · simp
        · rename_i hdir
          simp only [List.mem_append, List.mem_flatMap, mem_getD_enter?]
          rintro (⟨name, hname, h⟩ | ⟨name, hname, t, henter, h⟩)
          · exact exists_leads_of_mem_visited hlit (Decidable.not_not.1 hdir) hname h
          · exact ⟨_, t, .enter (.inr ⟨hlit, hname⟩) henter, h⟩
  · rintro ⟨qs, t, hstep, h⟩
    have hchild : ∀ {p : Pattern} {rest name}, p.literal? = none →
        d.entryAt s.place = some .directory → name ∈ d.children s.place →
        l ∈ visited d n p rest s name → l ∈ walk d (n + 1) (p :: rest) s := by
      intro p rest name hlit hdir hname h
      rw [walk_succ_cons, hlit]
      simp only [hdir, ne_eq, not_true_eq_false, if_false]
      exact List.mem_append_left _ (List.mem_flatMap.2 ⟨name, hname, h⟩)
    cases hstep with
    | @enter p rest _ _ name hname henter =>
      rw [walk_succ_cons]
      rcases hname with hlit | ⟨hlit, hname⟩
      · rw [hlit]
        exact mem_getD_enter?.2 ⟨t, henter, h⟩
      · rw [hlit]
        simp only [(enter?_eq_some_iff.1 henter).1, ne_eq, not_true_eq_false, if_false]
        exact List.mem_append_right _
          (List.mem_flatMap.2 ⟨name, hname, mem_getD_enter?.2 ⟨t, henter, h⟩⟩)
    | matched hlit hflat hdir hname hmatch =>
      refine hchild hlit hdir hname ?_
      simpa [visited, hflat, hmatch] using h
    | below hlit hrec hdir hname hsub =>
      refine hchild hlit hdir hname ?_
      simp only [visited, hrec, if_true, hsub]
      exact List.mem_append_left _ h
    | after hlit hrec hdir hname hnext hmatch =>
      refine hchild hlit hdir hname ?_
      simp only [visited, hrec, if_true, hnext, hmatch]
      exact List.mem_append_right _ h

/-! ### The bound on the steps -/

/-- How many steps a walk can still take: each component that is left can go down through
the whole disk. -/
def room (d : Disk) (ps : List Pattern) (s : Stop) : Nat :=
  ps.length * (depth d + 1) + (depth d - s.place.names.length)

theorem le_foldl_max (ns : List Nat) (m : Nat) :
    m ≤ ns.foldl max m ∧ ∀ n ∈ ns, n ≤ ns.foldl max m := by
  induction ns generalizing m with
  | nil => simp
  | cons n ns ih =>
    obtain ⟨hm, hns⟩ := ih (max m n)
    simp only [List.foldl_cons, List.mem_cons, forall_eq_or_imp]
    exact ⟨by omega, by omega, hns⟩

theorem length_names_le_depth (h : (d.entryAt l).isSome = true) : l.names.length ≤ depth d := by
  by_cases hl : l = .root
  · simp [hl, Location.root]
  · obtain ⟨e, he, rfl⟩ := List.mem_map.1 ((Disk.isSome_entryAt_iff hl).1 h)
    exact (le_foldl_max _ 0).2 _ (List.mem_map.2 ⟨e, he, rfl⟩)

/-- A step uses up a component or goes down. -/
theorem room_lt_room (h : Leads d ps s qs t) : room d qs t < room d ps s := by
  have hshort : ∀ {ps qs : List Pattern} {s t : Stop}, qs.length < ps.length →
      room d qs t < room d ps s := by
    intro ps qs s t hlt
    have := Nat.mul_le_mul_right (depth d + 1) (Nat.succ_le_of_lt hlt)
    rw [Nat.succ_mul] at this
    unfold room
    omega
  cases h with
  | enter | matched => exact hshort (by simp)
  | @after p q rest rest' _ _ _ _ _ _ hnext =>
    refine hshort ?_
    have := (List.dropWhile_sublist (l := rest) Pattern.isRecursive).length_le
    rw [hnext, List.length_cons] at this
    rw [List.length_cons]
    omega
  | @below p rest s name _ _ _ hname =>
    have hdepth := length_names_le_depth (Disk.mem_children_iff.1 hname)
    have hlength : (rest.dropWhile Pattern.isRecursive).length * (depth d + 1) ≤
        rest.length * (depth d + 1) :=
      Nat.mul_le_mul_right _ (List.dropWhile_sublist _).length_le
    simp only [Location.child, List.length_append, List.length_singleton] at hdepth
    simp only [room, Stop.down, Location.child, List.length_append, List.length_cons,
      List.length_nil, Nat.succ_mul]
    omega

/-- **A walk finds what its steps find,** if its bound leaves room for them. -/
theorem mem_walk_iff (hn : room d ps s < n) : l ∈ walk d n ps s ↔ Finds d ps s l := by
  induction n generalizing ps s with
  | zero => omega
  | succ n ih =>
    rw [mem_walk_succ]
    constructor
    · rintro ⟨qs, t, hstep, h⟩
      cases qs with
      | nil =>
        obtain ⟨rfl, bytes, hfile⟩ := mem_file_iff.1 h
        exact .last hstep hfile
      | cons q qs => exact .step hstep ((ih (by have := room_lt_room hstep; omega)).1 h)
    · intro h
      cases h with
      | @last _ _ t bytes hstep hfile => exact ⟨[], t, hstep, mem_file_iff.2 ⟨rfl, bytes, hfile⟩⟩
      | @step _ _ qs t _ hstep hrest =>
        refine ⟨qs, t, hstep, ?_⟩
        cases qs with
        | nil => cases hrest with
          | last h => nomatch h
          | step h => nomatch h
        | cons q qs => exact (ih (by have := room_lt_room hstep; omega)).2 hrest

/-! ### What a pattern finds -/

/-- What the text of a pattern says by itself: whether its walks start at the root, and the
components they take.  Where a text ends with a slash there are none. -/
def trail (text : String) : Except PatternFault (Bool × List Pattern) := do
  let _ ← Pattern.ofText text
  let patterns ← (components text).2.mapM fun cs => Pattern.ofText (String.ofList cs)
  return ((components text).1, if text.endsWith "/" then [] else patterns)

/-- Where a walk starts. -/
def start (d : Disk) (rooted : Bool) : Stop := if rooted then ⟨.root, false⟩ else ⟨d.cwd, true⟩

theorem find_eq (d : Disk) (text : String) :
    find d text = (trail text).map fun e =>
      walk d ((e.2.length + 1) * (depth d + 2)) e.2 (start d e.1) := by
  unfold find trail
  cases Pattern.ofText text with
  | error fault => rfl
  | ok p =>
    simp only [bind, Except.bind]
    cases (components text).2.mapM fun cs => Pattern.ofText (String.ofList cs) with
    | error fault => rfl
    | ok patterns =>
      by_cases hslash : text.endsWith "/" = true
      · simp [hslash, pure, Except.pure, Except.map, walk]
      · simp [hslash, pure, Except.pure, Except.map, start]

/-- **A pattern finds what the steps along its components find.** -/
theorem mem_find_iff {text : String} {ls : List Location} (h : find d text = .ok ls) :
    ∃ e, trail text = .ok e ∧ ∀ l, l ∈ ls ↔ Finds d e.2 (start d e.1) l := by
  rw [find_eq] at h
  obtain ⟨e, htrail, rfl⟩ := map_eq_ok_iff.1 h
  refine ⟨e, htrail, fun l => mem_walk_iff ?_⟩
  unfold room
  rw [Nat.succ_mul, Nat.mul_succ, Nat.mul_succ, Nat.mul_succ]
  omega

end Glob

namespace Project

variable {d e : Disk} {patterns : List Glob.Pattern} {l m : Location} {ls ms : List Location}

/-! ### Locations in order -/

theorem precedes_irrefl (l : Location) : l.precedes l = false := by simp [Location.precedes]

theorem precedes_trans {k : Location} (h : l.precedes m = true) (h' : m.precedes k = true) :
    l.precedes k = true := by
  simp only [Location.precedes, decide_eq_true_eq] at *
  exact List.lt_trans h h'

theorem precedes_asymm (h : l.precedes m = true) : m.precedes l = false := by
  by_contra hnot
  rw [Bool.not_eq_false] at hnot
  exact absurd (precedes_trans h hnot) (by simp [precedes_irrefl])

theorem eq_of_not_precedes (h : l.precedes m = false) (h' : m.precedes l = false) : l = m := by
  simp only [Location.precedes, decide_eq_false_iff_not] at h h'
  have hnames : l.names.map Name.text = m.names.map Name.text := List.le_antisymm h' h
  have hinj : Function.Injective Name.text := fun a b hab => by
    cases a
    cases b
    simpa using hab
  obtain ⟨xs⟩ := l
  obtain ⟨ys⟩ := m
  exact congrArg Location.mk (List.map_injective_iff.2 hinj hnames)

theorem precedes_of_ne (hne : l ≠ m) (h : m.precedes l = false) : l.precedes m = true := by
  by_contra hnot
  exact hne (eq_of_not_precedes (by simpa using hnot) h)

/-- One location before others in order, which may start with it. -/
def insertFirst (l : Location) (rest : List Location) : List Location :=
  if rest.head? = some l then rest else l :: rest

theorem mem_insertFirst : m ∈ insertFirst l ls ↔ m = l ∨ m ∈ ls := by
  unfold insertFirst
  split
  · rename_i hhead
    have := List.mem_of_head? hhead
    constructor
    · exact .inr
    · rintro (rfl | h)
      · exact this
      · exact h
  · exact List.mem_cons

theorem mem_inOrder : l ∈ inOrder ls ↔ l ∈ ls := by
  have hfold : ∀ ls : List Location, l ∈ ls.foldr insertFirst [] ↔ l ∈ ls := by
    intro ls
    induction ls with
    | nil => rfl
    | cons m ls ih => rw [List.foldr_cons, mem_insertFirst, ih, List.mem_cons]
  exact (hfold _).trans List.mem_mergeSort

/-- A location that nothing precedes joins others in order. -/
theorem pairwise_insertFirst (hls : ls.Pairwise fun l m => l.precedes m = true)
    (hl : ∀ m ∈ ls, m.precedes l = false) :
    (insertFirst l ls).Pairwise fun l m => l.precedes m = true := by
  unfold insertFirst
  split
  · exact hls
  · rename_i hhead
    refine List.pairwise_cons.2 ⟨fun m hm => ?_, hls⟩
    refine precedes_of_ne ?_ (hl m hm)
    rintro rfl
    cases ls with
    | nil => simp at hm
    | cons k ls =>
      rcases List.mem_cons.1 hm with rfl | hm
      · exact hhead rfl
      · simpa [hl k List.mem_cons_self] using (List.pairwise_cons.1 hls).1 l hm

theorem pairwise_inOrder (ls : List Location) :
    (inOrder ls).Pairwise fun l m => l.precedes m = true := by
  have hfold : ∀ ls : List Location, (ls.Pairwise fun l m => (!m.precedes l) = true) →
      (ls.foldr insertFirst []).Pairwise (fun l m => l.precedes m = true) ∧
        ∀ m ∈ ls.foldr insertFirst [], m ∈ ls := by
    intro ls hls
    induction ls with
    | nil => simp
    | cons l ls ih =>
      obtain ⟨hl, hls⟩ := List.pairwise_cons.1 hls
      obtain ⟨hpairwise, hmem⟩ := ih hls
      refine ⟨pairwise_insertFirst hpairwise fun m hm => by simpa using hl m (hmem m hm), ?_⟩
      intro m hm
      rw [List.mem_cons]
      exact (mem_insertFirst.1 hm).imp_right (hmem m)
  refine (hfold _ (List.pairwise_mergeSort ?_ ?_ ls)).1
  · intro a b c hab hbc
    simp only [Bool.not_eq_true'] at *
    by_contra hca
    rw [Bool.not_eq_false] at hca
    by_cases hba : a = b
    · subst hba
      simp [hca] at hbc
    · exact absurd (precedes_trans hca (precedes_of_ne hba hab)) (by simp [hbc])
  · intro a b
    cases hba : b.precedes a with
    | false => rfl
    | true => simp [precedes_asymm hba]

/-- Locations in order are determined by which they are. -/
theorem eq_of_pairwise_precedes (hls : ls.Pairwise fun l m => l.precedes m = true)
    (hms : ms.Pairwise fun l m => l.precedes m = true) (h : ∀ l, l ∈ ls ↔ l ∈ ms) : ls = ms := by
  have hnodup : ∀ {ls : List Location}, (ls.Pairwise fun l m => l.precedes m = true) → ls.Nodup :=
    fun hls => hls.imp fun hlm e => by simp [e, precedes_irrefl] at hlm
  refine List.Perm.eq_of_pairwise (fun l m _ _ hlm hml => ?_) hls hms
    ((List.perm_ext_iff_of_nodup (hnodup hls) (hnodup hms)).2 h)
  simp [precedes_asymm hlm] at hml

/-! ### The sources -/

/-- A file that the patterns find on a disk. -/
def Sought (d : Disk) (patterns : List Glob.Pattern) (l : Location) : Prop :=
  ∃ p ∈ patterns, ∃ e, Glob.trail p.text = .ok e ∧ Glob.Finds d e.2 (Glob.start d e.1) l

theorem sought_cons {p : Glob.Pattern} : Sought d (p :: patterns) l ↔
    (∃ e, Glob.trail p.text = .ok e ∧ Glob.Finds d e.2 (Glob.start d e.1) l) ∨
      Sought d patterns l := by
  simp only [Sought, List.mem_cons, exists_eq_or_imp]

/-- What the patterns find is what walks along them find. -/
theorem mem_flatten_mapM {found : List (List Location)}
    (h : (patterns.mapM fun p => (Glob.find d p.text).mapError (ProjectFault.source p.text)) =
      .ok found) : l ∈ found.flatten ↔ Sought d patterns l := by
  induction patterns generalizing found with
  | nil =>
    obtain rfl := Except.ok.inj h
    simp [Sought]
  | cons p patterns ih =>
    obtain ⟨ls, rest, hfind, hrest, rfl⟩ := mapM_cons_eq_ok_iff.1 h
    obtain ⟨e, htrail, hmem⟩ := Glob.mem_find_iff (mapError_eq_ok_iff.1 hfind)
    rw [List.flatten_cons, List.mem_append, ih hrest, hmem, sought_cons]
    refine or_congr_left ⟨fun h => ⟨e, htrail, h⟩, fun ⟨e', htrail', h⟩ => ?_⟩
    obtain rfl := Except.ok.inj (htrail.symm.trans htrail')
    exact h

/-- The sources are what the patterns find, in order. -/
theorem exists_found (h : findSources d patterns = .ok ls) : ∃ found,
    (patterns.mapM fun p => (Glob.find d p.text).mapError (ProjectFault.source p.text)) =
      .ok found ∧ ls = inOrder found.flatten := by
  rw [findSources_eq] at h
  obtain ⟨found, hfound, h⟩ := bind_eq_ok_iff.1 h
  exact ⟨found, hfound, (Except.ok.inj h).symm⟩

theorem mem_findSources (h : findSources d patterns = .ok ls) : l ∈ ls ↔ Sought d patterns l := by
  obtain ⟨found, hfound, rfl⟩ := exists_found h
  rw [mem_inOrder, mem_flatten_mapM hfound]

theorem pairwise_findSources (h : findSources d patterns = .ok ls) :
    ls.Pairwise fun l m => l.precedes m = true := by
  obtain ⟨found, -, rfl⟩ := exists_found h
  exact pairwise_inOrder _

/-- **The sources are the same on two disks if the patterns find the same files there.** -/
theorem findSources_eq_of_iff (hd : findSources d patterns = .ok ls)
    (h : ∀ l, Sought d patterns l ↔ Sought e patterns l) : findSources e patterns = .ok ls := by
  obtain ⟨ms, hms⟩ := findSources_eq_ok e hd
  rw [hms, eq_of_pairwise_precedes (pairwise_findSources hms) (pairwise_findSources hd) fun l => ?_]
  rw [mem_findSources hms, mem_findSources hd, h]

end Project
end LintWorkspace
