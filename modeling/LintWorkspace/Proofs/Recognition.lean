/-
# Sources that are recognised

The sources of a project are found by walks along its patterns, and a change is weighed
by matching its path against the texts of the same patterns.  A walk that goes down with
every component but the last finds only files whose paths are matched (`matches_of_finds`).
So an added, deleted or renamed source is not filtered out (`recognised`).

A component that does not go down is `.`, `..` or nothing between two slashes, or has
wildcards that match one of the dots, as in `.*`.  The files that are found through it have
paths without it, which the pattern does not match (`not_recognises`).
-/

import LintWorkspace.Proofs.Spelling
import LintWorkspace.Proofs.Parts
import Mathlib.Data.List.DropRight

namespace LintWorkspace
namespace Glob

variable {d : Disk} {p : Pattern} {ps qs : List Pattern} {s t : Stop} {l : Location}

/-- A component goes down: it leads nowhere but to an entry of the directory. -/
def Pattern.GoesDown (p : Pattern) : Prop := ¬ p.Enters "" ∧ ¬ p.Enters "." ∧ ¬ p.Enters ".."

instance (p : Pattern) : Decidable p.GoesDown := inferInstanceAs (Decidable (_ ∧ _))

/-- The components of a walk go down, the last one apart. -/
def DownToLast (ps : List Pattern) : Prop := ∀ q ∈ ps.dropLast, q.GoesDown

instance (ps : List Pattern) : Decidable (DownToLast ps) :=
  inferInstanceAs (Decidable (∀ q ∈ ps.dropLast, q.GoesDown))

/-- A pattern leads down: its components do, up to the last one. -/
def Pattern.LeadsDown (p : Pattern) : Prop := ∀ e, trail p.text = .ok e → DownToLast e.2

theorem downToLast_cons :
    DownToLast (p :: ps) ↔ (ps ≠ [] → p.GoesDown) ∧ DownToLast ps := by
  cases ps with
  | nil => simp [DownToLast]
  | cons q ps => simp [DownToLast]

theorem DownToLast.dropWhile (h : DownToLast ps) (f : Pattern → Bool) :
    DownToLast (ps.dropWhile f) := by
  induction ps with
  | nil => exact h
  | cons p ps ih =>
    rw [List.dropWhile_cons]
    split
    · exact ih (downToLast_cons.1 h).2
    · exact h

/-- Without components nothing is found. -/
theorem Finds.ne_nil (h : Finds d ps s l) : ps ≠ [] := by
  rintro rfl
  cases h with
  | last hstep => cases hstep
  | step hstep => cases hstep

/-- The names of files, written with slashes between them. -/
def slashed (ns : List Name) : List Char := ['/'].intercalate (ns.map fun n => n.text.toList)

theorem slashed_cons (n : Name) {ns : List Name} (hne : ns ≠ []) :
    slashed (n :: ns) = n.text.toList ++ '/' :: slashed ns := by
  rw [slashed, List.map_cons, List.intercalate_cons_of_ne_nil (by simpa using hne)]
  simp [slashed]

/-- Components without a slash name entries. -/
def Slashless (ps : List Pattern) : Prop :=
  ∀ p ∈ ps, ∀ name, p.literal? = some name → '/' ∉ name.toList

/-- A stop that a walk from the root can come to: what is above it is a directory. -/
def Stop.Landed (d : Disk) (s : Stop) : Prop := d.entryAt s.place.parent = some .directory

/-- After `**`, only the components behind it count. -/
theorem joined_true (ps : List Pattern) :
    joined true ps = joined false (ps.dropWhile Pattern.isRecursive) := by
  induction ps with
  | nil => rfl
  | cons p ps ih =>
    cases hrec : p.isRecursive with
    | true => simpa [joined, hrec] using ih
    | false => simp [joined, hrec]

/-- A component without wildcards has a token for each character of its name. -/
theorem tokens_of_literal {name : String} (h : p.literal? = some name) :
    p.tokens = name.toList.map .char := by
  unfold Pattern.literal? at h
  obtain ⟨cs, hcs, rfl⟩ := Option.map_eq_some_iff.1 h
  rw [String.toList_ofList]
  clear h
  generalize p.tokens = ts at hcs
  induction ts generalizing cs with
  | nil =>
    obtain rfl : [] = cs := by simpa using hcs
    rfl
  | cons t ts ih =>
    cases t with
    | char c =>
      rw [List.mapM_cons] at hcs
      obtain ⟨_, ⟨⟩, hcs⟩ := Option.bind_eq_some_iff.1 hcs
      obtain ⟨ds, hds, he⟩ := Option.bind_eq_some_iff.1 hcs
      obtain rfl : c :: ds = cs := Option.some.inj he
      rw [ih ds hds, List.map_cons]
    | anyChar | anyOf _ | noneOf _ | sequence | recursive => simp at hcs

/-- A component without wildcards matches the name it leads to. -/
theorem matchTokens_of_literal {name : String} (h : p.literal? = some name) :
    p.isRecursive = false ∧ matchTokens p.tokens name.toList = true := by
  rw [Pattern.isRecursive, tokens_of_literal h]
  refine ⟨by simp, ?_⟩
  induction name.toList with
  | nil => rfl
  | cons c cs ih => simpa [matchTokens, Token.accepts] using ih

/-- What a step down matches: the name it takes, and what is matched from there on. -/
structure Descent (d : Disk) (ps : List Pattern) (s : Stop) (qs : List Pattern) (t : Stop)
    (name : Name) : Prop where
  place_eq : t.place = s.place.child name
  landed : t.Landed d
  slashless : Slashless qs
  downToLast : DownToLast qs
  last : qs = [] → matchTokens (joined false ps) name.text.toList = true
  before : ∀ cs, qs ≠ [] → matchTokens (joined false qs) cs = true →
    matchTokens (joined false ps) (name.text.toList ++ '/' :: cs) = true

/-- A component that matches a name matches it in front of what the others match. -/
theorem descent_of_matches {rest : List Pattern} {name : Name} (hflat : p.isRecursive = false)
    (hmatch : matchTokens p.tokens name.text.toList = true)
    (hdir : d.entryAt s.place = some .directory) (hplace : t.place = s.place.child name)
    (hslash : Slashless rest) (hdown : DownToLast rest) :
    Descent d (p :: rest) s rest t name := by
  have hrec : Token.recursive ∉ p.tokens := by simpa [Pattern.isRecursive] using hflat
  refine ⟨hplace, ?_, hslash, hdown, fun hlast => ?_, fun cs hne hcs => ?_⟩
  · rw [Stop.Landed, hplace]
    simpa [Location.parent, Location.child] using hdir
  · simpa [joined, hflat, hlast] using hmatch
  · have hjoined : joined false (p :: rest) = p.tokens ++ .char '/' :: joined false rest := by
      simp [joined, hflat, hne]
    rw [hjoined]
    refine matchTokens_append hrec hmatch ?_
    simpa [matchTokens, Token.accepts] using hcs

/-- What is matched without `**` is matched with it in front. -/
theorem Descent.behind {rest : List Pattern} {name : Name} (hrec : p.isRecursive = true)
    (h : Descent d (rest.dropWhile Pattern.isRecursive) s qs t name) :
    Descent d (p :: rest) s qs t name := by
  have hjoined : joined false (p :: rest) =
      .recursive :: joined false (rest.dropWhile Pattern.isRecursive) := by
    simp [joined, hrec, joined_true]
  refine ⟨h.place_eq, h.landed, h.slashless, h.downToLast, fun hlast => ?_, fun cs hne hcs => ?_⟩
  · rw [hjoined]
    exact matchTokens_recursive (h.last hlast)
  · rw [hjoined]
    exact matchTokens_recursive (h.before cs hne hcs)

/-- A directory below `**` is matched in front of what `**` and the others match. -/
theorem descent_below {rest : List Pattern} (name : Name) (hrec : p.isRecursive = true)
    (hdir : d.entryAt s.place = some .directory) (hslash : Slashless (p :: rest))
    (hdown : DownToLast (p :: rest)) :
    Descent d (p :: rest) s (p :: rest.dropWhile Pattern.isRecursive) (s.down name) name := by
  have hjoined : joined false (p :: rest.dropWhile Pattern.isRecursive) =
      joined false (p :: rest) := by
    simp [joined, hrec, joined_true, List.dropWhile_idempotent]
  have hrest := (List.dropWhile_sublist Pattern.isRecursive (l := rest)).subset
  refine ⟨rfl, ?_, ?_, ?_, by simp, fun cs _ hcs => ?_⟩
  · simpa [Stop.Landed, Stop.down, Location.parent, Location.child] using hdir
  · intro q hq
    exact hslash q ((List.cons_subset_cons p hrest) hq)
  · rw [downToLast_cons] at hdown ⊢
    refine ⟨fun hne => hdown.1 fun h => hne (by simp [h]), hdown.2.dropWhile _⟩
  · rw [hjoined] at hcs
    have hrecursive : joined false (p :: rest) = .recursive :: joined true rest := by
      simp [joined, hrec]
    rw [hrecursive] at hcs ⊢
    exact matchTokens_recursive_append hcs _

/-- A name that leads down is the name of an entry. -/
theorem exists_place_eq {name : String} (henter : s.enter? d name = some t) (hs : s.Landed d)
    (hslash : '/' ∉ name.toList)
    (hend : name = "" ∨ name = "." ∨ name = ".." → d.entryAt t.place ≠ some .directory) :
    ∃ n : Name, n.text = name ∧ t.place = s.place.child n := by
  obtain ⟨hdir, ⟨hidle, rfl⟩ | ⟨⟨hempty, hdot⟩, -, rfl⟩⟩ := enter?_eq_some_iff.1 henter
  · exact absurd hdir (hend (hidle.imp And.left .inl))
  · by_cases hup : name = ".."
    · subst hup
      exact absurd hs (hend (.inr (.inr rfl)))
    · let n : Name := ⟨name, hempty, hdot, hup, hslash⟩
      exact ⟨n, rfl, Disk.enterSegment_name s.place n⟩

/-- **Every step of a walk down goes down,** if its components are not used up before it
comes to a file. -/
theorem exists_descent (h : Leads d ps s qs t) (hslash : Slashless ps) (hs : s.Landed d)
    (hdown : DownToLast ps) (hend : qs = [] → d.entryAt t.place ≠ some .directory) :
    ∃ name, Descent d ps s qs t name := by
  cases h with
  | @enter p rest _ _ name hname henter =>
    rw [downToLast_cons] at hdown
    have hrest : Slashless qs := fun q hq => hslash q (List.mem_cons_of_mem p hq)
    -- a name that stays or goes up ends at a directory, and does not go down
    have hdots : name = "" ∨ name = "." ∨ name = ".." → d.entryAt t.place ≠ some .directory := by
      intro hdots
      by_cases hlast : qs = []
      · exact hend hlast
      · obtain ⟨hempty, hdot, hup⟩ := hdown.1 hlast
        rcases hdots with rfl | rfl | rfl
        · exact absurd hname hempty
        · exact absurd hname hdot
        · exact absurd hname hup
    rcases hname with hlit | ⟨-, hspecial⟩
    · obtain ⟨n, rfl, hplace⟩ := exists_place_eq henter hs
        (hslash p List.mem_cons_self name hlit) hdots
      obtain ⟨hflat, hmatch⟩ := matchTokens_of_literal hlit
      exact ⟨n, descent_of_matches hflat hmatch (enter?_eq_some_iff.1 henter).1 hplace hrest
        hdown.2⟩
    · have hname : name = "." ∨ name = ".." := by
        unfold specials at hspecial
        split at hspecial
        · simpa using List.mem_of_mem_filter hspecial
        · simp at hspecial
      have hslashless : '/' ∉ name.toList := by
        rcases hname with rfl | rfl <;> decide
      obtain ⟨n, rfl, -⟩ := exists_place_eq henter hs hslashless hdots
      exact absurd hname (not_or.2 ⟨n.legal.2.1, n.legal.2.2.1⟩)
  | @matched p rest _ name hlit hflat hdir hname hmatch =>
    have hrest : Slashless qs := fun q hq => hslash q (List.mem_cons_of_mem p hq)
    exact ⟨name, descent_of_matches hflat hmatch hdir rfl hrest (downToLast_cons.1 hdown).2⟩
  | @below p rest _ name hlit hrec hdir hname hsub =>
    exact ⟨name, descent_below name hrec hdir hslash hdown⟩
  | @after p q rest _ _ name hlit hrec hdir hname hnext hmatch =>
    have hflat : q.isRecursive = false := by
      have := List.head?_dropWhile_not Pattern.isRecursive rest
      simpa [hnext] using this
    have hrest : Slashless (q :: qs) := fun x hx => hslash x (List.mem_cons_of_mem p
      ((List.dropWhile_sublist Pattern.isRecursive (l := rest)).subset (hnext ▸ hx)))
    have hdown' : DownToLast (q :: qs) := hnext ▸ (downToLast_cons.1 hdown).2.dropWhile _
    refine ⟨name, Descent.behind hrec ?_⟩
    rw [hnext]
    exact descent_of_matches hflat hmatch hdir rfl
      (fun x hx => hrest x (List.mem_cons_of_mem q hx)) (downToLast_cons.1 hdown').2

/-- **What a walk down finds is matched by the tokens of its components.** -/
theorem matches_of_finds (h : Finds d ps s l) (hslash : Slashless ps) (hs : s.Landed d)
    (hdown : DownToLast ps) :
    ∃ ns, ns ≠ [] ∧ l.names = s.place.names ++ ns ∧
      matchTokens (joined false ps) (slashed ns) = true := by
  induction h with
  | @last ps s t bytes hstep hfile =>
    obtain ⟨name, hname⟩ := exists_descent hstep hslash hs hdown fun _ => by simp [hfile]
    refine ⟨[name], by simp, by simp [hname.place_eq, Location.child], ?_⟩
    simpa [slashed] using hname.last rfl
  | @step ps s qs t l hstep hrest ih =>
    have hne := hrest.ne_nil
    obtain ⟨name, hname⟩ := exists_descent hstep hslash hs hdown fun h => absurd h hne
    obtain ⟨ns, hns, hl, hmatch⟩ := ih hname.slashless hname.landed hname.downToLast
    refine ⟨name :: ns, by simp, by simp [hl, hname.place_eq, Location.child], ?_⟩
    rw [slashed_cons name hns]
    exact hname.before _ hne hmatch

/-! ### Patterns and paths -/

/-- The pieces of a text with the separators between them are the text. -/
theorem intercalate_splitOn (sep : Char) (cs : List Char) :
    [sep].intercalate (Text.splitOn sep cs) = cs := by
  induction cs with
  | nil => rfl
  | cons c cs ih =>
    rw [Text.splitOn]
    split
    · rename_i hc
      rw [List.intercalate_cons_of_ne_nil (Text.splitOn_ne_nil sep cs), ih, hc]
      rfl
    · split
      · rename_i hnil
        exact absurd hnil (Text.splitOn_ne_nil sep cs)
      · rename_i piece pieces hpieces
        rw [hpieces] at ih
        cases pieces with
        | nil => simpa using ih
        | cons piece' pieces => simpa [List.intercalate_cons_cons] using ih

theorem endsWith_slash_iff {text : String} :
    text.endsWith "/" = true ↔ text.toList.getLast? = some '/' := by
  have hsuffix : text.endsWith "/" = true ↔ ['/'] <:+ text.toList := by
    rw [String.endsWith, String.Slice.endsWith_string_iff, String.copy_toSlice]
    rfl
  rw [hsuffix, List.getLast?_eq_some_iff]
  exact exists_congr fun _ => eq_comm

/-- A text whose last piece is empty is empty, or ends with the separator. -/
theorem getLast?_of_splitOn {sep : Char} {cs : List Char}
    (h : (Text.splitOn sep cs).getLast? = some []) : cs = [] ∨ cs.getLast? = some sep := by
  induction cs with
  | nil => exact .inl rfl
  | cons c cs ih =>
    right
    obtain ⟨piece, pieces, hpieces⟩ := List.exists_cons_of_ne_nil (Text.splitOn_ne_nil sep cs)
    rw [Text.splitOn, hpieces] at h
    rw [hpieces] at ih
    split at h
    · rename_i hc
      rcases ih (by simpa using h) with rfl | hlast
      · rw [hc]
        rfl
      · rw [List.getLast?_cons, hlast]
        rfl
    · cases pieces with
      | nil => simp at h
      | cons piece' pieces =>
        rcases ih (by simpa using h) with rfl | hlast
        · simp [Text.splitOn] at hpieces
        · rw [List.getLast?_cons, hlast]
          rfl

/-- The path of a location is written as its names, each behind a slash. -/
theorem toList_text_toPath (hl : l.names ≠ []) : l.toPath.text.toList = '/' :: slashed l.names := by
  obtain ⟨names⟩ := l
  cases names with
  | nil => exact absurd rfl hl
  | cons n ns =>
    rw [Location.toPath, Path.text, String.toList_intercalate]
    simp [slashed, List.intercalate_cons_cons, Function.comp_def]

/-- What the trail of a text says, if there are components to take. -/
theorem of_trail_eq_ok {text : String} {rooted : Bool} {cs : List Char}
    (htext : text.toList = '/' :: cs) (h : trail text = .ok (rooted, ps)) (hps : ps ≠ []) :
    rooted = true ∧
      ((Text.splitOn '/' cs).mapM fun cs => Pattern.ofText (String.ofList cs)) = .ok ps := by
  obtain ⟨p, -, h⟩ := bind_eq_ok_iff.1 h
  obtain ⟨patterns, hmap, h⟩ := bind_eq_ok_iff.1 h
  obtain ⟨hrooted, hpatterns⟩ := Prod.mk.inj (Except.ok.inj h)
  by_cases hslash : text.endsWith "/" = true
  · rw [if_pos hslash] at hpatterns
    exact absurd hpatterns.symm hps
  · rw [if_neg hslash] at hpatterns
    subst hpatterns
    have hlast : (Text.splitOn '/' cs).getLast? ≠ some [] := by
      intro h
      refine hslash (endsWith_slash_iff.2 ?_)
      rcases getLast?_of_splitOn h with rfl | hlast
      · rw [htext]
        rfl
      · rw [htext, List.getLast?_cons, hlast]
        rfl
    simp only [components, htext, if_neg hlast] at hrooted hmap
    exact ⟨hrooted.symm, hmap⟩

/-- The components of a text name entries. -/
theorem slashless_of_mapM {pieces : List (List Char)} (hslash : ∀ cs ∈ pieces, '/' ∉ cs)
    (h : (pieces.mapM fun cs => Pattern.ofText (String.ofList cs)) = .ok ps) : Slashless ps := by
  induction pieces generalizing ps with
  | nil =>
    obtain rfl : [] = ps := Except.ok.inj h
    simp [Slashless]
  | cons piece pieces ih =>
    obtain ⟨p, qs, hp, hqs, rfl⟩ := mapM_cons_eq_ok_iff.1 h
    obtain ⟨hpiece, hpieces⟩ := List.forall_mem_cons.1 hslash
    refine List.forall_mem_cons.2 ⟨fun name hname hmem => ?_, ih hpieces hqs⟩
    have htoken : .char '/' ∈ p.tokens := by
      rw [tokens_of_literal hname]
      exact List.mem_map_of_mem hmem
    obtain ⟨htokens, -⟩ := ofText_eq_ok_iff.1 hp
    rw [String.toList_ofList] at htokens
    exact hpiece ((mem_of_char_mem htokens htoken).resolve_left List.not_mem_nil)

/-- A pattern that starts at the root has the tokens of its components behind a slash. -/
theorem tokens_eq_joined {cs : List Char} {rooted : Bool} (hp : Pattern.ofText p.text = .ok p)
    (htext : p.text.toList = '/' :: cs) (htrail : trail p.text = .ok (rooted, ps)) (hps : ps ≠ []) :
    rooted = true ∧ Slashless ps ∧ p.tokens = .char '/' :: joined false ps := by
  obtain ⟨hrooted, hmap⟩ := of_trail_eq_ok htext htrail hps
  have hslash : ∀ piece ∈ Text.splitOn '/' cs, '/' ∉ piece := fun piece hpiece =>
    Text.not_mem_of_mem_splitOn hpiece
  refine ⟨hrooted, slashless_of_mapM hslash hmap, ?_⟩
  have htokens := @tokens?_components (cs.length + 1) (some '/') [.char '/'] _ ps hmap hslash
    (Text.splitOn_ne_nil '/' cs) (by simp) rfl (by rw [intercalate_splitOn]; omega)
  rw [intercalate_splitOn] at htokens
  have hread : Reads ('/' :: cs) (.char '/') '/' cs := .plain (by decide) (by decide) (by decide)
  have hp := (ofText_eq_ok_iff.1 hp).1
  rw [htext, List.length_cons, hread.tokens?_eq, htokens] at hp
  exact (Except.ok.inj hp).symm

/-- **What a pattern finds, its text matches,** if its components go down. -/
theorem matchesText_of_finds {rooted : Bool} {cs : List Char} (hp : Pattern.ofText p.text = .ok p)
    (htext : p.text.toList = '/' :: cs) (htrail : trail p.text = .ok (rooted, ps))
    (hdown : DownToLast ps) (hfinds : Finds d ps (start d rooted) l) :
    p.matchesText l.toPath.text = true := by
  obtain ⟨rfl, hslash, htokens⟩ := tokens_eq_joined hp htext htrail hfinds.ne_nil
  have hroot : (start d true).Landed d := by simp [start, Stop.Landed, Location.parent,
    Location.root, Disk.entryAt]
  obtain ⟨ns, hne, hl, hmatch⟩ := matches_of_finds hfinds hslash hroot hdown
  have hnames : l.names = ns := by simpa [start, Location.root] using hl
  rw [Pattern.matchesText, htokens, toList_text_toPath (by rwa [hnames]), hnames]
  simpa [matchTokens, Token.accepts] using hmatch

end Glob

namespace Project

variable {d : Disk} {dir l : Location} {sources : List String} {patterns : List Glob.Pattern}
  {ls : List Location} {s : Snapshot}

theorem exists_segments {p : Path} (hp : p.isAbsolute = true) :
    ∃ s rest, p = ⟨"" :: s :: rest⟩ := by
  obtain ⟨segments⟩ := p
  unfold Path.isAbsolute at hp
  split at hp
  · rename_i s rest hsegments
    exact ⟨s, rest, congrArg Path.mk hsegments⟩
  · simp at hp

/-- A path below an absolute one is absolute. -/
theorem isAbsolute_join {p q : Path} (hp : p.isAbsolute = true) (hq : q.segments ≠ []) :
    (p.join q).isAbsolute = true := by
  obtain ⟨s, rest, rfl⟩ := exists_segments hp
  obtain ⟨t, more, hmore⟩ := List.exists_cons_of_ne_nil hq
  unfold Path.join
  split
  · rename_i h
    simpa [Path.isEmpty] using h
  · split
    · rw [hmore]
      cases rest <;> rfl
    · rfl

/-- The text of an absolute path starts with a slash. -/
theorem exists_toList_text {p : Path} (hp : p.isAbsolute = true) :
    ∃ cs, p.text.toList = '/' :: cs := by
  obtain ⟨s, rest, rfl⟩ := exists_segments hp
  rw [Path.text, String.toList_intercalate]
  simp [List.intercalate_cons_cons]

theorem isAbsolute_toPath (l : Location) : l.toPath.isAbsolute = true := by
  obtain ⟨names⟩ := l
  cases names <;> rfl

/-- The patterns of a project start at the root. -/
theorem of_mem_patternsBelow (h : patternsBelow dir.toPath sources = .ok patterns)
    {p : Glob.Pattern} (hp : p ∈ patterns) :
    Glob.Pattern.ofText p.text = .ok p ∧ ∃ cs, p.text.toList = '/' :: cs := by
  unfold patternsBelow at h
  induction sources generalizing patterns with
  | nil =>
    obtain rfl : [] = patterns := Except.ok.inj h
    simp at hp
  | cons source sources ih =>
    obtain ⟨q, qs, hq, hqs, rfl⟩ := mapM_cons_eq_ok_iff.1 h
    rcases List.mem_cons.1 hp with rfl | hp
    · have habsolute : (dir.toPath.join (.ofText source)).isAbsolute = true := by
        refine isAbsolute_join (isAbsolute_toPath dir) ?_
        simpa [Path.ofText] using Text.splitOn_ne_nil '/' source.toList
      split at hq
      · rename_i g hofText
        obtain rfl : g = p := Except.ok.inj hq
        have htext : g.text = (dir.toPath.join (.ofText source)).text :=
          (Glob.ofText_eq_ok_iff.1 hofText).2
        rw [htext]
        exact ⟨hofText, exists_toList_text habsolute⟩
      · simp at hq
    · exact ih hqs hp

theorem startsWith_toPath (h : l.isWithin dir = true) :
    l.toPath.startsWith dir.toPath = true := by
  obtain ⟨rest, hrest⟩ := Location.isWithin_iff.1 h
  rw [Path.startsWith, Location.components_toPath, Location.components_toPath,
    List.isPrefixOf_iff_prefix, ← hrest, List.map_append]
  exact List.prefix_append (.root :: dir.names.map Component.name) _

/-- **A source is recognised:** the snapshot that has the patterns admits its path, and if
it is added, deleted or renamed, there is work for the project. -/
theorem recognised (hpatterns : patternsBelow dir.toPath sources = .ok patterns)
    (hdown : ∀ p ∈ patterns, p.LeadsDown) (hfound : findSources d patterns = .ok ls) (hl : l ∈ ls)
    (hwithin : l.isWithin dir = true) (hdir : s.dir = dir) (hs : s.patterns = patterns) :
    s.admits l.toPath = true ∧ ∀ (p : OpenProject) (kind : Change.Kind), p.snapshot = s →
      kind ≠ .modified → p.workFor l kind ≠ .none := by
  have hadmits : s.admits l.toPath = true := by
    obtain ⟨g, hg, ⟨rooted, ps⟩, htrail, hfinds⟩ := (mem_findSources hfound).1 hl
    obtain ⟨hofText, cs, hcs⟩ := of_mem_patternsBelow hpatterns hg
    rw [Snapshot.admits, hdir, startsWith_toPath hwithin, hs, Bool.true_and, List.any_eq_true]
    exact ⟨g, hg, Glob.matchesText_of_finds hofText hcs htrail (hdown g hg _ htrail) hfinds⟩
  refine ⟨hadmits, fun p kind hp hkind => ?_⟩
  subst hp
  simp only [OpenProject.workFor, hadmits, hkind, ne_eq, not_false_eq_true, decide_true,
    Bool.and_self, if_true]
  split
  · decide
  · split
    · decide
    · split <;> decide

end Project

namespace Session
namespace Run

/-- A source that has come below the directory of a project is recognised. -/
theorem recognised_staying :
    ∃ p ls l, staying.project 2 "a" = some p ∧
      Project.findSources (staying.withFiles [("/src/b.cs", "")]) p.snapshot.patterns = .ok ls ∧
      l ∈ ls ∧ p.snapshot.admits l.toPath = true ∧ p.workFor l .added ≠ .none := by
  generalize hl : Path.normalize .root (.ofText "/src/b.cs") = l
  have h : (staying.project 2 "a").any (fun p =>
      (Project.patternsBelow p.snapshot.dir.toPath ["src/**/*.cs"]).toOption =
        some p.snapshot.patterns &&
      (p.snapshot.patterns.all fun g => (Glob.trail g.text).toOption.all fun e =>
        decide (Glob.DownToLast e.2)) &&
      (Project.findSources (staying.withFiles [("/src/b.cs", "")]) p.snapshot.patterns).toOption =
        some [l] &&
      l.isWithin p.snapshot.dir) = true := by
    subst hl
    decide +kernel
  obtain ⟨p, hp, h⟩ := (Option.any_eq_true _ _).1 h
  simp only [Bool.and_eq_true, decide_eq_true_eq] at h
  obtain ⟨⟨⟨hpatterns, hdown⟩, hfound⟩, hwithin⟩ := h
  have hleads : ∀ g ∈ p.snapshot.patterns, g.LeadsDown := fun g hg e he => by
    simpa [he, Except.toOption] using List.all_eq_true.1 hdown g hg
  obtain ⟨hadmits, hwork⟩ := Project.recognised (toOption_eq_some_iff.1 hpatterns) hleads
    (toOption_eq_some_iff.1 hfound) List.mem_cons_self hwithin rfl rfl
  exact ⟨p, [l], l, hp, toOption_eq_some_iff.1 hfound, List.mem_cons_self, hadmits,
    hwork p .added rfl (by decide)⟩

/-! ### Sources that are not recognised -/

/-- The files that one pattern for sources finds below the directory of a project are
recognised when they are deleted. -/
def Recognises (source : String) : Prop :=
  ∀ (p : OpenProject) (d : Disk) (ls : List Location) (l : Location),
    Project.patternsBelow p.snapshot.dir.toPath [source] = .ok p.snapshot.patterns →
    Project.findSources d p.snapshot.patterns = .ok ls → l ∈ ls →
    l.isWithin p.snapshot.dir = true →
    p.snapshot.admits l.toPath = true ∧ p.workFor l .deleted ≠ .none

/-- A project that has one source, and hears nothing when it is deleted. -/
def overlooking (source : String) : Run Unit :=
  opening s!"sources = [\"{source}\"]"
    [("/lib", .directory), ("/src", .directory), ("/src/a.cs", .file .empty)]

theorem not_recognises_of {source : String} (h : ((overlooking source).project 2 "a").any (fun p =>
      (Project.patternsBelow p.snapshot.dir.toPath [source]).toOption = some p.snapshot.patterns &&
      (Project.findSources ((overlooking source).world 2).disk p.snapshot.patterns).toOption =
        some p.snapshot.sources &&
      p.snapshot.sources.any fun l => l.isWithin p.snapshot.dir && p.workFor l .deleted = .none) =
    true) : ¬ Recognises source := by
  intro hall
  obtain ⟨p, hp, h⟩ := (Option.any_eq_true _ _).1 h
  simp only [Bool.and_eq_true, decide_eq_true_eq, List.any_eq_true] at h
  obtain ⟨⟨hpatterns, hfound⟩, l, hl, hwithin, hwork⟩ := h
  exact (hall p _ _ l (toOption_eq_some_iff.1 hpatterns) (toOption_eq_some_iff.1 hfound) hl
    hwithin).2 hwork

/-- **A source can go unrecognised**: where its pattern is written with a dot, with a way
back or with a slash too many. -/
theorem not_recognises :
    ¬ Recognises "./src/*.cs" ∧ ¬ Recognises "lib/../src/*.cs" ∧ ¬ Recognises "src//*.cs" := by
  refine ⟨?_, ?_, ?_⟩
  · exact not_recognises_of (by decide +kernel)
  · exact not_recognises_of (by decide +kernel)
  · exact not_recognises_of (by decide +kernel)

end Run
end Session
end LintWorkspace
