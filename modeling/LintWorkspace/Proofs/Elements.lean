/-
# Lists of tables, section by section

A header `[[name]]` adds a table to a list, and a header below `name` changes the last one.
So a document can be run next to another one whose sections differ only in such tables: the
lists stay alike element by element (`pairs_foldlM`), and everything else stays the same.

What the elements have to do for it is one thing, `Steady`: a section below the list changes
both elements of a pair alike.

Seen from one list a section does one of four things (`ListStep`).  So a property of tables
that sections below them do not change (`Stable`) stays with some table of the list that has it
(`some_foldlM`), and with all of them if every table that is added has it (`all_foldlM`).
-/

import LintWorkspace.Proofs.Table
import Mathlib.Data.List.Forall2

namespace LintWorkspace
namespace Toml

/-- The fields of a table that may grow. -/
abbrev GrowingFields := List (String × Growing)

variable {name : String} {s s' : Section} {t t' u : GrowingTable}
  {E : GrowingFields → GrowingFields → Prop} {elements : List GrowingFields}

/-- What a section does to the table its own header leads to from inside a list. -/
abbrev below (s : Section) (m : String) (path : List String) :
    GrowingTable → Option GrowingTable :=
  alterAt? false (changeField? m (newSection? s)) path

theorem addSection?_single {n : String} (hs : s.key.names = [n]) (t : GrowingTable) :
    addSection? t s = changeField? n (newSection? s) t := by
  rw [addSection?_eq, hs]
  rfl

/-- A section changes one field: its own one, or the one that its header passes through. -/
theorem addSection?_shape (hs : s.key.names ≠ []) : ∃ n f,
    s.key.names.head? = some n ∧ (∀ t, addSection? t s = changeField? n f t) ∧
      (s.key.names = [n] ∧ f = newSection? s ∨
        ∃ m path, s.key.names = n :: (path ++ [m]) ∧
          f = fun _ => enter? false (below s m path)) := by
  cases hnames : s.key.names with
  | nil => exact absurd hnames hs
  | cons n rest =>
    cases rest with
    | nil => exact ⟨n, _, rfl, addSection?_single hnames, .inl ⟨rfl, rfl⟩⟩
    | cons m rest =>
      refine ⟨n, _, rfl, fun t => ?_, .inr ⟨(m :: rest).getLast (by simp),
        (m :: rest).dropLast, by rw [List.dropLast_concat_getLast], rfl⟩⟩
      rw [addSection?_eq, hnames, List.getLast?_eq_some_getLast (by simp), Option.bind_some,
        List.dropLast_cons_of_ne_nil (by simp), alterAt?_cons]
      rfl

theorem names_ne_nil_of_addSection? (h : addSection? t s = some u) : s.key.names ≠ [] := by
  rintro hnil
  rw [addSection?_eq, hnil] at h
  simp at h

/-- Elements of which a section below the list makes a pair again. -/
def Steady (E : GrowingFields → GrowingFields → Prop) : Prop :=
  ∀ {s m path o fs gs fs'}, below s m path (.header, fs) = some (o, gs) → E fs fs' →
    ∃ gs', below s m path (.header, fs') = some (o, gs') ∧ E gs gs'

/-- Tables that are the same but for the elements of a list. -/
def Pairs (E : GrowingFields → GrowingFields → Prop) (name : String) (t t' : GrowingTable) : Prop :=
  t' = t ∨ ∃ es es', lookup? name t.2 = some (.tables es) ∧ List.Forall₂ E es es' ∧
    t' = (t.1, setField name (.tables es') t.2)

/-- Sections that are the same, or add a pair of tables to a list. -/
def SectionPair (E : GrowingFields → GrowingFields → Prop) (name : String) (s s' : Section) :
    Prop :=
  s' = s ∨ s.ofArray = true ∧ s.key.names = [name] ∧ s'.ofArray = true ∧ s'.key = s.key ∧
    ∀ {inner}, addEntries? (.header, []) s.entries = some inner →
      ∃ inner', addEntries? (.header, []) s'.entries = some inner' ∧ E inner.2 inner'.2

theorem Pairs.exists_pairs (h : Pairs E name t t') (hE : ∀ fs, E fs fs)
    (hes : lookup? name t.2 = some (.tables elements)) :
    ∃ es', List.Forall₂ E elements es' ∧ t' = (t.1, setField name (.tables es') t.2) := by
  rcases h with rfl | ⟨es, es', hes', hpairs, rfl⟩
  · exact ⟨elements, List.forall₂_same.2 fun fs _ => hE fs, by rw [setField_of_lookup? hes]⟩
  · obtain rfl : elements = es := by simpa [hes] using hes'
    exact ⟨es', hpairs, rfl⟩

theorem lookup?_tables_of_newSection? {o : Origin} {g : Option Growing} {x : Growing}
    (hs : s.ofArray = true) (h : newSection? s o g = some x) : ∃ es inner,
      (g = none ∧ es = [] ∨ g = some (.tables es)) ∧
        addEntries? (.header, []) s.entries = some inner ∧ x = .tables (es ++ [inner.2]) := by
  unfold newSection? at h
  rw [if_pos hs] at h
  obtain ⟨inner, hinner, h⟩ := Option.bind_eq_some_iff.1 h
  cases g with
  | none =>
    obtain rfl := Option.some.inj h
    exact ⟨[], inner, .inl ⟨rfl, rfl⟩, hinner, rfl⟩
  | some g =>
    cases g with
    | finished | table => cases h
    | tables es =>
      obtain rfl := Option.some.inj h
      exact ⟨es, inner, .inr rfl, hinner, rfl⟩

theorem newSection?_tables {o : Origin} {inner : GrowingTable} (hs : s.ofArray = true)
    (hinner : addEntries? (.header, []) s.entries = some inner) (es : List GrowingFields) :
    newSection? s o (some (.tables es)) = some (.tables (es ++ [inner.2])) := by
  unfold newSection?
  rw [if_pos hs, hinner]
  rfl

theorem ofArray_of_newSection? {o : Origin} {es : List GrowingFields} {x : Growing}
    (h : newSection? s o (some (.tables es)) = some x) : s.ofArray = true := by
  cases hs : s.ofArray with
  | true => rfl
  | false =>
    unfold newSection? at h
    simp [hs] at h

theorem exists_of_forall₂_concat {α : Type} {R : α → α → Prop} {xs ys : List α} {x : α}
    (h : List.Forall₂ R (xs ++ [x]) ys) :
    ∃ zs z, List.Forall₂ R xs zs ∧ R x z ∧ ys = zs ++ [z] := by
  induction xs generalizing ys with
  | nil =>
    cases h with
    | cons hz hnil =>
      cases hnil
      exact ⟨[], _, .nil, hz, rfl⟩
  | cons y xs ih =>
    cases h with
    | cons hy hmore =>
      obtain ⟨zs, z, hzs, hz, rfl⟩ := ih hmore
      exact ⟨_ :: zs, z, .cons hy hzs, hz, rfl⟩

/-- A section in double brackets adds a pair of tables. -/
theorem pairs_newSection? (hE : ∀ fs, E fs fs) (hs : s.ofArray = true) (hs' : s'.ofArray = true)
    (hinner : ∀ {inner}, addEntries? (.header, []) s.entries = some inner →
      ∃ inner', addEntries? (.header, []) s'.entries = some inner' ∧ E inner.2 inner'.2)
    (h : Pairs E name t t') (hu : changeField? name (newSection? s) t = some u) :
    ∃ u', changeField? name (newSection? s') t' = some u' ∧ Pairs E name u u' := by
  obtain ⟨x, hx, rfl⟩ := Option.map_eq_some_iff.1 hu
  obtain ⟨es, inner, hes, hentries, rfl⟩ := lookup?_tables_of_newSection? hs hx
  obtain ⟨inner', hentries', hpair⟩ := hinner hentries
  obtain ⟨es', hpairs, hlookup, hsame⟩ : ∃ es', List.Forall₂ E es es' ∧
      newSection? s' t'.1 (lookup? name t'.2) = some (.tables (es' ++ [inner'.2])) ∧
        ∀ x, (t'.1, setField name x t'.2) = (t.1, setField name x t.2) := by
    rcases hes with ⟨hnone, rfl⟩ | hes
    · obtain rfl : t' = t := by
        rcases h with rfl | ⟨es, es', hes, -⟩
        · rfl
        · rw [hnone] at hes
          cases hes
      refine ⟨[], .nil, ?_, fun x => rfl⟩
      rw [hnone]
      unfold newSection?
      rw [if_pos hs', hentries']
      rfl
    · obtain ⟨es', hpairs, rfl⟩ := h.exists_pairs hE hes
      refine ⟨es', hpairs, ?_, fun x => by rw [setField_setField]⟩
      rw [lookup?_setField_self]
      exact newSection?_tables hs' hentries' es'
  refine ⟨_, by rw [changeField?, hlookup, Option.map_some], .inr ⟨es ++ [inner.2],
    es' ++ [inner'.2], lookup?_setField_self, List.rel_append hpairs (.cons hpair .nil), ?_⟩⟩
  rw [hsame, setField_setField]

/-- A section below the list changes its last pair of tables. -/
theorem pairs_enter? (hsteady : Steady E) {m : String} {path : List String}
    (h : Pairs E name t t')
    (hu : changeField? name (fun _ => enter? false (below s m path)) t = some u) :
    ∃ u', changeField? name (fun _ => enter? false (below s m path)) t' = some u' ∧
      Pairs E name u u' := by
  rcases h with rfl | ⟨es, es', hes, hpairs, rfl⟩
  · exact ⟨u, hu, .inl rfl⟩
  · obtain ⟨x, hx, rfl⟩ := Option.map_eq_some_iff.1 hu
    rw [hes] at hx
    simp only [enter?, Bool.false_eq_true, if_false] at hx
    obtain ⟨last, hlast, hx⟩ := Option.bind_eq_some_iff.1 hx
    obtain ⟨⟨o, inner⟩, hinner, rfl⟩ := Option.map_eq_some_iff.1 hx
    obtain ⟨init, rfl⟩ := List.getLast?_eq_some_iff.1 hlast
    obtain ⟨init', last', hinit, hlast', rfl⟩ := exists_of_forall₂_concat hpairs
    obtain ⟨inner', hinner', hpair⟩ := hsteady hinner hlast'
    refine ⟨(t.1, setField name (.tables (init' ++ [inner'])) t.2), ?_, .inr ⟨init ++ [inner],
      init' ++ [inner'], ?_, List.rel_append hinit (.cons hpair .nil), ?_⟩⟩
    · rw [changeField?, lookup?_setField_self]
      simp [enter?, hinner', setField_setField]
    · rw [lookup?_setField_self, List.dropLast_concat]
    · rw [setField_setField]

/-- **A section of one document and its counterpart keep the lists alike.** -/
theorem pairs_addSection? (hE : ∀ fs, E fs fs) (hsteady : Steady E)
    (hpair : SectionPair E name s s') (h : Pairs E name t t') (hu : addSection? t s = some u) :
    ∃ u', addSection? t' s' = some u' ∧ Pairs E name u u' := by
  rcases hpair with rfl | ⟨hs, hname, hs', hkey, hinner⟩
  · obtain ⟨n, f, hhead, hshape, hf⟩ := addSection?_shape (names_ne_nil_of_addSection? hu)
    rw [hshape] at hu ⊢
    by_cases hn : n = name
    · subst hn
      rcases hf with ⟨hsingle, rfl⟩ | ⟨m, path, -, rfl⟩
      · rcases h with rfl | ⟨es, es', hes, hpairs, rfl⟩
        · exact ⟨u, hu, .inl rfl⟩
        · obtain ⟨x, hx, -⟩ := Option.map_eq_some_iff.1 hu
          rw [hes] at hx
          have hs := ofArray_of_newSection? hx
          exact pairs_newSection? hE hs hs (fun h => ⟨_, h, hE _⟩)
            (.inr ⟨es, es', hes, hpairs, rfl⟩) hu
      · exact pairs_enter? hsteady h hu
    · rcases h with rfl | ⟨es, es', hes, hpairs, rfl⟩
      · exact ⟨u, hu, .inl rfl⟩
      · obtain ⟨x, hx, rfl⟩ := Option.map_eq_some_iff.1 hu
        refine ⟨_, by rw [changeField?, lookup?_setField_of_ne (Ne.symm hn), hx, Option.map_some],
          .inr ⟨es, es', by rw [lookup?_setField_of_ne hn, hes], hpairs, ?_⟩⟩
        rw [setField_comm (Ne.symm hn) (by rw [hes]; rfl)]
  · rw [addSection?_single hname] at hu
    rw [addSection?_single (by rw [hkey, hname])]
    exact pairs_newSection? hE hs hs' hinner h hu

/-- **A run over the sections of one document and their counterparts keeps the lists alike.** -/
theorem pairs_foldlM (hE : ∀ fs, E fs fs) (hsteady : Steady E) {sections sections' : List Section}
    (hpairs : List.Forall₂ (SectionPair E name) sections sections') (h : Pairs E name t t')
    (hu : sections.foldlM addSection? t = some u) :
    ∃ u', sections'.foldlM addSection? t' = some u' ∧ Pairs E name u u' := by
  induction hpairs generalizing t t' with
  | nil =>
    obtain rfl := Option.some.inj hu
    exact ⟨t', rfl, h⟩
  | @cons s s' sections sections' hpair _ ih =>
    rw [List.foldlM_cons] at hu
    obtain ⟨t₁, hs, hu⟩ := Option.bind_eq_some_iff.1 hu
    obtain ⟨t₁', hs', h'⟩ := pairs_addSection? hE hsteady hpair h hs
    obtain ⟨u', hu', h''⟩ := ih h' hu
    refine ⟨u', ?_, h''⟩
    rw [List.foldlM_cons, hs']
    exact hu'

/-! ### One list of tables -/

/-- What a section does to the field under a name. -/
inductive ListStep (list : String) (s : Section) (g g' : Option Growing) : Prop
  /-- it is about another name -/
  | same (h : g' = g)
  /-- it adds a table to the list -/
  | add {init : List GrowingFields} {inner : GrowingTable} (harray : s.ofArray = true)
      (hname : s.key.names = [list]) (hg : g = none ∧ init = [] ∨ g = some (.tables init))
      (hinner : addEntries? (.header, []) s.entries = some inner)
      (hg' : g' = some (.tables (init ++ [inner.2])))
  /-- it changes the last table of the list -/
  | last {init : List GrowingFields} {fs gs : GrowingFields} {m : String} {path : List String}
      {o : Origin} (hg : g = some (.tables (init ++ [fs])))
      (hbelow : below s m path (.header, fs) = some (o, gs))
      (hg' : g' = some (.tables (init ++ [gs])))
  /-- it makes a table, where no list was -/
  | table {o : Origin} {fs : GrowingFields} (hg : ∀ es, g ≠ some (.tables es))
      (hg' : g' = some (.table o fs))

theorem listStep_newSection? {o : Origin} {g : Option Growing} {x : Growing}
    (hname : s.key.names = [name]) (h : newSection? s o g = some x) :
    ListStep name s g (some x) := by
  cases hs : s.ofArray with
  | true =>
    obtain ⟨init, inner, hg, hinner, rfl⟩ := lookup?_tables_of_newSection? hs h
    exact .add hs hname hg hinner rfl
  | false =>
    have hg : ∀ es, g ≠ some (.tables es) := by
      rintro es rfl
      rw [ofArray_of_newSection? h] at hs
      cases hs
    unfold newSection? at h
    rw [if_neg (by simp [hs])] at h
    split at h
    · obtain ⟨inner, -, rfl⟩ := Option.map_eq_some_iff.1 h
      exact .table hg rfl
    · obtain ⟨inner, -, rfl⟩ := Option.map_eq_some_iff.1 h
      exact .table hg rfl
    · cases h

theorem listStep_enter? {m : String} {path : List String} {g : Option Growing} {x : Growing}
    (h : enter? false (below s m path) g = some x) : ListStep name s g (some x) := by
  cases g with
  | none =>
    obtain ⟨t, -, rfl⟩ := Option.map_eq_some_iff.1 h
    exact .table (by simp) rfl
  | some g =>
    cases g with
    | finished v => cases h
    | table o fs =>
      simp only [enter?, Bool.false_eq_true, false_and, if_false] at h
      obtain ⟨t, -, rfl⟩ := Option.map_eq_some_iff.1 h
      exact .table (by simp) rfl
    | tables es =>
      simp only [enter?, Bool.false_eq_true, if_false] at h
      obtain ⟨fs, hlast, h⟩ := Option.bind_eq_some_iff.1 h
      obtain ⟨⟨o, gs⟩, hbelow, rfl⟩ := Option.map_eq_some_iff.1 h
      obtain ⟨init, rfl⟩ := List.getLast?_eq_some_iff.1 hlast
      rw [List.dropLast_concat]
      exact .last rfl hbelow rfl

theorem listStep_addSection? (list : String) (h : addSection? t s = some u) :
    ListStep list s (lookup? list t.2) (lookup? list u.2) := by
  obtain ⟨n, f, -, hshape, hf⟩ := addSection?_shape (names_ne_nil_of_addSection? h)
  rw [hshape] at h
  obtain ⟨x, hx, rfl⟩ := Option.map_eq_some_iff.1 h
  rw [lookup?_setField]
  split
  · rename_i hn
    subst hn
    rcases hf with ⟨hname, rfl⟩ | ⟨m, path, -, rfl⟩
    · exact listStep_newSection? hname hx
    · exact listStep_enter? hx
  · exact .same rfl

/-- A property of tables that sections below them do not change. -/
def Stable (P : GrowingFields → Prop) : Prop :=
  ∀ {s m path o fs gs}, below s m path (.header, fs) = some (o, gs) → P fs → P gs

/-- Some table of a list has a property. -/
def SomeElement (list : String) (P : GrowingFields → Prop) (t : GrowingTable) : Prop :=
  ∃ es fs, lookup? list t.2 = some (.tables es) ∧ fs ∈ es ∧ P fs

/-- All tables of a list, if it is one, have a property. -/
def AllElements (list : String) (P : GrowingFields → Prop) (t : GrowingTable) : Prop :=
  ∀ es, lookup? list t.2 = some (.tables es) → ∀ fs ∈ es, P fs

/-- A section adds tables with a property to a list, if any. -/
def Adds (list : String) (P : GrowingFields → Prop) (s : Section) : Prop :=
  s.ofArray = true → s.key.names = [list] →
    ∀ {inner}, addEntries? (.header, []) s.entries = some inner → P inner.2

variable {list : String} {P : GrowingFields → Prop} {sections : List Section}

theorem some_addSection? (hP : Stable P) (h : SomeElement list P t)
    (hu : addSection? t s = some u) : SomeElement list P u := by
  obtain ⟨es, fs, hes, hfs, hprop⟩ := h
  cases listStep_addSection? list hu with
  | same hsame => exact ⟨es, fs, hsame.trans hes, hfs, hprop⟩
  | add _ _ hg _ hg' =>
    rcases hg with ⟨hnone, -⟩ | hg
    · rw [hnone] at hes
      cases hes
    · obtain rfl : _ = es := by simpa [hes] using hg.symm
      exact ⟨_, fs, hg', List.mem_append_left _ hfs, hprop⟩
  | last hg hbelow hg' =>
    obtain rfl : _ = es := by simpa [hes] using hg.symm
    rcases List.mem_append.1 hfs with hfs | hfs
    · exact ⟨_, fs, hg', List.mem_append_left _ hfs, hprop⟩
    · obtain rfl := List.mem_singleton.1 hfs
      exact ⟨_, _, hg', by simp, hP hbelow hprop⟩
  | table hg _ => exact absurd hes (hg es)

theorem some_foldlM (hP : Stable P) (h : SomeElement list P t)
    (hu : sections.foldlM addSection? t = some u) : SomeElement list P u := by
  induction sections generalizing t with
  | nil =>
    obtain rfl := Option.some.inj hu
    exact h
  | cons s sections ih =>
    rw [List.foldlM_cons] at hu
    obtain ⟨t₁, hs, hu⟩ := Option.bind_eq_some_iff.1 hu
    exact ih (some_addSection? hP h hs) hu

/-- A section is added at some point. -/
theorem exists_step_of_mem (hs : s ∈ sections) (hu : sections.foldlM addSection? t = some u) :
    ∃ t₁ t₂ after, addSection? t₁ s = some t₂ ∧
      List.foldlM addSection? t₂ after = some u := by
  obtain ⟨above, after, rfl⟩ := List.append_of_mem hs
  rw [List.foldlM_append] at hu
  obtain ⟨t₁, -, hu⟩ := Option.bind_eq_some_iff.1 hu
  rw [List.foldlM_cons] at hu
  obtain ⟨t₂, hstep, hu⟩ := Option.bind_eq_some_iff.1 hu
  exact ⟨t₁, t₂, after, hstep, hu⟩

/-- The table that a section in double brackets adds to a list is there in the end. -/
theorem some_of_mem_sections (hP : Stable P) (hs : s ∈ sections) (harray : s.ofArray = true)
    (hname : s.key.names = [list]) (hnew : Adds list P s)
    (hu : sections.foldlM addSection? t = some u) : SomeElement list P u := by
  obtain ⟨t₁, t₂, after, hstep, hu⟩ := exists_step_of_mem hs hu
  refine some_foldlM hP ?_ hu
  rw [addSection?_single hname] at hstep
  obtain ⟨x, hx, rfl⟩ := Option.map_eq_some_iff.1 hstep
  obtain ⟨es, inner, -, hinner, rfl⟩ := lookup?_tables_of_newSection? harray hx
  exact ⟨_, inner.2, lookup?_setField_self, by simp, hnew harray hname hinner⟩

theorem all_addSection? (hP : Stable P) (hnew : Adds list P s) (h : AllElements list P t)
    (hu : addSection? t s = some u) : AllElements list P u := by
  intro es hes
  cases listStep_addSection? list hu with
  | same hsame => exact h es (hsame.symm.trans hes)
  | add harray hname hg hinner hg' =>
    obtain rfl : _ = es := by simpa [hes] using hg'.symm
    refine List.forall_mem_append.2 ⟨fun fs hfs => ?_,
      List.forall_mem_singleton.2 (hnew harray hname hinner)⟩
    rcases hg with ⟨-, rfl⟩ | hg
    · cases hfs
    · exact h _ hg fs hfs
  | last hg hbelow hg' =>
    obtain rfl : _ = es := by simpa [hes] using hg'.symm
    obtain ⟨hinit, hlast⟩ := List.forall_mem_append.1 (h _ hg)
    exact List.forall_mem_append.2 ⟨hinit,
      List.forall_mem_singleton.2 (hP hbelow (List.forall_mem_singleton.1 hlast))⟩
  | table _ hg' => simp [hes] at hg'

theorem all_foldlM (hP : Stable P) (hnew : ∀ s ∈ sections, Adds list P s)
    (h : AllElements list P t) (hu : sections.foldlM addSection? t = some u) :
    AllElements list P u := by
  induction sections generalizing t with
  | nil =>
    obtain rfl := Option.some.inj hu
    exact h
  | cons s sections ih =>
    obtain ⟨hfirst, hmore⟩ := List.forall_mem_cons.1 hnew
    rw [List.foldlM_cons] at hu
    obtain ⟨t₁, hs, hu⟩ := Option.bind_eq_some_iff.1 hu
    exact ih hmore (all_addSection? hP hfirst h hs) hu

/-! ### Values of elements -/

/-- A section below a table gives it no finished value. -/
theorem plain_of_below {m : String} {path : List String} (h : below s m path t = some u)
    (hu : Plain name u) : Plain name t := by
  cases path with
  | nil =>
    rw [below, alterAt?] at h
    exact plain_of_changeField? (.inr (opens_newSection? s)) h hu
  | cons first path =>
    rw [below, alterAt?_cons] at h
    exact plain_of_changeField? (.inr (opens_enter? _ _)) h hu

theorem spares_below (s : Section) (m : String) (path : List String) : Spares (below s m path) :=
  spares_alterAt? (spares_changeField? m (keeps_newSection? s))

/-- A section below a table leaves its finished values alone. -/
theorem lookup?_below_iff {m : String} {path : List String} {v : Value}
    (h : below s m path t = some u) :
    lookup? name u.2 = some (.finished v) ↔ lookup? name t.2 = some (.finished v) := by
  constructor
  · intro hv
    obtain ⟨w, hw⟩ := plain_of_below h ⟨v, hv⟩
    obtain ⟨hw', -⟩ := spares_below s m path h hw
    rwa [← hw', hv] at hw
  · exact fun hv => (spares_below s m path h hv).1

/-- Some table of a list has no finished value under a name. -/
def Lacks (list name : String) (t : GrowingTable) : Prop :=
  ∃ es fs, lookup? list t.2 = some (.tables es) ∧ fs ∈ es ∧
    ∀ v, lookup? name fs ≠ some (.finished v)

/-- A section does not give a table of a list the value it lacks. -/
theorem lacks_foldlM (h : Lacks list name t) (hu : sections.foldlM addSection? t = some u) :
    Lacks list name u :=
  some_foldlM (fun hbelow hlacks v hv => hlacks v ((lookup?_below_iff hbelow).1 hv)) h hu

end Toml
end LintWorkspace
