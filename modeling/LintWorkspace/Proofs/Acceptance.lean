/-
# An edited document is accepted again

The editor refuses a document whose tables contradict each other (`Document.fields?`).  An edit
never makes such a document: a rule may be any table, with any other fields below it, and it
still is one when its action is set (`isSome_fields?_change?`).

The two documents are read side by side.  Tables that `AgreeBut` for one name take every other
field alike.  So below a rule only what is written under `action` matters, and there are three
ways it is written:

| the action of the rule | the edit | later sections below `rules.action` |
| --- | --- | --- |
| an entry of its own | replaces the value | there are none, in either document |
| a table, by dotted keys or sections | puts one entry in place of all that | are left out |
| not there | adds an entry | are left out |

`Tracks` says what the two lists of rules have in common on the way.
-/

import LintWorkspace.Proofs.Cutting

namespace LintWorkspace
namespace Toml

variable {a n : String} {t t' u : GrowingTable} {s : Section} {w : Value}
  {f : Origin → Option Growing → Option Growing} {fields : List (Key × Spaced Node)}

/-! ### Tables that agree but for one name -/

/-- Two tables with the same fields but for one name. -/
structure AgreeBut (a : String) (t t' : GrowingTable) : Prop where
  origin : t'.1 = t.1
  same : ∀ n, n ≠ a → lookup? n t'.2 = lookup? n t.2

theorem AgreeBut.refl (a : String) (t : GrowingTable) : AgreeBut a t t := ⟨rfl, fun _ _ => rfl⟩

theorem AgreeBut.setField (h : AgreeBut a t t') (g : Growing) :
    AgreeBut a t (t'.1, Toml.setField a g t'.2) :=
  ⟨h.origin, fun m hm => by rw [lookup?_setField_of_ne (Ne.symm hm), h.same m hm]⟩

/-- Another field is changed in both alike. -/
theorem AgreeBut.changeField? (h : AgreeBut a t t') (hn : n ≠ a)
    (hu : Toml.changeField? n f t = some u) : ∃ u', Toml.changeField? n f t' = some u' ∧
      AgreeBut a u u' ∧ lookup? a u.2 = lookup? a t.2 ∧ lookup? a u'.2 = lookup? a t'.2 := by
  obtain ⟨g, hg, rfl⟩ := Option.map_eq_some_iff.1 hu
  refine ⟨(t'.1, Toml.setField n g t'.2), ?_, ⟨h.origin, fun m hm => ?_⟩,
    lookup?_setField_of_ne hn, lookup?_setField_of_ne hn⟩
  · rw [Toml.changeField?, h.origin, h.same n hn, hg, Option.map_some]
  · rw [lookup?_setField, lookup?_setField, h.same m hm]

/-- What is written under the name itself may be left out. -/
theorem AgreeBut.of_changeField? (h : AgreeBut a t t') (hu : Toml.changeField? a f t = some u) :
    AgreeBut a u t' := by
  obtain ⟨g, -, rfl⟩ := Option.map_eq_some_iff.1 hu
  exact ⟨h.origin, fun m hm => by rw [h.same m hm, lookup?_setField_of_ne (Ne.symm hm)]⟩

/-- A field that is the same in both is changed alike, too. -/
theorem AgreeBut.changeField?_self (h : AgreeBut a t t')
    (hsame : lookup? a t'.2 = lookup? a t.2) (hu : Toml.changeField? a f t = some u) :
    ∃ u', Toml.changeField? a f t' = some u' ∧ AgreeBut a u u' ∧
      lookup? a u'.2 = lookup? a u.2 := by
  obtain ⟨g, hg, rfl⟩ := Option.map_eq_some_iff.1 hu
  refine ⟨(t'.1, Toml.setField a g t'.2), ?_, ⟨h.origin, fun m hm => ?_⟩, ?_⟩
  · rw [Toml.changeField?, h.origin, hsame, hg, Option.map_some]
  · rw [lookup?_setField, lookup?_setField, h.same m hm]
  · rw [lookup?_setField_self, lookup?_setField_self]

/-! ### Fields -/

/-- A field changes what stands under the first name of its key. -/
theorem addField?_shape {key : List String} {v : Value} (h : addField? t key v = some u) :
    ∃ n f, key.head? = some n ∧ ∀ t, addField? t key v = Toml.changeField? n f t := by
  cases key with
  | nil =>
    rw [addField?_eq] at h
    cases h
  | cons n rest =>
    cases rest with
    | nil => exact ⟨n, _, rfl, fun t => addField?_singleton t n v⟩
    | cons m rest =>
      refine ⟨n, fun _ => enter? true (alterAt? true (Toml.changeField?
        ((m :: rest).getLast (by simp)) (newField? false v)) (m :: rest).dropLast), rfl,
        fun t => ?_⟩
      rw [addField?_eq, List.getLast?_eq_some_getLast (by simp), Option.bind_some,
        List.dropLast_cons_of_ne_nil (by simp), alterAt?_cons]
      rfl

theorem growFields?_cons_iff {f : Key × Spaced Node} : growFields? t (f :: fields) = some u ↔
    ∃ v t', itemValue? f.2 = some v ∧ addField? t f.1.names v = some t' ∧
      growFields? t' fields = some u := by
  refine ⟨growFields?_cons, ?_⟩
  rintro ⟨v, t', hv, hadd, hfields⟩
  obtain ⟨key, s⟩ := f
  rw [growFields?, growField?, hv]
  simp only [Option.bind_eq_bind, Option.bind_some, hadd, hfields]

theorem growFields?_append_iff {more : List (Key × Spaced Node)} :
    growFields? t (fields ++ more) = some u ↔
      ∃ t', growFields? t fields = some t' ∧ growFields? t' more = some u := by
  simp only [growFields?_eq, List.foldlM_append, Option.bind_eq_bind, Option.bind_eq_some_iff]

theorem origin_growFields? (h : growFields? t fields = some u) : u.1 = t.1 := by
  induction fields generalizing t with
  | nil =>
    rw [growFields?] at h
    rw [Option.some.inj h]
  | cons f fields ih =>
    obtain ⟨v, t', -, hadd, hfields⟩ := growFields?_cons h
    obtain ⟨n, g, -, hshape⟩ := addField?_shape hadd
    rw [hshape] at hadd
    obtain ⟨x, -, rfl⟩ := Option.map_eq_some_iff.1 hadd
    have horigin := ih hfields
    exact horigin

/-- **Fields under one name may be left out.** -/
theorem AgreeBut.growFields? (h : AgreeBut a t t') (hu : Toml.growFields? t fields = some u) :
    ∃ u', Toml.growFields? t' (fields.filter fun f => f.1.names.head? ≠ some a) = some u' ∧
      AgreeBut a u u' ∧ lookup? a u'.2 = lookup? a t'.2 := by
  induction fields generalizing t t' with
  | nil =>
    rw [Toml.growFields?] at hu
    obtain rfl := Option.some.inj hu
    exact ⟨t', by rw [List.filter_nil, Toml.growFields?], h, rfl⟩
  | cons f fields ih =>
    obtain ⟨v, t₁, hv, hadd, hfields⟩ := growFields?_cons hu
    obtain ⟨n, g, hn, hshape⟩ := addField?_shape hadd
    rw [hshape] at hadd
    by_cases hna : n = a
    · subst hna
      obtain ⟨u', hu', hagree, hsame⟩ := ih (h.of_changeField? hadd) hfields
      rw [List.filter_cons_of_neg (by simp [hn])]
      exact ⟨u', hu', hagree, hsame⟩
    · obtain ⟨t₁', ht₁', hagree, -, hlookup⟩ := h.changeField? hna hadd
      obtain ⟨u', hu', hagree', hsame⟩ := ih hagree hfields
      rw [List.filter_cons_of_pos (by simp [hn, hna])]
      refine ⟨u', growFields?_cons_iff.2 ⟨v, t₁', hv, ?_, hu'⟩, hagree', hsame.trans hlookup⟩
      rw [hshape, ht₁']

/-- Without a field of its own a name only leads further. -/
theorem isBelow_eq {f : Key × Spaced Node} (h : f.1.names ≠ [a]) :
    (!f.1.isBelow a) = decide (f.1.names.head? ≠ some a) := by
  by_cases hhead : f.1.names.head? = some a
  · have hlength : f.1.length ≠ 1 := fun hlength => by
      obtain ⟨rest, hrest⟩ := List.head?_eq_some_iff.1 hhead
      have hone : f.1.names.length = 1 := by rw [Key.names, List.length_map, hlength]
      rw [hrest] at hone h
      exact h (by simpa using hone)
    simp [Key.isBelow, hhead, hlength]
  · simp [Key.isBelow, hhead]

/-- **One field may stand in place of all under its name**, wherever it stands. -/
theorem growFields?_insert {first rest : List (Key × Spaced Node)} {added : Key × Spaced Node}
    (hu : growFields? (.header, []) (first ++ rest) = some u) (hname : added.1.names = [a])
    (hw : itemValue? added.2 = some w) : ∃ u', growFields? (.header, [])
        ((first.filter fun f => f.1.names.head? ≠ some a) ++
          added :: rest.filter fun f => f.1.names.head? ≠ some a) = some u' ∧
      AgreeBut a u u' ∧ lookup? a u'.2 = some (.finished w) := by
  obtain ⟨t, ht, hrest⟩ := growFields?_append_iff.1 hu
  obtain ⟨t₁, ht₁, hagree, hnone⟩ := (AgreeBut.refl a _).growFields? ht
  have horigin : t₁.1 = .header := origin_growFields? ht₁
  have hadd : addField? t₁ [a] w = some (t₁.1, setField a (.finished w) t₁.2) := by
    rw [addField?_singleton, changeField?, hnone, horigin]
    rfl
  obtain ⟨u', hu', hagree', hlookup⟩ := (hagree.setField (.finished w)).growFields? hrest
  rw [lookup?_setField_self] at hlookup
  exact ⟨u', growFields?_append_iff.2 ⟨t₁, ht₁, growFields?_cons_iff.2
    ⟨w, _, hw, by rw [hname, hadd], hu'⟩⟩, hagree', hlookup⟩

end Toml

namespace Ruleset

open Toml

variable {code action : String} {t t' u : GrowingTable} {s : Section} {inside : Bool}
  {fields : List (Key × Spaced Node)} {added : Key × Spaced Node} {entries : List Entry}

/-! ### One rule -/

/-- Fields with the action set. -/
abbrev actedFields (action : String) (added : Key × Spaced Node)
    (fields : List (Key × Spaced Node)) : List (Key × Spaced Node) :=
  acted Prod.fst (fieldWithNode (.ofString action)) added fields

theorem fieldsOf_entriesWithAction (action : String) (entries : List Entry) :
    fieldsOf (entriesWithAction action entries) =
      actedFields action ((addedEntry action).key, (addedEntry action).value)
        (fieldsOf entries) := by
  rw [entriesWithAction_eq_acted, fieldsOf, fieldsOf]
  refine Eq.symm (acted_map _ ?_ ?_ ?_ entries)
  · exact fun e => rfl
  · exact fun e => rfl
  · rfl

/-- **A rule with its action set is the same table but for the action.** -/
theorem growFields?_actedFields (hname : added.1.names = ["action"])
    (hvalue : added.2.value = .ofString action) (hu : growFields? (.header, []) fields = some u) :
    ∃ u', growFields? (.header, []) (actedFields action added fields) = some u' ∧
      AgreeBut "action" u u' ∧ Plain "action" u' ∧
        ((fields.any fun f => f.1.names = ["action"]) = true → Plain "action" u) := by
  have hnode : (Node.ofString action).value? = some (.scalar (.string action)) := rfl
  rw [actedFields, acted]
  split
  · rename_i hplain
    obtain ⟨f, hf, hfname⟩ := List.any_eq_true.1 hplain
    obtain ⟨hold, hnew⟩ :=
      growFields?_withValue hnode ⟨f, hf, of_decide_eq_true hfname⟩ hu
    exact ⟨_, hnew, (AgreeBut.refl "action" u).setField _, ⟨_, lookup?_setField_self⟩,
      fun _ => hold⟩
  · rename_i hplain
    have hbelow : ∀ f ∈ fields,
        (!f.1.isBelow "action") = decide (f.1.names.head? ≠ some "action") := fun f hf =>
      isBelow_eq fun hfname => hplain (List.any_eq_true.2 ⟨f, hf, by simpa using hfname⟩)
    have hfirst : (fields.takeWhile fun f => !f.1.isBelow "action").filter
        (fun f => f.1.names.head? ≠ some "action") =
          fields.takeWhile fun f => !f.1.isBelow "action" := by
      refine List.filter_eq_self.2 fun f hf => ?_
      rw [← hbelow f ((List.takeWhile_prefix _).subset hf)]
      exact List.all_eq_true.1 List.all_takeWhile f hf
    have hrest : (fields.dropWhile fun f => !f.1.isBelow "action").filter
        (fun f => !f.1.isBelow "action") = (fields.dropWhile fun f => !f.1.isBelow "action").filter
          fun f => f.1.names.head? ≠ some "action" :=
      List.filter_congr fun f hf => hbelow f ((List.dropWhile_suffix _).subset hf)
    rw [← List.takeWhile_append_dropWhile (p := fun f => !f.1.isBelow "action") (l := fields)] at hu
    obtain ⟨u', hu', hagree, hlookup⟩ :=
      growFields?_insert hu hname (by rw [itemValue?_eq, hvalue, hnode])
    rw [hfirst] at hu'
    rw [hrest]
    exact ⟨u', hu', hagree, ⟨_, hlookup⟩, fun h => absurd h hplain⟩

/-! ### Rules in sections -/

section Sections

variable {fs fs' gs : GrowingFields} {m : String} {path : List String} {o : Origin}

/-- A section below a table changes what stands under the first name on the way. -/
theorem below_shape (s : Section) (m : String) (path : List String) : ∃ n f,
    (path ++ [m]).head? = some n ∧ Keeps f ∧ ∀ t, below s m path t = changeField? n f t := by
  cases path with
  | nil => exact ⟨m, _, rfl, keeps_newSection? s, fun t => rfl⟩
  | cons n path => exact ⟨n, _, rfl, keeps_enter? _ _, fun t => by rw [below, alterAt?_cons]⟩

/-- What the tables of a rule have in common in the two documents.  While sections below its
action are left out, the edited one has a plain action. -/
structure RulePair (inside : Bool) (fs fs' : GrowingFields) : Prop where
  agree : AgreeBut "action" (.header, fs) (.header, fs')
  dropped : inside = true → Plain "action" (.header, fs')
  kept : inside = false → lookup? "action" fs' = lookup? "action" fs ∨
    Plain "action" (.header, fs) ∧ Plain "action" (.header, fs')

theorem RulePair.refl (fs : GrowingFields) : RulePair false fs fs :=
  ⟨AgreeBut.refl _ _, fun h => absurd h (by simp), fun _ => .inl rfl⟩

theorem origin_changeField? {n : String} {f : Origin → Option Growing → Option Growing}
    (h : changeField? n f t = some u) : u.1 = t.1 := by
  obtain ⟨g, -, rfl⟩ := Option.map_eq_some_iff.1 h
  rfl

/-- A section below both tables that is not left out changes them alike. -/
theorem RulePair.below (h : RulePair inside fs fs')
    (hkept : inside = true → (path ++ [m]).head? ≠ some "action")
    (hbelow : Toml.below s m path (.header, fs) = some (o, gs)) :
    ∃ gs', Toml.below s m path (.header, fs') = some (.header, gs') ∧
      RulePair inside gs gs' := by
  obtain ⟨n, f, hhead, hkeeps, hshape⟩ := below_shape s m path
  rw [hshape] at hbelow
  obtain rfl : o = .header := origin_changeField? hbelow
  by_cases hn : n = "action"
  · subst hn
    cases hinside : inside with
    | true => exact absurd hhead (hkept hinside)
    | false =>
      rcases h.kept hinside with hsame | ⟨⟨v, hv⟩, -⟩
      · obtain ⟨⟨o', gs'⟩, hnew, hagree, hlookup⟩ := h.agree.changeField?_self hsame hbelow
        obtain rfl : o' = .header := hagree.origin
        exact ⟨gs', by rw [hshape, hnew], hagree, fun h => absurd h (by simp),
          fun _ => .inl hlookup⟩
      · rw [changeField?, hv, hkeeps] at hbelow
        cases hbelow
  · obtain ⟨⟨o', gs'⟩, hnew, hagree, hlookup, hlookup'⟩ := h.agree.changeField? hn hbelow
    obtain rfl : o' = .header := hagree.origin
    refine ⟨gs', by rw [hshape, hnew], hagree, fun hinside => ?_, fun hinside => ?_⟩
    · obtain ⟨v, hv⟩ := h.dropped hinside
      exact ⟨v, hlookup'.trans hv⟩
    · rcases h.kept hinside with hsame | ⟨⟨v, hv⟩, ⟨w, hw⟩⟩
      · exact .inl (hlookup'.trans (hsame.trans hlookup.symm))
      · exact .inr ⟨⟨v, hlookup.trans hv⟩, ⟨w, hlookup'.trans hw⟩⟩

/-- A section below the action of the one table may be left out. -/
theorem RulePair.of_below (h : RulePair true fs fs') (hhead : (path ++ [m]).head? = some "action")
    (hbelow : Toml.below s m path (.header, fs) = some (o, gs)) : RulePair true gs fs' := by
  obtain ⟨n, f, hn, -, hshape⟩ := below_shape s m path
  obtain rfl : n = "action" := Option.some.inj (hn.symm.trans hhead)
  rw [hshape] at hbelow
  obtain rfl : o = .header := origin_changeField? hbelow
  exact ⟨h.agree.of_changeField? hbelow, h.dropped, fun h => absurd h (by simp)⟩

/-- The entries of a rule and the edited ones make such tables. -/
theorem rulePair_entries {inner : GrowingTable}
    (h : addEntries? (.header, []) s.entries = some inner) (code action : String) :
    ∃ inner', addEntries? (.header, []) (if s.entries.any fun e => givesCode code e.key e.value then
        entriesWithAction action s.entries else s.entries) = some inner' ∧
      RulePair ((s.entries.any fun e => givesCode code e.key e.value) &&
        !s.entries.any fun e => e.key.names = ["action"]) inner.2 inner'.2 := by
  cases s.entries.any fun e => givesCode code e.key e.value with
  | false => exact ⟨inner, h, RulePair.refl _⟩
  | true =>
    rw [addEntries?_eq] at h
    have hname : ((addedEntry action).key, (addedEntry action).value).1.names = ["action"] := rfl
    obtain ⟨inner', hnew, hagree, hplain, hplain'⟩ := growFields?_actedFields hname rfl h
    have hany : ((fieldsOf s.entries).any fun f => f.1.names = ["action"]) =
        s.entries.any fun e => e.key.names = ["action"] := by
      rw [fieldsOf, List.any_map]
      rfl
    refine ⟨inner', by rw [if_pos rfl, addEntries?_eq, fieldsOf_entriesWithAction, hnew],
      ⟨rfl, hagree.same⟩, fun _ => hplain, fun hfalse => .inr ⟨hplain' ?_, hplain⟩⟩
    rw [hany]
    simpa using hfalse

/-- What two documents have in common in front of their next sections: all but the list of
rules, and of that the last rule is a pair. -/
structure Tracks (inside : Bool) (t t' : GrowingTable) : Prop where
  agree : AgreeBut "rules" t t'
  rules : inside = false ∧ lookup? "rules" t'.2 = lookup? "rules" t.2 ∨
    ∃ init fs init' fs', lookup? "rules" t.2 = some (.tables (init ++ [fs])) ∧
      lookup? "rules" t'.2 = some (.tables (init' ++ [fs'])) ∧ RulePair inside fs fs'

theorem Tracks.refl (t : GrowingTable) : Tracks false t t := ⟨AgreeBut.refl _ _, .inl ⟨rfl, rfl⟩⟩

/-- A rule in a section of its own is added to both lists. -/
theorem Tracks.rule (h : Tracks inside t t') (harray : s.ofArray = true)
    (hname : s.key.names = ["rules"]) (hu : addSection? t s = some u) (code action : String) :
    ∃ u', addSection? t' (if s.entries.any fun e => givesCode code e.key e.value then
        { s with entries := entriesWithAction action s.entries } else s) = some u' ∧
      Tracks ((s.entries.any fun e => givesCode code e.key e.value) &&
        !s.entries.any fun e => e.key.names = ["action"]) u u' := by
  rw [addSection?_single hname] at hu
  obtain ⟨g, hg, rfl⟩ := Option.map_eq_some_iff.1 hu
  obtain ⟨es, inner, hes, hinner, rfl⟩ := lookup?_tables_of_newSection? harray hg
  obtain ⟨inner', hinner', hpair⟩ := rulePair_entries hinner code action
  generalize hs' : (if s.entries.any fun e => givesCode code e.key e.value then
    { s with entries := entriesWithAction action s.entries } else s) = s'
  have hentries : s'.entries = if s.entries.any fun e => givesCode code e.key e.value then
      entriesWithAction action s.entries else s.entries := by
    rw [← hs']
    split <;> rfl
  have harray' : s'.ofArray = true := by
    rw [← hs']
    split <;> exact harray
  have hname' : s'.key.names = ["rules"] := by
    rw [← hs']
    split <;> exact hname
  rw [← hentries] at hinner'
  obtain ⟨es', hes'⟩ : ∃ es', newSection? s' t'.1 (lookup? "rules" t'.2) =
      some (.tables (es' ++ [inner'.2])) := by
    have hnew := newSection?_tables harray' hinner' (o := t'.1)
    rcases h.rules with ⟨-, hsame⟩ | ⟨init, fs, init', fs', -, hlookup', -⟩
    · rcases hes with ⟨hnone, -⟩ | hes
      · refine ⟨[], ?_⟩
        rw [hsame, hnone, newSection?, if_pos harray', hinner']
        rfl
      · exact ⟨es, by rw [hsame, hes, hnew]⟩
    · exact ⟨init' ++ [fs'], by rw [hlookup', hnew]⟩
  refine ⟨(t'.1, setField "rules" (.tables (es' ++ [inner'.2])) t'.2), ?_, ?_, .inr ⟨es, inner.2,
    es', inner'.2, lookup?_setField_self, lookup?_setField_self, hpair⟩⟩
  · rw [addSection?_single hname', changeField?, hes', Option.map_some]
  · exact ⟨h.agree.origin, fun n hn => by
      rw [lookup?_setField_of_ne (Ne.symm hn), lookup?_setField_of_ne (Ne.symm hn),
        h.agree.same n hn]⟩

/-- A section below a list of tables changes the last one. -/
theorem changeField?_last_iff {init : List GrowingFields}
    (h : lookup? "rules" t.2 = some (.tables (init ++ [fs]))) :
    changeField? "rules" (fun _ => enter? false (below s m path)) t = some u ↔
      ∃ o gs, below s m path (.header, fs) = some (o, gs) ∧
        u = (t.1, setField "rules" (.tables (init ++ [gs])) t.2) := by
  rw [changeField?, h]
  simp only [enter?, Bool.false_eq_true, if_false, List.getLast?_concat, Option.bind_some,
    List.dropLast_concat, Option.map_map, Option.map_eq_some_iff, Prod.exists, Function.comp_apply,
    eq_comm (a := u)]

/-- A section below the action of an edited rule may be left out. -/
theorem Tracks.of_dropped (h : Tracks true t t')
    (hdown : ["rules", "action"].isPrefixOf s.key.names = true)
    (hu : addSection? t s = some u) : Tracks true u t' := by
  obtain ⟨rest, hnames⟩ := List.isPrefixOf_iff_prefix.1 hdown
  obtain ⟨n, f, hhead, hshape, hf⟩ := addSection?_shape (names_ne_nil_of_addSection? hu)
  rw [← hnames] at hhead hf
  obtain rfl : "rules" = n := Option.some.inj hhead
  rw [hshape] at hu
  rcases hf with ⟨hsingle, -⟩ | ⟨m, path, hpath, rfl⟩
  · simp at hsingle
  · have hbelow : (path ++ [m]).head? = some "action" := by
      rw [← (List.cons.inj hpath).2]
      rfl
    rcases h.rules with ⟨hfalse, -⟩ | ⟨init, fs, init', fs', hlookup, hlookup', hpair⟩
    · cases hfalse
    · refine ⟨h.agree.of_changeField? hu, .inr ?_⟩
      obtain ⟨o, gs, hgs, rfl⟩ := (changeField?_last_iff hlookup).1 hu
      exact ⟨init, gs, init', fs', lookup?_setField_self, hlookup', hpair.of_below hbelow hgs⟩

/-- Any other section is added to both. -/
theorem Tracks.kept (h : Tracks inside t t') (hu : addSection? t s = some u)
    (hrule : ¬(s.ofArray = true ∧ s.key.names = ["rules"]))
    (hkept : ¬(inside = true ∧ ["rules", "action"].isPrefixOf s.key.names = true)) :
    ∃ u', addSection? t' s = some u' ∧ Tracks inside u u' := by
  obtain ⟨n, f, hhead, hshape, hf⟩ := addSection?_shape (names_ne_nil_of_addSection? hu)
  rw [hshape] at hu ⊢
  by_cases hn : n = "rules"
  · subst hn
    rcases h.rules with ⟨hinside, hsame⟩ | ⟨init, fs, init', fs', hlookup, hlookup', hpair⟩
    · obtain ⟨u', hu', hagree, hsame'⟩ := h.agree.changeField?_self hsame hu
      exact ⟨u', hu', hagree, .inl ⟨hinside, hsame'⟩⟩
    · rcases hf with ⟨hsingle, rfl⟩ | ⟨m, path, hpath, rfl⟩
      · obtain ⟨g, hg, -⟩ := Option.map_eq_some_iff.1 hu
        rw [hlookup] at hg
        exact absurd ⟨ofArray_of_newSection? hg, hsingle⟩ hrule
      · obtain ⟨o, gs, hgs, rfl⟩ := (changeField?_last_iff hlookup).1 hu
        obtain ⟨gs', hgs', hpair'⟩ := hpair.below (fun hinside hbelow => hkept ⟨hinside, by
          obtain ⟨rest, hrest⟩ := List.head?_eq_some_iff.1 hbelow
          rw [hpath, hrest]
          rfl⟩) hgs
        refine ⟨(t'.1, setField "rules" (.tables (init' ++ [gs'])) t'.2),
          (changeField?_last_iff hlookup').2 ⟨_, gs', hgs', rfl⟩, ?_, .inr ⟨init, gs, init', gs',
            lookup?_setField_self, lookup?_setField_self, hpair'⟩⟩
        exact ⟨h.agree.origin, (h.agree.setField _).of_changeField? hu |>.same⟩
  · obtain ⟨u', hu', hagree, hlookup, hlookup'⟩ := h.agree.changeField? hn hu
    exact ⟨u', hu', hagree, by rw [hlookup, hlookup']; exact h.rules⟩

/-- **Sections with the action set** are added as the sections before were. -/
theorem Tracks.exists_foldlM {sections : List Section} (h : Tracks inside t t')
    (hu : sections.foldlM addSection? t = some u) (code action : String) :
    ∃ u', (sectionsWithAction code action inside sections).foldlM addSection? t' = some u' := by
  induction sections generalizing inside t t' with
  | nil => exact ⟨t', rfl⟩
  | cons s sections ih =>
    rw [List.foldlM_cons] at hu
    obtain ⟨t₁, ht₁, hmore⟩ := Option.bind_eq_some_iff.1 hu
    have hadd : ∀ {kept s' t₁'}, addSection? t' s' = some t₁' → Tracks kept t₁ t₁' →
        ∃ u', (s' :: sectionsWithAction code action kept sections).foldlM addSection? t' =
          some u' := by
      intro kept s' t₁' ht₁' htracks
      obtain ⟨u', hu'⟩ := ih htracks hmore
      exact ⟨u', by rw [List.foldlM_cons, ht₁']; exact hu'⟩
    rw [sectionsWithAction]
    split
    · rename_i hrules
      rw [Bool.and_eq_true, decide_eq_true_eq] at hrules
      obtain ⟨t₁', ht₁', htracks⟩ := h.rule hrules.1 hrules.2 ht₁ code action
      exact hadd ht₁' htracks
    · rename_i hrules
      rw [Bool.and_eq_true, decide_eq_true_eq] at hrules
      split
      · rename_i hdropped
        obtain ⟨hinside, hdown⟩ := Bool.and_eq_true_iff.1 hdropped
        subst hinside
        exact ih (h.of_dropped hdown ht₁) hmore
      · rename_i hkept
        rw [Bool.and_eq_true] at hkept
        obtain ⟨t₁', ht₁', htracks⟩ := h.kept ht₁ hrules hkept
        exact hadd ht₁' htracks

end Sections

/-! ### Values -/

variable {items : List (Spaced Node)} {node : Node} {doc doc' : Toml.Document} {name : String}
  {comma : Bool} {tail : List Char}

theorem isSome_itemValues?_iff : (itemValues? items).isSome = true ↔
    ∀ i ∈ items, i.value.value?.isSome = true := by
  induction items with
  | nil => simp [itemValues?]
  | cons i items ih =>
    rw [List.forall_mem_cons, ← ih, itemValues?, itemValue?_eq]
    cases i.value.value? <;> cases itemValues? items <;> simp

/-- A rule with its action set is a table. -/
theorem isSome_value?_itemWithAction {i : Spaced Node} (h : i.value.value?.isSome = true)
    (code action : String) : (itemWithAction code action i).value.value?.isSome = true := by
  rw [itemWithAction]
  split
  · cases hvalue : i.value with
    | scalar | array =>
      rw [hvalue] at h
      exact h
    | table fields comma tail =>
      rw [hvalue, Node.value?, Option.isSome_map] at h
      obtain ⟨u, hu⟩ := Option.isSome_iff_exists.1 h
      have hname : (addedField action fields).1.names = ["action"] := rfl
      obtain ⟨u', hu', -⟩ := growFields?_actedFields hname rfl hu
      dsimp only
      rw [nodeWithAction, fieldsWithAction_eq_acted, Node.value?, ← actedFields, hu']
      rfl
  · exact h

/-- The value of an entry may be replaced. -/
theorem isSome_fields?_entriesWithNode (haccepted : doc.fields?.isSome = true) {e : Entry}
    (he : e ∈ doc.entries) (hname : e.key.names = [name]) (hnode : node.value?.isSome = true) :
    (Toml.Document.fields? ⟨entriesWithNode name node doc.entries, doc.sections,
      doc.tail⟩).isSome = true := by
  obtain ⟨said, hsaid⟩ := Option.isSome_iff_exists.1 haccepted
  obtain ⟨w, hw⟩ := Option.isSome_iff_exists.1 hnode
  rw [fields?_entriesWithNode hsaid he hname hw]
  rfl

theorem isSome_itemValues?_of_entry (haccepted : doc.fields?.isSome = true) {e : Entry}
    (he : e ∈ doc.entries) (hname : e.key.names = [name])
    (hvalue : e.value.value = .array items comma tail) :
    ∀ i ∈ items, i.value.value?.isSome = true := by
  obtain ⟨said, hsaid⟩ := Option.isSome_iff_exists.1 haccepted
  obtain ⟨vs, hvs, -⟩ := exists_itemValues? hsaid he hname hvalue
  exact isSome_itemValues?_iff.1 (by rw [hvs]; rfl)

/-! ### Documents -/

/-- **An edited document is accepted.** -/
theorem isSome_fields?_change? {e : Edit} (h : e.change? doc = some doc')
    (haccepted : doc.fields?.isSome = true) : doc'.fields?.isSome = true := by
  cases e with
  | action code s =>
    rw [Edit.change?, withAction?] at h
    split at h
    · obtain rfl := Option.some.inj h
      obtain ⟨said, hsaid⟩ := Option.isSome_iff_exists.1 haccepted
      obtain ⟨t, u, ht, hu, -⟩ := exists_of_fields? hsaid
      obtain ⟨u', hu'⟩ := (Tracks.refl t).exists_foldlM hu code s.text
      rw [Toml.Document.fields?, addEntries?_eq]
      simp only [ht, hu', Option.bind_eq_bind, Option.bind_some, Option.isSome_some]
    · obtain ⟨entries, hentries, rfl⟩ := Option.map_eq_some_iff.1 h
      obtain ⟨e, he, hname, items, comma, tail, hvalue, rfl⟩ := exists_of_changeValue? hentries
      refine isSome_fields?_entriesWithNode haccepted he hname ?_
      rw [Node.value?, Option.isSome_map, isSome_itemValues?_iff, List.forall_mem_map]
      exact fun i hi => isSome_value?_itemWithAction
        (isSome_itemValues?_of_entry haccepted he hname hvalue i hi) code s.text
  | redirect index target =>
    obtain ⟨e, items, comma, tail, hfind, hvalue, -, rfl⟩ := withImport?_eq_some_iff.1 h
    have he := List.mem_of_find?_eq_some hfind
    have hname : e.key.names = ["imports"] := by simpa using List.find?_some hfind
    refine isSome_fields?_entriesWithNode haccepted he hname ?_
    rw [Node.value?, Option.isSome_map, isSome_itemValues?_iff]
    intro i hi
    rcases mem_itemsWithString hi with hi | ⟨j, -, rfl⟩
    · exact isSome_itemValues?_of_entry haccepted he hname hvalue i hi
    · rfl

end Ruleset
end LintWorkspace
