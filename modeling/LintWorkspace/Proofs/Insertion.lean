/-
# An action that is put in is legible

An edit puts an action into a rule that has none, or that has a table for it (`acted`).  It
stands on a line of its own in a section, and between the other fields in a list; there it takes
the gap of the field in whose place it stands.  So an edited document is legible again
(`legible_withAction?`), whatever its rules say.
-/

import LintWorkspace.Proofs.Action
import LintWorkspace.Proofs.Printing
import LintWorkspace.Proofs.Quoting

namespace LintWorkspace
namespace Toml

variable {cs rest g : List Char} {layout : Layout}

/-! ### Keys of one bare name -/

/-- A bare name is read up to where it stops. -/
theorem name?_append {name : List Char} (hne : name ≠ []) (hbare : ∀ c ∈ name, isBare c = true)
    (hrest : Stops isBare rest) : name? (name ++ rest) = some (name, rest) := by
  obtain ⟨htake, hdrop⟩ := span_append hbare hrest
  obtain ⟨c, name', rfl⟩ := List.exists_cons_of_ne_nil hne
  rw [List.cons_append] at htake hdrop ⊢
  rw [name?_of_isBare (hbare c List.mem_cons_self), htake, hdrop]

/-- A key of one bare name with a blank behind it is read. -/
theorem key?_plain {name : String} (hne : name.toList ≠ [])
    (hbare : ∀ c ∈ name.toList, isBare c = true) (rest : List Char) :
    key? (name.toList ++ ' ' :: '=' :: rest) = some (.plain [] name [' '], '=' :: rest) := by
  have hstop : Stops isBare (' ' :: '=' :: rest) := fun c hc => by
    obtain rfl : ' ' = c := by simpa using hc
    decide
  have hstart : Stops isSpace (name.toList ++ ' ' :: '=' :: rest) := fun c hc => by
    obtain ⟨d, name', hname⟩ := List.exists_cons_of_ne_nil hne
    obtain rfl : d = c := by simpa [hname] using hc
    have hd := hbare d (by simp [hname])
    exact isSpace_of_isGap (not_isGap_of_isNameStart (by simp [isNameStart, hd]))
  have hblank : spaces (' ' :: '=' :: rest) = ([' '], '=' :: rest) :=
    spaces_append (g := [' ']) (List.forall_mem_singleton.2 (by decide)) fun c hc => by
      obtain rfl : '=' = c := by simpa using hc
      decide
  have hpart : keyPart? (name.toList ++ ' ' :: '=' :: rest) =
      some (⟨[], name.toList, [' '], name⟩, '=' :: rest) := by
    have hspaces : spaces (name.toList ++ ' ' :: '=' :: rest) =
        ([], name.toList ++ ' ' :: '=' :: rest) := spaces_append (g := []) (by simp) hstart
    rw [keyPart?_eq, hspaces]
    dsimp only
    rw [name?_append hne hbare hstop, Option.map_some, consumed_append, hblank,
      String.ofList_toList]
  have hlength : (name.toList ++ ' ' :: '=' :: rest).length =
      name.toList.length + rest.length + 1 + 1 := by
    simp only [List.length_append, List.length_cons]
    omega
  rw [key?, hlength, keyWithin?, hpart]
  rfl

/-- A key of one bare name is read back behind its gap. -/
theorem spells_keyed?_plain {gap : Reader (List Char)} {before : List Char} {name : String}
    (hbefore : Spells gap (Stops isGap) before before) (hne : name.toList ≠ [])
    (hbare : ∀ c ∈ name.toList, isBare c = true) :
    Spells (keyed? gap) Anything ((Key.plain before name [' ']).text ++ ['='])
      (.plain before name [' ']) := by
  intro rest _
  have hstop : Stops isGap (name.toList ++ ' ' :: '=' :: rest) := fun c hc => by
    obtain ⟨d, name', hname⟩ := List.exists_cons_of_ne_nil hne
    obtain rfl : d = c := by simpa [hname] using hc
    have hd := hbare d (by simp [hname])
    exact not_isGap_of_isNameStart (by simp [isNameStart, hd])
  have htext : (Key.plain before name [' ']).text ++ ['='] ++ rest =
      before ++ (name.toList ++ ' ' :: '=' :: rest) := by
    simp [Key.plain, Key.text]
  rw [htext, keyed?]
  simp only [hbefore _ hstop, key?_plain hne hbare, after?_cons, Option.bind_eq_bind,
    Option.bind_some, Key.plain, Key.after, List.append_nil]

/-- A key starts with the blanks in front of it. -/
theorem exists_head_of_key? {k : Key} (h : key? cs = some (k, rest)) :
    ∃ p ps, k = p :: ps ∧ p.before = (spaces cs).1 := by
  rw [key?] at h
  cases hlength : cs.length with
  | zero =>
    rw [hlength] at h
    cases h
  | succ n =>
    rw [hlength, keyWithin?] at h
    obtain ⟨⟨p, left⟩, hpart, h⟩ := Option.bind_eq_some_iff.1 h
    have hbefore : p.before = (spaces cs).1 := by
      rw [keyPart?_eq] at hpart
      obtain ⟨e, -, he⟩ := Option.map_eq_some_iff.1 hpart
      rw [← (Prod.mk.inj he).1]
    dsimp only at h
    split at h
    · obtain ⟨⟨ps, rest'⟩, -, h⟩ := Option.bind_eq_some_iff.1 h
      exact ⟨p, ps, (Prod.mk.inj (Option.some.inj h)).1.symm, hbefore⟩
    · exact ⟨p, [], (Prod.mk.inj (Option.some.inj h)).1.symm, hbefore⟩

/-- In front of the key of a field stands a gap. -/
theorem exists_gap_of_keyed? {gap : Reader (List Char)} (hgaps : Gaps gap) {k : Key}
    (h : keyed? gap cs = some (k, rest)) :
    ∃ p, k.head? = some p ∧ Spells gap (Stops isGap) p.before p.before := by
  obtain ⟨-, -, g', r, hg', c, text, rfl, hc⟩ := spells_keyed? hgaps h
  obtain ⟨⟨g, left⟩, hg, h⟩ := Option.bind_eq_some_iff.1 h
  obtain ⟨⟨k', left'⟩, hkey, h⟩ := Option.bind_eq_some_iff.1 h
  obtain ⟨left'', -, h⟩ := Option.bind_eq_some_iff.1 h
  obtain ⟨rfl, -⟩ := Prod.mk.inj (Option.some.inj h)
  obtain ⟨rfl, rfl⟩ := Prod.mk.inj (Option.some.inj (hg.symm.trans hg'))
  obtain ⟨p, ps, rfl, hbefore⟩ := exists_head_of_key? hkey
  have hblank : spaces (c :: text) = ([], c :: text) :=
    spaces_append (g := []) (by simp) fun d hd => by
      obtain rfl : c = d := by simpa using hd
      exact isSpace_of_isGap (not_isGap_of_isNameStart hc)
  refine ⟨{ p with before := g ++ p.before }, rfl, ?_⟩
  dsimp only
  rw [hbefore, hblank, List.append_nil]
  exact hgaps.spells hg (by simp)

end Toml

namespace Ruleset

open Toml

variable {layout : Layout} {code action : String} {sev : Severity} {entries : List Entry}
  {doc doc' : Toml.Document} {fields : List (Key × Spaced Node)} {depth : Nat} {node : Node}

/-! ### Setting an action -/

section Acted

variable {α β : Type} {key : α → Key} {key' : β → Key} {set set' : α → α} {added added' : α}
  {xs : List α} {P : α → Prop}

/-- Things with keys, with the action set where there is one.  Otherwise the added thing stands
in the place of what is below the action, or at the end. -/
def acted (key : α → Key) (set : α → α) (added : α) (xs : List α) : List α :=
  if xs.any fun x => (key x).names = ["action"] then
    xs.map fun x => if (key x).names = ["action"] then set x else x
  else (xs.takeWhile fun x => !(key x).isBelow "action") ++ added ::
    (xs.dropWhile fun x => !(key x).isBelow "action").filter fun x => !(key x).isBelow "action"

/-- Things that are changed but for their keys. -/
theorem acted_map {set' : β → β} {added' : β} (change : α → β)
    (hkey : ∀ x, key' (change x) = key x) (hset : ∀ x, set' (change x) = change (set x))
    (hadded : added' = change added) (xs : List α) :
    acted key' set' added' (xs.map change) = (acted key set added xs).map change := by
  have hkeys (p : Key → Bool) : (fun y => p (key' y)) ∘ change = fun x => p (key x) := by
    funext x
    rw [Function.comp_apply, hkey]
  rw [acted, acted, List.any_map, hkeys fun k => k.names = ["action"]]
  split
  · rw [List.map_map, List.map_map]
    refine List.map_congr_left fun x _ => ?_
    rw [Function.comp_apply, Function.comp_apply, hkey]
    split
    · exact hset x
    · rfl
  · rw [List.takeWhile_map, List.dropWhile_map, List.filter_map,
      hkeys fun k => !k.isBelow "action", List.map_append, List.map_cons, hadded]

/-- What all things have and the added one has. -/
theorem forall_mem_acted (h : ∀ x ∈ xs, P x) (hset : ∀ x, P x → P (set x)) (hadded : P added) :
    ∀ x ∈ acted key set added xs, P x := by
  rw [acted]
  split
  · refine List.forall_mem_map.2 fun x hx => ?_
    split
    · exact hset x (h x hx)
    · exact h x hx
  · refine List.forall_mem_append.2 ⟨fun x hx => h x ((List.takeWhile_prefix _).subset hx),
      List.forall_mem_cons.2 ⟨hadded, fun x hx => ?_⟩⟩
    exact h x ((List.dropWhile_suffix _).subset (List.mem_of_mem_filter hx))

theorem acted_ne_nil (hne : xs ≠ []) : acted key set added xs ≠ [] := by
  rw [acted]
  split
  · simpa using hne
  · simp

/-- Without anything below the action the added thing stands at the end. -/
theorem acted_of_not_below (hplain : (xs.any fun x => (key x).names = ["action"]) = false)
    (hbelow : (xs.any fun x => (key x).isBelow "action") = false) :
    acted key set added xs = xs ++ [added] := by
  rw [acted, if_neg (by simp [hplain])]
  rcases first_cases (fun x => (key x).isBelow "action") xs with
    ⟨-, htake, hdrop⟩ | ⟨first, x, rest, rfl, -, -, hsome, -⟩
  · rw [htake, hdrop, List.filter_nil]
  · rw [hbelow] at hsome
    cases hsome

end Acted

/-- An entry with another value. -/
def Entry.withNode (node : Node) (e : Entry) : Entry :=
  { e with value := { e.value with value := node } }

/-- A field with another value. -/
def fieldWithNode (node : Node) (f : Key × Spaced Node) : Key × Spaced Node :=
  (f.1, { f.2 with value := node })

/-- The entry that is added to a rule in a section. -/
def addedEntry (action : String) : Entry :=
  ⟨[], .plain [] "action" [' '], [' '], .ofString action, []⟩

/-- The field that is added to a rule in a list, with the gap of the one in whose place it
stands. -/
def addedField (action : String) (fields : List (Key × Spaced Node)) : Key × Spaced Node :=
  let rest := fields.dropWhile fun f => !f.1.isBelow "action"
  let before := ((rest.head?.bind fun f => f.1.head?).map Toml.KeyPart.before).getD [' ']
  let last := (rest.filter fun f => !f.1.isBelow "action").isEmpty
  (.plain before "action" [' '], ⟨[' '], .ofString action, if last then [' '] else []⟩)

theorem entriesWithAction_eq_acted (action : String) (entries : List Entry) :
    entriesWithAction action entries =
      acted Entry.key (Entry.withNode (.ofString action)) (addedEntry action) entries := by
  rw [entriesWithAction]
  dsimp only
  split
  · rename_i hplain
    rw [acted, if_pos hplain]
    rfl
  · rename_i hplain
    split
    · rw [acted, if_neg hplain]
      rfl
    · rename_i hbelow
      rw [Bool.not_eq_true] at hplain hbelow
      exact (acted_of_not_below hplain hbelow).symm

theorem fieldsWithAction_eq_acted (action : String) (fields : List (Key × Spaced Node)) :
    fieldsWithAction action fields =
      acted Prod.fst (fieldWithNode (.ofString action)) (addedField action fields) fields := by
  rw [fieldsWithAction]
  dsimp only
  split
  · rename_i hplain
    rw [acted, if_pos hplain]
    rfl
  · rename_i hplain
    split
    · rw [acted, if_neg hplain]
      rfl
    · rename_i hbelow
      rw [Bool.not_eq_true] at hplain hbelow
      rw [acted_of_not_below hplain hbelow, addedField]
      rcases first_cases (fun f : Key × Spaced Node => f.1.isBelow "action") fields with
        ⟨-, -, hdrop⟩ | ⟨first, f, rest, rfl, -, -, hsome, -⟩
      · rw [hdrop]
        rfl
      · rw [hbelow] at hsome
        cases hsome

/-! ### Rules in sections -/

theorem spells_nil {gap : Reader (List Char)} (h : gap ['x'] = some ([], ['x']))
    (hgaps : Gaps gap) : Spells gap (Stops isGap) [] [] := hgaps.spells h (by simp)

theorem spells_blank {gap : Reader (List Char)} (h : gap [' ', 'x'] = some ([' '], ['x']))
    (hgaps : Gaps gap) : Spells gap (Stops isGap) [' '] [' '] := hgaps.spells h (by simp)

/-- The line of an action that is put into a section. -/
theorem legibleEntry_addedEntry (layout : Layout) (action : String) :
    LegibleEntry layout (addedEntry action) where
  lead := spells_nil (by decide) gaps_gap?
  key := by
    have hread : key? ("action".toList ++ ' ' :: '=' :: []) =
        some (.plain [] "action" [' '], '=' :: []) :=
      key?_plain (by decide) (List.all_eq_true.1 (by decide)) []
    exact (exists_spells_key? hread).2.2.2
  starts := ⟨'a', "ction ".toList, rfl, by decide⟩
  before := spells_blank (by decide) gaps_blanks?
  value := legible_ofString layout maxDepth action
  after := fun rest _ => by
    rw [addedEntry, List.nil_append, List.singleton_append, lineEnd?_eq]
    rfl

theorem legible_entriesWithAction (h : ∀ e ∈ entries, LegibleEntry layout e) (action : String) :
    ∀ e ∈ entriesWithAction action entries, LegibleEntry layout e := by
  rw [entriesWithAction_eq_acted]
  exact forall_mem_acted h (fun e he => he.replace (legible_ofString layout maxDepth action))
    (legibleEntry_addedEntry layout action)

/-- Sections with the action set are legible. -/
theorem legible_sectionsWithAction {sections : List Section}
    (h : ∀ s ∈ sections, LegibleLine layout (.header s.lead s.ofArray s.key s.trail) ∧
      ∀ e ∈ s.entries, LegibleLine layout (.entry e)) (code action : String) (inside : Bool) :
    ∀ s ∈ sectionsWithAction code action inside sections,
      LegibleLine layout (.header s.lead s.ofArray s.key s.trail) ∧
        ∀ e ∈ s.entries, LegibleLine layout (.entry e) := by
  induction sections generalizing inside with
  | nil => simp [sectionsWithAction]
  | cons s sections ih =>
    obtain ⟨hs, hsections⟩ := List.forall_mem_cons.1 h
    rw [sectionsWithAction]
    split
    · refine List.forall_mem_cons.2 ⟨?_, ih hsections _⟩
      split
      · exact ⟨hs.1, legible_entriesWithAction hs.2 action⟩
      · exact hs
    · split
      · exact ih hsections _
      · exact List.forall_mem_cons.2 ⟨hs, ih hsections _⟩

/-! ### Rules in a list -/

/-- In front of the first of some fields stands a gap. -/
theorem spells_before_head? (h : ∀ f ∈ fields, LegibleField layout (Legible layout depth) f) :
    Spells layout.gap? (Stops isGap)
      (((fields.head?.bind fun f => f.1.head?).map KeyPart.before).getD [' '])
      (((fields.head?.bind fun f => f.1.head?).map KeyPart.before).getD [' ']) := by
  cases fields with
  | nil => exact spells_blank (by cases layout <;> decide) (gaps_layout layout)
  | cons f fields =>
    obtain ⟨p, hp, hgap⟩ :=
      exists_gap_of_keyed? (gaps_layout layout) ((h f List.mem_cons_self).key [] trivial)
    rw [List.head?_cons, Option.bind_some, hp]
    exact hgap

/-- The field of an action that is put into an inline table. -/
theorem legibleField_addedField (h : ∀ f ∈ fields, LegibleField layout (Legible layout depth) f)
    (action : String) : LegibleField layout (Legible layout depth) (addedField action fields) := by
  have hrest : ∀ f ∈ fields.dropWhile fun f => !f.1.isBelow "action",
      LegibleField layout (Legible layout depth) f :=
    fun f hf => h f ((List.dropWhile_suffix _).subset hf)
  refine ⟨spells_keyed?_plain (spells_before_head? hrest) (by decide)
      (List.all_eq_true.1 (by decide)),
    spells_blank (by decide) gaps_blanks?, legible_ofString layout depth action, ?_⟩
  rw [addedField]
  dsimp only
  split
  · exact spells_blank (by cases layout <;> decide) (gaps_layout layout)
  · exact spells_nil (by cases layout <;> decide) (gaps_layout layout)

theorem legible_fieldsWithAction (h : ∀ f ∈ fields, LegibleField layout (Legible layout depth) f)
    (action : String) :
    ∀ f ∈ fieldsWithAction action fields, LegibleField layout (Legible layout depth) f := by
  rw [fieldsWithAction_eq_acted]
  exact forall_mem_acted h
    (fun f hf => ⟨hf.key, hf.value.replace (legible_ofString layout depth action)⟩)
    (legibleField_addedField h action)

theorem fieldsWithAction_ne_nil (hne : fields ≠ []) (action : String) :
    fieldsWithAction action fields ≠ [] := by
  rw [fieldsWithAction_eq_acted]
  exact acted_ne_nil hne

theorem legible_entriesWithNode {name : String} (h : ∀ e ∈ entries, LegibleEntry layout e)
    (hnode : Legible layout maxDepth node) :
    ∀ e ∈ entriesWithNode name node entries, LegibleEntry layout e := by
  refine List.forall_mem_map.2 fun e he => ?_
  split
  · exact (h e he).replace hnode
  · exact h e he

/-- A rule that is an inline table stays legible. -/
theorem legible_nodeWithAction (h : Legible layout depth node)
    (hrule : isRuleNode code node = true) (action : String) :
    Legible layout depth (nodeWithAction action node) := by
  cases node with
  | scalar | array => cases hrule
  | table fields comma tail =>
    cases depth with
    | zero => exact h.elim
    | succ depth =>
      obtain ⟨hlisted, hcomma⟩ := h
      obtain ⟨hfields, -, htail⟩ := listed_iff.1 hlisted
      have hne : fields ≠ [] := by
        rintro rfl
        cases hrule
      have hne' := fieldsWithAction_ne_nil hne action
      refine ⟨listed_iff.2 ⟨legible_fieldsWithAction hfields action, fun h => absurd h hne', ?_⟩,
        hcomma⟩
      simpa [hne, hne'] using htail

theorem legible_itemsWithAction {items : List (Spaced Node)} {comma : Bool} {tail : List Char}
    (h : Legible layout depth (.array items comma tail)) (code action : String) :
    Legible layout depth (.array (items.map (itemWithAction code action)) comma tail) := by
  cases depth with
  | zero => exact h.elim
  | succ depth =>
    refine Listed.map h fun i hi hlegible => ?_
    rw [itemWithAction]
    split
    · rename_i hrule
      exact hlegible.replace (legible_nodeWithAction hlegible.value hrule action)
    · exact hlegible

/-- **A document stays legible** when the action of its rules of a code is set. -/
theorem legible_withAction? (h : withAction? code sev doc = some doc')
    (hlegible : LegibleDocument layout doc) : LegibleDocument layout doc' := by
  obtain ⟨hentries, hsections⟩ := forall_mem_lines.1 hlegible.lines
  rw [withAction?] at h
  split at h
  · obtain rfl := Option.some.inj h
    exact ⟨forall_mem_lines.2 ⟨hentries, legible_sectionsWithAction hsections code sev.text false⟩,
      hlegible.tail⟩
  · obtain ⟨entries, hchange, rfl⟩ := Option.map_eq_some_iff.1 h
    obtain ⟨e, he, -, items, comma, tail, hvalue, rfl⟩ := exists_of_changeValue? hchange
    have hlist : Legible layout maxDepth (.array items comma tail) := hvalue ▸ (hentries e he).value
    exact ⟨forall_mem_lines.2 ⟨legible_entriesWithNode hentries
      (legible_itemsWithAction hlist code sev.text), hsections⟩, hlegible.tail⟩

end Ruleset
end LintWorkspace
