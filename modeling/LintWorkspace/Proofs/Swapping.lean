/-
# Two edits of one document

Edits of different targets change different places of a document, and none changes what another
one looks for.  So they swap: in either order they make the same document, and neither keeps
the other from succeeding (`Edit.swap_change?`).  Of two edits of one target the second decides
(`Edit.overrides_change?`).

| part of a document | two targets | one target |
| --- | --- | --- |
| a rule | at most one of two codes is its code | the action is there, and is set again |
| sections | each edit adds and drops what it would alone | nothing is left to drop |
| an array | other elements | the same elements |
| the values under two names | other entries | |
-/

import LintWorkspace.Proofs.Codes

namespace LintWorkspace
namespace Ruleset

open Toml

/-! ### Changes that may fail -/

section Changes

variable {α β : Type} {f g : α → Option α} {x : α} {whole : β → α} {f' g' : β → Option β} {y : β}

/-- Two changes do the same in either order, and neither keeps the other from succeeding. -/
structure Swap (f g : α → Option α) (x : α) : Prop where
  comm : (f x).bind g = (g x).bind f
  both : (f x).isSome = true → (g x).isSome = true → ((f x).bind g).isSome = true

theorem Swap.symm (h : Swap f g x) : Swap g f x :=
  ⟨h.comm.symm, fun hg hf => h.comm ▸ h.both hf hg⟩

/-- After the one change the other one succeeds if it does without it. -/
theorem Swap.isSome_eq (h : Swap f g x) {x' : α} (hx' : f x = some x') :
    (g x').isSome = (g x).isSome := by
  have hbind : (f x).bind g = g x' := by rw [hx', Option.bind_some]
  cases hg : g x with
  | none => rw [← hbind, h.comm, hg, Option.bind_none]
  | some y =>
    have hsome := h.both (by rw [hx', Option.isSome_some]) (by rw [hg, Option.isSome_some])
    rw [hbind] at hsome
    rw [hsome, Option.isSome_some]

/-- After a change that succeeds another one does what it does without it. -/
def Overrides (g f : α → Option α) (x : α) : Prop := ∀ x', f x = some x' → g x' = g x

/-- Changes with conditions that neither of them touches. -/
theorem Swap.of_ite {p q : Prop} [Decidable p] [Decidable q] {a b c : α}
    (hf : f x = if p then some a else none) (hg : g x = if q then some b else none)
    (hga : g a = if q then some c else none) (hfb : f b = if p then some c else none) :
    Swap f g x := by
  by_cases hp : p
  · by_cases hq : q
    · rw [if_pos hp] at hf hfb
      rw [if_pos hq] at hg hga
      exact ⟨by rw [hf, hg, Option.bind_some, Option.bind_some, hga, hfb],
        fun _ _ => by rw [hf, Option.bind_some, hga, Option.isSome_some]⟩
    · rw [if_pos hp] at hf
      rw [if_neg hq] at hg hga
      exact ⟨by rw [hf, hg, Option.bind_some, Option.bind_none, hga], fun _ hgx => by
        rw [hg] at hgx
        cases hgx⟩
  · by_cases hq : q
    · rw [if_neg hp] at hf hfb
      rw [if_pos hq] at hg
      exact ⟨by rw [hf, hg, Option.bind_some, Option.bind_none, hfb], fun hfx _ => by
        rw [hf] at hfx
        cases hfx⟩
    · rw [if_neg hp] at hf
      rw [if_neg hq] at hg
      exact ⟨by rw [hf, hg, Option.bind_none, Option.bind_none], fun hfx _ => by
        rw [hf] at hfx
        cases hfx⟩

/-- What the two changes do to a part of something they do to the whole. -/
theorem Swap.of_part (hf : f x = (f' y).map whole) (hg : g x = (g' y).map whole)
    (hwhole : ∀ z, f (whole z) = (f' z).map whole) (hwhole' : ∀ z, g (whole z) = (g' z).map whole)
    (h : Swap f' g' y) : Swap f g x := by
  have hfg : (f x).bind g = ((f' y).bind g').map whole := by
    rw [hf, Option.bind_map, Option.map_bind]
    exact congrArg _ (funext hwhole')
  have hgf : (g x).bind f = ((g' y).bind f').map whole := by
    rw [hg, Option.bind_map, Option.map_bind]
    exact congrArg _ (funext hwhole)
  refine ⟨by rw [hfg, hgf, h.comm], fun hfx hgx => ?_⟩
  rw [hf, Option.isSome_map] at hfx
  rw [hg, Option.isSome_map] at hgx
  rw [hfg, Option.isSome_map]
  exact h.both hfx hgx

theorem Overrides.of_part (hf : f x = (f' y).map whole) (hg : g x = (g' y).map whole)
    (hwhole : ∀ z, g (whole z) = (g' z).map whole) (h : Overrides g' f' y) : Overrides g f x := by
  intro x' hx'
  rw [hf] at hx'
  obtain ⟨z, hz, rfl⟩ := Option.map_eq_some_iff.1 hx'
  rw [hwhole, h z hz, hg]

end Changes

/-! ### An action that is set twice -/

section Acted

variable {α : Type} {key : α → Key} {set set' : α → α} {added added' added'' : α} {xs : List α}

/-- After the action is set it is there. -/
theorem any_acted (hkey : ∀ x, key (set x) = key x) (hname : (key added).names = ["action"]) :
    ((acted key set added xs).any fun x => (key x).names = ["action"]) = true := by
  rw [acted]
  split
  · rename_i hplain
    obtain ⟨x, hx, hxname⟩ := List.any_eq_true.1 hplain
    refine List.any_eq_true.2 ⟨_, List.mem_map_of_mem hx, ?_⟩
    rw [if_pos (of_decide_eq_true hxname), hkey]
    exact hxname
  · simp [hname]

/-- **Of an action that is set twice the second value stays.** -/
theorem acted_acted (hset : ∀ x, set' (set x) = set' x) (hkey : ∀ x, key (set x) = key x)
    (hadded : set' added = added') (hname : (key added).names = ["action"]) :
    acted key set' added'' (acted key set added xs) = acted key set' added' xs := by
  rw [acted, if_pos (any_acted hkey hname), acted, acted]
  split
  · rw [List.map_map]
    refine List.map_congr_left fun x _ => ?_
    rw [Function.comp_apply]
    split
    · rename_i hx
      rw [if_pos (by rw [hkey, hx]), hset]
    · rfl
  · rename_i hplain
    have hother : ∀ ys ⊆ xs, ys.map (fun x => if (key x).names = ["action"] then set' x else x) =
        ys := by
      intro ys hys
      refine (List.map_congr_left fun x hx => if_neg fun hxname => ?_).trans (List.map_id ys)
      exact hplain (List.any_eq_true.2 ⟨x, hys hx, by simpa using hxname⟩)
    rw [List.map_append, List.map_cons, if_pos hname, hadded,
      hother _ (List.takeWhile_prefix _).subset,
      hother _ fun x hx => (List.dropWhile_suffix _).subset (List.mem_of_mem_filter hx)]

end Acted

variable {code code' name name' : String}
  {entries : List Entry} {sections : List Section} {doc : Toml.Document}
  {node : Node} {i : Spaced Node} {s : Section} {e e' : Edit}
  {change change' : Node → Option Node}

theorem entriesWithAction_entriesWithAction (action action' : String) (entries : List Entry) :
    entriesWithAction action' (entriesWithAction action entries) =
      entriesWithAction action' entries := by
  rw [entriesWithAction_eq_acted, entriesWithAction_eq_acted, entriesWithAction_eq_acted]
  refine acted_acted ?_ ?_ ?_ ?_
  · exact fun e => rfl
  · exact fun e => rfl
  · rfl
  · rfl

theorem any_action_entriesWithAction (action : String) (entries : List Entry) :
    ((entriesWithAction action entries).any fun e => e.key.names = ["action"]) = true := by
  rw [entriesWithAction_eq_acted]
  refine any_acted ?_ ?_
  · exact fun e => rfl
  · rfl

theorem nodeWithAction_nodeWithAction (action action' : String) (node : Node) :
    nodeWithAction action' (nodeWithAction action node) = nodeWithAction action' node := by
  cases node with
  | scalar | array => rfl
  | table fields comma tail =>
    rw [nodeWithAction, nodeWithAction, nodeWithAction, fieldsWithAction_eq_acted,
      fieldsWithAction_eq_acted, fieldsWithAction_eq_acted action']
    congr 1
    refine acted_acted ?_ ?_ ?_ ?_
    · exact fun f => rfl
    · exact fun f => rfl
    · rfl
    · rfl

/-! ### Rules in sections -/

/-- Whether setting the action of a code drops what is below the action of a section. -/
def dropsBelow (code : String) (s : Section) : Bool :=
  isRuleSection code s && !s.entries.any fun e => e.key.names = ["action"]

theorem dropsBelow_of_not (h : isRuleSection code s = false) : dropsBelow code s = false := by
  rw [dropsBelow, h, Bool.false_and]

/-- A rule in a section, and what the edit does with those behind it. -/
theorem sectionsWithAction_of_rules (hrules : (s.ofArray && s.key.names = ["rules"]) = true)
    (code action : String) (inside : Bool) (sections : List Section) :
    sectionsWithAction code action inside (s :: sections) =
      sectionWithAction code action s ::
        sectionsWithAction code action (dropsBelow code s) sections := by
  rw [sectionsWithAction, if_pos hrules, sectionWithAction, dropsBelow, isRuleSection, hrules,
    Bool.true_and]

theorem sectionsWithAction_of_not_rules
    (hrules : ¬(s.ofArray && s.key.names = ["rules"]) = true) (code action : String)
    (inside : Bool) (sections : List Section) :
    sectionsWithAction code action inside (s :: sections) =
      if inside && ["rules", "action"].isPrefixOf s.key.names then
        sectionsWithAction code action inside sections
      else s :: sectionsWithAction code action inside sections := by
  rw [sectionsWithAction, if_neg hrules]

theorem sectionWithAction_of_not (h : isRuleSection code s = false) (action : String) :
    sectionWithAction code action s = s := by
  rw [sectionWithAction, if_neg (by simp [h])]

theorem rules_sectionWithAction (code action : String) (s : Section) :
    ((sectionWithAction code action s).ofArray &&
      (sectionWithAction code action s).key.names = ["rules"]) =
        (s.ofArray && s.key.names = ["rules"]) := by
  rw [sectionWithAction]
  split <;> rfl

/-- A section stays a rule of the codes that it has. -/
theorem isRuleSection_sectionWithAction (code code' action : String) (s : Section) :
    isRuleSection code' (sectionWithAction code action s) = isRuleSection code' s := by
  rw [isRuleSection, rules_sectionWithAction, isRuleSection, any_givesCode_entries,
    any_givesCode_entries, sectionWithAction]
  split
  · rw [codesOf_entriesWithAction]
  · rfl

theorem sectionWithAction_sectionWithAction (code action action' : String) (s : Section) :
    sectionWithAction code action' (sectionWithAction code action s) =
      sectionWithAction code action' s := by
  cases h : isRuleSection code s with
  | false => rw [sectionWithAction_of_not h]
  | true =>
    have h' := (isRuleSection_sectionWithAction code code action s).trans h
    rw [sectionWithAction, if_pos h', sectionWithAction, if_pos h, sectionWithAction, if_pos h,
      entriesWithAction_entriesWithAction]

/-- When the action is set there is nothing more to drop. -/
theorem dropsBelow_sectionWithAction (code action : String) (s : Section) :
    dropsBelow code (sectionWithAction code action s) = false := by
  cases h : isRuleSection code s with
  | false => rw [sectionWithAction_of_not h, dropsBelow_of_not h]
  | true =>
    rw [dropsBelow, sectionWithAction, if_pos h, any_action_entriesWithAction, Bool.not_true,
      Bool.and_false]

/-- **The actions of two codes** are set in either order, if no section is a rule of both. -/
theorem sectionsWithAction_comm (h : ∀ s ∈ sections, isRuleSection code s = true →
      isRuleSection code' s = false) (action action' : String) (inside inside' : Bool) :
    sectionsWithAction code' action' inside' (sectionsWithAction code action inside sections) =
      sectionsWithAction code action inside
        (sectionsWithAction code' action' inside' sections) := by
  induction sections generalizing inside inside' with
  | nil => rfl
  | cons s sections ih =>
    obtain ⟨hs, hsections⟩ := List.forall_mem_cons.1 h
    by_cases hrules : (s.ofArray && s.key.names = ["rules"]) = true
    · have hrule := fun code action => (rules_sectionWithAction code action s).trans hrules
      rw [sectionsWithAction_of_rules hrules, sectionsWithAction_of_rules hrules,
        sectionsWithAction_of_rules (hrule code action),
        sectionsWithAction_of_rules (hrule code' action'), ih hsections]
      -- at most one of the two edits changes this section
      cases hcode : isRuleSection code s with
      | false =>
        have hcode' := (isRuleSection_sectionWithAction code' code action' s).trans hcode
        rw [sectionWithAction_of_not hcode, sectionWithAction_of_not hcode',
          dropsBelow_of_not hcode, dropsBelow_of_not hcode']
      | true =>
        have hcode₁ := hs hcode
        have hcode' := (isRuleSection_sectionWithAction code code' action s).trans hcode₁
        rw [sectionWithAction_of_not hcode₁, sectionWithAction_of_not hcode',
          dropsBelow_of_not hcode₁, dropsBelow_of_not hcode']
    · rw [sectionsWithAction_of_not_rules hrules, sectionsWithAction_of_not_rules hrules]
      cases hdown : ["rules", "action"].isPrefixOf s.key.names with
      | false =>
        rw [Bool.and_false, Bool.and_false, if_neg (by simp), if_neg (by simp),
          sectionsWithAction_of_not_rules hrules, sectionsWithAction_of_not_rules hrules, hdown,
          Bool.and_false, Bool.and_false, if_neg (by simp), if_neg (by simp), ih hsections]
      | true =>
        cases inside <;> cases inside' <;>
          simp [sectionsWithAction_of_not_rules hrules, hdown, ih hsections]

/-- **Of two actions of one code** the second stays. -/
theorem sectionsWithAction_sectionsWithAction (code action action' : String) (inside : Bool)
    (sections : List Section) :
    sectionsWithAction code action' false (sectionsWithAction code action inside sections) =
      sectionsWithAction code action' inside sections := by
  induction sections generalizing inside with
  | nil => rfl
  | cons s sections ih =>
    by_cases hrules : (s.ofArray && s.key.names = ["rules"]) = true
    · rw [sectionsWithAction_of_rules hrules, sectionsWithAction_of_rules hrules,
        sectionsWithAction_of_rules ((rules_sectionWithAction code action s).trans hrules),
        dropsBelow_sectionWithAction, sectionWithAction_sectionWithAction, ih]
    · rw [sectionsWithAction_of_not_rules hrules, sectionsWithAction_of_not_rules hrules]
      split
      · exact ih inside
      · rw [sectionsWithAction_of_not_rules hrules, Bool.false_and, if_neg (by simp), ih]

/-- An edit leaves the sections that are rules of a code. -/
theorem any_isRuleSection_sectionsWithAction (code code' action : String) (inside : Bool)
    (sections : List Section) :
    (sectionsWithAction code action inside sections).any (isRuleSection code') =
      sections.any (isRuleSection code') := by
  induction sections generalizing inside with
  | nil => rfl
  | cons s sections ih =>
    by_cases hrules : (s.ofArray && s.key.names = ["rules"]) = true
    · rw [sectionsWithAction_of_rules hrules, List.any_cons, List.any_cons,
        isRuleSection_sectionWithAction, ih]
    · have hother : isRuleSection code' s = false := by
        rw [isRuleSection, Bool.eq_false_iff.2 hrules, Bool.false_and]
      rw [sectionsWithAction_of_not_rules hrules, List.any_cons, hother, Bool.false_or]
      split
      · exact ih inside
      · rw [List.any_cons, hother, Bool.false_or, ih]

/-! ### Rules in a list -/

/-- A value stays a rule of the codes that it has. -/
theorem isRuleNode_itemWithAction (code code' action : String) (i : Spaced Node) :
    isRuleNode code' (itemWithAction code action i).value = isRuleNode code' i.value := by
  rw [itemWithAction]
  split
  · rw [isRuleNode_eq, isRuleNode_eq, codesOf_nodeWithAction]
  · rfl

theorem itemWithAction_of_not (h : isRuleNode code i.value = false) (action : String) :
    itemWithAction code action i = i := by
  rw [itemWithAction, if_neg (by simp [h])]

theorem itemWithAction_itemWithAction (code action action' : String) (i : Spaced Node) :
    itemWithAction code action' (itemWithAction code action i) =
      itemWithAction code action' i := by
  cases h : isRuleNode code i.value with
  | false => rw [itemWithAction_of_not h]
  | true =>
    have h' := (isRuleNode_itemWithAction code code action i).trans h
    rw [itemWithAction, if_pos h', itemWithAction, if_pos h, itemWithAction, if_pos h,
      nodeWithAction_nodeWithAction]

theorem itemWithAction_comm (h : isRuleNode code i.value = true →
      isRuleNode code' i.value = false) (action action' : String) :
    itemWithAction code' action' (itemWithAction code action i) =
      itemWithAction code action (itemWithAction code' action' i) := by
  cases hcode : isRuleNode code i.value with
  | false =>
    have hcode' := (isRuleNode_itemWithAction code' code action' i).trans hcode
    rw [itemWithAction_of_not hcode, itemWithAction_of_not hcode']
  | true =>
    have hcode₁ := h hcode
    have hcode' := (isRuleNode_itemWithAction code code' action i).trans hcode₁
    rw [itemWithAction_of_not hcode₁, itemWithAction_of_not hcode']

theorem any_isRuleNode_itemWithAction (code code' action : String) (items : List (Spaced Node)) :
    ((items.map (itemWithAction code action)).any fun i => isRuleNode code' i.value) =
      items.any fun i => isRuleNode code' i.value := by
  rw [List.any_map]
  congr 1
  funext i
  exact isRuleNode_itemWithAction code code' action i

theorem listWithAction?_array (code action : String) (items : List (Spaced Node)) (comma : Bool)
    (tail : List Char) : listWithAction? code action (.array items comma tail) =
      if items.any fun i => isRuleNode code i.value then
        some (.array (items.map (itemWithAction code action)) comma tail)
      else none := rfl

/-- **The actions of two codes in a list** are set in either order, if no element is a rule of
both. -/
theorem swap_listWithAction? (h : ∀ i ∈ node.items, isRuleNode code i.value = true →
      isRuleNode code' i.value = false) (action action' : String) :
    Swap (listWithAction? code action) (listWithAction? code' action') node := by
  cases node with
  | scalar | table => exact ⟨rfl, fun h => absurd h (by simp [listWithAction?])⟩
  | array items comma tail =>
    have hcomm : (items.map (itemWithAction code action)).map (itemWithAction code' action') =
        (items.map (itemWithAction code' action')).map (itemWithAction code action) := by
      rw [List.map_map, List.map_map]
      exact List.map_congr_left fun i hi => itemWithAction_comm (h i hi) action action'
    refine Swap.of_ite (c := .array ((items.map (itemWithAction code action)).map
      (itemWithAction code' action')) comma tail)
      (listWithAction?_array ..) (listWithAction?_array ..) ?_ ?_
    · rw [listWithAction?_array, any_isRuleNode_itemWithAction]
    · rw [listWithAction?_array, any_isRuleNode_itemWithAction, hcomm]

/-- **Of two actions of one code in a list** the second stays. -/
theorem overrides_listWithAction? (code action action' : String) (node : Node) :
    Overrides (listWithAction? code action') (listWithAction? code action) node := by
  intro node' hnode'
  cases node with
  | scalar | table => cases hnode'
  | array items comma tail =>
    rw [listWithAction?_array] at hnode'
    split at hnode'
    · obtain rfl := Option.some.inj hnode'
      rw [listWithAction?_array, listWithAction?_array, any_isRuleNode_itemWithAction,
        List.map_map]
      have htwice : itemWithAction code action' ∘ itemWithAction code action =
          itemWithAction code action' := by
        funext i
        exact itemWithAction_itemWithAction code action action' i
      rw [htwice]
    · cases hnode'

/-! ### Elements of an array -/

section

variable {index index' : Nat}

theorem withElement?_array (index : Nat) (target : String) (items : List (Spaced Node))
    (comma : Bool) (tail : List Char) : withElement? index target (.array items comma tail) =
      if index < items.length then
        some (.array (itemsWithString index target items) comma tail)
      else none := rfl

theorem length_itemsWithString (index : Nat) (target : String) (items : List (Spaced Node)) :
    (itemsWithString index target items).length = items.length := by
  rw [itemsWithString, List.length_modify]

/-- **Two elements** are set in either order. -/
theorem swap_withElement? (h : index ≠ index') (target target' : String) (node : Node) :
    Swap (withElement? index target) (withElement? index' target') node := by
  cases node with
  | scalar | table => exact ⟨rfl, fun h => absurd h (by simp [withElement?])⟩
  | array items comma tail =>
    refine Swap.of_ite (c := .array (itemsWithString index' target'
      (itemsWithString index target items)) comma tail)
      (withElement?_array ..) (withElement?_array ..) ?_ ?_
    · rw [withElement?_array, length_itemsWithString]
    · rw [withElement?_array, length_itemsWithString, itemsWithString, itemsWithString,
        itemsWithString, itemsWithString, List.modify_modify_ne _ _ _ h]

/-- **Of two values of one element** the second stays. -/
theorem overrides_withElement? (index : Nat) (target target' : String) (node : Node) :
    Overrides (withElement? index target') (withElement? index target) node := by
  intro node' hnode'
  cases node with
  | scalar | table => cases hnode'
  | array items comma tail =>
    rw [withElement?_array] at hnode'
    split at hnode'
    · obtain rfl := Option.some.inj hnode'
      rw [withElement?_array, withElement?_array, length_itemsWithString, itemsWithString,
        itemsWithString, List.modify_modify_eq]
      rfl
    · cases hnode'

end

/-! ### Values under a name -/

/-- What is changed is the first value under a name. -/
theorem changeValue?_eq (name : String) (change : Node → Option Node) (entries : List Entry) :
    changeValue? name change entries = (entries.find? fun e => e.key.names = [name]).bind fun e =>
      (change e.value.value).map fun node => entriesWithNode name node entries := by
  rw [changeValue?]
  cases entries.find? fun e => e.key.names = [name] with
  | none => rfl
  | some e =>
    simp only [Option.bind_eq_bind, Option.bind_some]
    cases change e.value.value <;> rfl

theorem changeValue?_of_find {e : Entry}
    (hfind : (entries.find? fun e => e.key.names = [name]) = some e)
    (change : Node → Option Node) : changeValue? name change entries =
      (change e.value.value).map fun node => entriesWithNode name node entries := by
  rw [changeValue?_eq, hfind, Option.bind_some]

/-- Of two values that are put in under a name the second stays. -/
theorem entriesWithNode_entriesWithNode (name : String) (node node' : Node)
    (entries : List Entry) :
    entriesWithNode name node' (entriesWithNode name node entries) =
      entriesWithNode name node' entries := by
  rw [entriesWithNode, entriesWithNode, entriesWithNode, List.map_map]
  refine List.map_congr_left fun e _ => ?_
  rw [Function.comp_apply]
  by_cases h : e.key.names = [name]
  · rw [if_pos h, if_pos h, if_pos h]
  · rw [if_neg h, if_neg h]

/-- Values are put in under two names in either order. -/
theorem entriesWithNode_comm (hne : name ≠ name') (node node' : Node) (entries : List Entry) :
    entriesWithNode name' node' (entriesWithNode name node entries) =
      entriesWithNode name node (entriesWithNode name' node' entries) := by
  rw [entriesWithNode, entriesWithNode, entriesWithNode, entriesWithNode, List.map_map,
    List.map_map]
  refine List.map_congr_left fun e _ => ?_
  rw [Function.comp_apply, Function.comp_apply]
  by_cases h : e.key.names = [name]
  · have h' : e.key.names ≠ [name'] := fun h' => hne (List.cons.inj (h.symm.trans h')).1
    rw [if_pos h, if_neg h', if_neg h', if_pos h]
  · rw [if_neg h]
    by_cases h' : e.key.names = [name']
    · rw [if_pos h', if_neg h]
    · rw [if_neg h', if_neg h]

/-- What is found under a name after a value was put in. -/
theorem find?_entriesWithNode (name name' : String) (node : Node) (entries : List Entry) :
    ((entriesWithNode name node entries).find? fun e => e.key.names = [name']) =
      (entries.find? fun e => e.key.names = [name']).map fun e =>
        if e.key.names = [name] then Entry.withNode node e else e := by
  rw [entriesWithNode, List.find?_map]
  have hkey : (fun e : Entry => decide (e.key.names = [name'])) ∘
      (fun e => if e.key.names = [name] then Entry.withNode node e else e) =
        fun e => decide (e.key.names = [name']) := by
    funext e
    rw [Function.comp_apply]
    split <;> rfl
  exact congrArg _ (congrArg (List.find? · entries) hkey)

/-- A value that was put in is the one that is changed. -/
theorem changeValue?_entriesWithNode {e : Entry}
    (hfind : (entries.find? fun e => e.key.names = [name]) = some e)
    (change : Node → Option Node) (node : Node) :
    changeValue? name change (entriesWithNode name node entries) =
      (change node).map fun node' => entriesWithNode name node' entries := by
  have hname : e.key.names = [name] := by simpa using List.find?_some hfind
  rw [changeValue?_eq, find?_entriesWithNode, hfind, Option.map_some, Option.bind_some,
    if_pos hname, funext fun node' => entriesWithNode_entriesWithNode name node node' entries]
  rfl

/-- The values under another name are changed as before. -/
theorem changeValue?_entriesWithNode_of_ne (hne : name ≠ name') (node : Node)
    (change : Node → Option Node) (entries : List Entry) :
    changeValue? name' change (entriesWithNode name node entries) =
      (changeValue? name' change entries).map (entriesWithNode name node) := by
  rw [changeValue?_eq, changeValue?_eq, find?_entriesWithNode]
  cases hfind : entries.find? fun e => e.key.names = [name'] with
  | none => rfl
  | some e =>
    have hname : e.key.names = [name'] := by simpa using List.find?_some hfind
    rw [Option.map_some, Option.bind_some, Option.bind_some, Option.map_map,
      if_neg (by simpa [hname] using hne.symm),
      funext fun node' => entriesWithNode_comm hne node node' entries]
    rfl

/-- **The values under two names** are changed in either order. -/
theorem swap_changeValue?_of_ne (hne : name ≠ name') (change change' : Node → Option Node)
    (entries : List Entry) :
    Swap (changeValue? name change) (changeValue? name' change') entries := by
  constructor
  · cases h : changeValue? name change entries with
    | none =>
      cases h' : changeValue? name' change' entries with
      | none => rfl
      | some entries₂ =>
        obtain ⟨-, -, -, node', -, rfl⟩ := of_changeValue? h'
        rw [Option.bind_some, changeValue?_entriesWithNode_of_ne hne.symm, h]
        rfl
    | some entries₁ =>
      obtain ⟨-, -, -, node, -, rfl⟩ := of_changeValue? h
      rw [Option.bind_some, changeValue?_entriesWithNode_of_ne hne]
      cases h' : changeValue? name' change' entries with
      | none => rfl
      | some entries₂ =>
        obtain ⟨-, -, -, node', -, rfl⟩ := of_changeValue? h'
        rw [Option.bind_some, changeValue?_entriesWithNode_of_ne hne.symm, h, Option.map_some,
          Option.map_some, entriesWithNode_comm hne]
  · intro hsome hsome'
    obtain ⟨entries₁, h⟩ := Option.isSome_iff_exists.1 hsome
    obtain ⟨-, -, -, node, -, rfl⟩ := of_changeValue? h
    rw [h, Option.bind_some, changeValue?_entriesWithNode_of_ne hne, Option.isSome_map]
    exact hsome'

/-- **Two changes of the value under a name** swap if they do for the value. -/
theorem Swap.changeValue? (h : ∀ e ∈ entries, e.key.names = [name] →
      Swap change change' e.value.value) :
    Swap (Ruleset.changeValue? name change) (Ruleset.changeValue? name change') entries := by
  cases hfind : entries.find? fun e => e.key.names = [name] with
  | none =>
    have hnone : ∀ change, Ruleset.changeValue? name change entries = none := fun change => by
      rw [changeValue?_eq, hfind, Option.bind_none]
    exact ⟨by rw [hnone, hnone, Option.bind_none, Option.bind_none],
      fun h => absurd h (by simp [hnone])⟩
  | some e =>
    exact Swap.of_part (changeValue?_of_find hfind change) (changeValue?_of_find hfind change')
      (changeValue?_entriesWithNode hfind change) (changeValue?_entriesWithNode hfind change')
      (h e (List.mem_of_find?_eq_some hfind) (by simpa using List.find?_some hfind))

theorem Overrides.changeValue? (h : ∀ node, Overrides change' change node) (name : String)
    (entries : List Entry) :
    Overrides (Ruleset.changeValue? name change') (Ruleset.changeValue? name change) entries := by
  cases hfind : entries.find? fun e => e.key.names = [name] with
  | none =>
    intro entries' hentries'
    rw [changeValue?_eq, hfind] at hentries'
    cases hentries'
  | some e =>
    exact Overrides.of_part (changeValue?_of_find hfind change)
      (changeValue?_of_find hfind change') (changeValue?_entriesWithNode hfind change')
      (h e.value.value)

/-! ### Documents -/

namespace Edit

/-- What an edit is for: the rules of a code, or the import at an index. -/
def target : Edit → String ⊕ Nat
  | action code _ => .inl code
  | redirect index _ => .inr index

/-- Whether an edit changes sections. -/
def inSections : Edit → List Section → Bool
  | action code _, sections => sections.any (isRuleSection code)
  | redirect _ _, _ => false

/-- What an edit does to sections. -/
def onSections : Edit → List Section → List Section
  | action code s, sections => sectionsWithAction code s.text false sections
  | redirect _ _, sections => sections

/-- What an edit does to the entries above the sections. -/
def onEntries? : Edit → List Entry → Option (List Entry)
  | action code s, entries => Ruleset.changeValue? "rules" (listWithAction? code s.text) entries
  | redirect index target, entries =>
    Ruleset.changeValue? "imports" (withElement? index target) entries

theorem change?_eq (e : Edit) (doc : Toml.Document) : e.change? doc =
    if e.inSections doc.sections then some { doc with sections := e.onSections doc.sections }
    else (e.onEntries? doc.entries).map fun entries => { doc with entries } := by
  cases e <;> rfl

/-- An edit that changes no sections changes entries. -/
theorem change?_of_not_inSections (hnot : e.inSections doc.sections = false)
    (entries : List Entry) : e.change? { doc with entries } =
      (e.onEntries? entries).map fun entries => { doc with entries } := by
  rw [change?_eq, if_neg (by simp [hnot])]

/-- No edit changes which edits change sections. -/
theorem inSections_onSections (e e' : Edit) (sections : List Section) :
    e'.inSections (e.onSections sections) = e'.inSections sections := by
  cases e' with
  | redirect index target => rfl
  | action code' s' =>
    cases e with
    | redirect index target => rfl
    | action code s => exact any_isRuleSection_sectionsWithAction code code' s.text false sections

/-- What two edits of different targets do to sections. -/
theorem onSections_comm (haccepted : doc.fields?.isSome = true) (h : e.target ≠ e'.target) :
    e'.onSections (e.onSections doc.sections) = e.onSections (e'.onSections doc.sections) := by
  cases e with
  | redirect index target => rfl
  | action code s =>
    cases e' with
    | redirect index target => rfl
    | action code' s' =>
      refine sectionsWithAction_comm (fun section' hmem hcode => ?_) s.text s'.text false false
      refine Bool.eq_false_iff.2 fun hcode' => h (congrArg Sum.inl ?_)
      exact eq_of_isRuleSection haccepted hmem hcode hcode'

/-- What two edits of different targets do to entries. -/
theorem swap_onEntries? (haccepted : doc.fields?.isSome = true) (h : e.target ≠ e'.target) :
    Swap e.onEntries? e'.onEntries? doc.entries := by
  cases e with
  | action code s =>
    cases e' with
    | action code' s' =>
      refine Swap.changeValue? fun e he hname => swap_listWithAction? (fun i hi hcode => ?_) _ _
      refine Bool.eq_false_iff.2 fun hcode' => h (congrArg Sum.inl ?_)
      exact eq_of_isRuleNode haccepted he hname hi hcode hcode'
    | redirect index target => exact swap_changeValue?_of_ne (by decide) _ _ _
  | redirect index target =>
    cases e' with
    | action code s => exact swap_changeValue?_of_ne (by decide) _ _ _
    | redirect index' target' =>
      exact Swap.changeValue? fun e _ _ =>
        swap_withElement? (fun hindex => h (congrArg Sum.inr hindex)) target target' e.value.value

/-- An edit of sections and an edit of entries swap. -/
theorem swap_of_inSections (h : e.inSections doc.sections = true)
    (h' : e'.inSections doc.sections = false) : Swap e.change? e'.change? doc := by
  have hsections : ∀ entries, e.change? ⟨entries, doc.sections, doc.tail⟩ =
      some ⟨entries, e.onSections doc.sections, doc.tail⟩ := fun entries => by
    rw [change?_eq, if_pos h]
  have hentries : ∀ sections, e'.inSections sections = false →
      e'.change? ⟨doc.entries, sections, doc.tail⟩ =
        (e'.onEntries? doc.entries).map fun entries => ⟨entries, sections, doc.tail⟩ :=
    fun sections hnot => by rw [change?_eq, if_neg (by simp [hnot])]
  have hfirst := hsections doc.entries
  have hsecond := hentries doc.sections h'
  have hboth := hentries (e.onSections doc.sections) ((inSections_onSections e e' _).trans h')
  constructor
  · rw [hfirst, hsecond, Option.bind_some, hboth, Option.bind_map, Option.map_eq_bind]
    exact congrArg _ (funext fun entries => (hsections entries).symm)
  · intro _ hsome
    rw [hsecond, Option.isSome_map] at hsome
    rw [hfirst, Option.bind_some, hboth, Option.isSome_map]
    exact hsome

/-- **Edits of two targets** swap in a document that is accepted. -/
theorem swap_change? (haccepted : doc.fields?.isSome = true) (h : e.target ≠ e'.target) :
    Swap e.change? e'.change? doc := by
  cases hin : e.inSections doc.sections with
  | false =>
    cases hin' : e'.inSections doc.sections with
    | false =>
      exact Swap.of_part (change?_of_not_inSections hin doc.entries)
        (change?_of_not_inSections hin' doc.entries) (change?_of_not_inSections hin)
        (change?_of_not_inSections hin') (swap_onEntries? haccepted h)
    | true => exact (swap_of_inSections hin' hin).symm
  | true =>
    cases hin' : e'.inSections doc.sections with
    | false => exact swap_of_inSections hin hin'
    | true =>
      have hsections : ∀ e : Edit, ∀ sections, e.inSections sections = true →
          e.change? { doc with sections } = some { doc with sections := e.onSections sections } :=
        fun e sections hsome => by rw [change?_eq, if_pos hsome]
      have hfirst := hsections e _ hin
      have hsecond := hsections e' _ hin'
      have hboth := hsections e' _ ((inSections_onSections e e' _).trans hin')
      have hboth' := hsections e _ ((inSections_onSections e' e _).trans hin)
      refine ⟨?_, fun _ _ => ?_⟩
      · rw [hfirst, hsecond, Option.bind_some, Option.bind_some, hboth, hboth',
          onSections_comm haccepted h]
      · rw [hfirst, Option.bind_some, hboth, Option.isSome_some]

/-- What two edits of one target do to sections. -/
theorem onSections_onSections (h : e.target = e'.target) (sections : List Section) :
    e'.onSections (e.onSections sections) = e'.onSections sections := by
  cases e with
  | redirect index target => rfl
  | action code s =>
    cases e' with
    | redirect index target => cases h
    | action code' s' =>
      obtain rfl := Sum.inl.inj h
      exact sectionsWithAction_sectionsWithAction code s.text s'.text false sections

/-- What two edits of one target do to entries. -/
theorem overrides_onEntries? (h : e.target = e'.target) (entries : List Entry) :
    Overrides e'.onEntries? e.onEntries? entries := by
  cases e with
  | action code s =>
    cases e' with
    | redirect index target => cases h
    | action code' s' =>
      obtain rfl := Sum.inl.inj h
      exact Overrides.changeValue? (overrides_listWithAction? code s.text s'.text) "rules" entries
  | redirect index target =>
    cases e' with
    | action code s => cases h
    | redirect index' target' =>
      obtain rfl := Sum.inr.inj h
      exact Overrides.changeValue? (overrides_withElement? index target target') "imports" entries

/-- Edits of one target change sections, or none does. -/
theorem inSections_eq (h : e.target = e'.target) (sections : List Section) :
    e.inSections sections = e'.inSections sections := by
  cases e with
  | action code s =>
    cases e' with
    | redirect index target => cases h
    | action code' s' =>
      obtain rfl := Sum.inl.inj h
      rfl
  | redirect index target =>
    cases e' with
    | action code s => cases h
    | redirect index' target' => rfl

/-- **Of two edits of one target** the second decides. -/
theorem overrides_change? (h : e.target = e'.target) (doc : Toml.Document) :
    Overrides e'.change? e.change? doc := by
  have hsame := inSections_eq h doc.sections
  cases hin : e.inSections doc.sections with
  | true =>
    intro doc' hdoc'
    rw [change?_eq, if_pos hin] at hdoc'
    obtain rfl := Option.some.inj hdoc'
    have hin' := hsame.symm.trans hin
    rw [change?_eq, if_pos ((inSections_onSections e e' _).trans hin'), change?_eq, if_pos hin',
      onSections_onSections h]
  | false =>
    have hin' := hsame.symm.trans hin
    exact Overrides.of_part (change?_of_not_inSections hin doc.entries)
      (change?_of_not_inSections hin' doc.entries) (change?_of_not_inSections hin')
      (overrides_onEntries? h doc.entries)

end Edit

end Ruleset
end LintWorkspace
