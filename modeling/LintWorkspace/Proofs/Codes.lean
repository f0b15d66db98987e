/-
# The codes of rules

An edit of an action looks for the rules of a code, and it never changes what a rule gives
under `code` (`codesOf`):

| an action that | the fields of the rule | what it gives under `code` |
| --- | --- | --- |
| is there | one has another value | the same |
| is a table | one stands in place of all below `action` | the same |
| is not there | one more at the end | the same |

A rule of a document that is accepted gives only one code, so it is not a rule of two codes
(`eq_of_isRuleSection`, `eq_of_isRuleNode`).
-/

import LintWorkspace.Proofs.Acceptance

namespace LintWorkspace
namespace Toml

variable {code code' : String} {node : Node}

/-- The elements of an array. -/
def Node.items : Node → List (Spaced Node)
  | .array items _ _ => items
  | _ => []

/-- The fields of an inline table. -/
def Node.fields : Node → List (Key × Spaced Node)
  | .table fields _ _ => fields
  | _ => []

/-- A value is one string only. -/
theorem eq_of_isString (h : node.isString code = true) (h' : node.isString code' = true) :
    code = code' := by
  cases node with
  | array | table => cases h
  | scalar spelling v =>
    cases v with
    | string s => exact (of_decide_eq_true h).symm.trans (of_decide_eq_true h')
    | _ => cases h

end Toml

namespace Ruleset

open Toml

variable {code code' action name : String} {doc : Toml.Document}
  {fields : List (Key × Spaced Node)} {added : Key × Spaced Node}

/-! ### What a rule gives under its code -/

/-- The values that a rule gives under `code`. -/
def codesOf (fields : List (Key × Spaced Node)) : List Node :=
  (fields.filter fun f => f.1.names = ["code"]).map fun f => f.2.value

theorem any_givesCode (code : String) (fields : List (Key × Spaced Node)) :
    (fields.any fun f => givesCode code f.1 f.2) = (codesOf fields).any (Node.isString code) := by
  rw [codesOf, List.any_map, List.any_filter]
  rfl

theorem any_givesCode_entries (code : String) (entries : List Entry) :
    (entries.any fun e => givesCode code e.key e.value) =
      (codesOf (fieldsOf entries)).any (Node.isString code) := by
  rw [← any_givesCode, fieldsOf, List.any_map]
  rfl

theorem isRuleNode_eq (code : String) (node : Node) :
    isRuleNode code node = (codesOf node.fields).any (Node.isString code) := by
  rw [← any_givesCode]
  cases node <;> rfl

/-- **Setting an action leaves the code.** -/
theorem codesOf_actedFields (hname : added.1.names = ["action"]) :
    codesOf (actedFields action added fields) = codesOf fields := by
  have hkept : ∀ f : Key × Spaced Node, f.1.names = ["code"] → f.1.isBelow "action" = false := by
    intro f hf
    simp [Key.isBelow, hf]
  rw [codesOf, codesOf, actedFields, acted]
  split
  · rw [List.filter_map, List.map_map]
    have hsame : ((fun f : Key × Spaced Node => decide (f.1.names = ["code"])) ∘
        fun f => if f.1.names = ["action"] then fieldWithNode (.ofString action) f else f) =
          fun f => decide (f.1.names = ["code"]) := by
      funext f
      rw [Function.comp_apply]
      split <;> rfl
    rw [hsame]
    refine List.map_congr_left fun f hf => ?_
    have hcode : f.1.names = ["code"] := by simpa using (List.mem_filter.1 hf).2
    rw [Function.comp_apply, if_neg (by simp [hcode])]
  · rw [List.filter_append, List.filter_cons_of_neg (by simp [hname]), List.filter_filter]
    have hrest : ((fields.dropWhile fun f => !f.1.isBelow "action").filter fun f =>
        decide (f.1.names = ["code"]) && !f.1.isBelow "action") =
          (fields.dropWhile fun f => !f.1.isBelow "action").filter fun f =>
            f.1.names = ["code"] := by
      refine List.filter_congr fun f _ => ?_
      by_cases hcode : f.1.names = ["code"]
      · simp [hcode, hkept f hcode]
      · simp [hcode]
    rw [hrest, ← List.filter_append, List.takeWhile_append_dropWhile]

theorem codesOf_entriesWithAction (action : String) (entries : List Entry) :
    codesOf (fieldsOf (entriesWithAction action entries)) = codesOf (fieldsOf entries) := by
  rw [fieldsOf_entriesWithAction]
  exact codesOf_actedFields rfl

theorem codesOf_nodeWithAction (action : String) (node : Node) :
    codesOf (nodeWithAction action node).fields = codesOf node.fields := by
  cases node with
  | scalar | array => rfl
  | table fields comma tail =>
    rw [nodeWithAction, fieldsWithAction_eq_acted]
    exact codesOf_actedFields rfl

/-! ### One code for each rule -/

/-- A table gives itself one code. -/
theorem eq_of_codesOf {u : GrowingTable} (hu : growFields? (.header, []) fields = some u)
    (h : (codesOf fields).any (Node.isString code) = true)
    (h' : (codesOf fields).any (Node.isString code') = true) : code = code' := by
  rw [← any_givesCode, List.any_eq_true] at h h'
  obtain ⟨f, hf, hgives⟩ := h
  obtain ⟨f', hf', hgives'⟩ := h'
  obtain ⟨hname, hcode⟩ := Bool.and_eq_true_iff.1 hgives
  obtain ⟨hname', hcode'⟩ := Bool.and_eq_true_iff.1 hgives'
  obtain rfl := eq_of_names hu hf hf' (of_decide_eq_true hname) (of_decide_eq_true hname')
  exact eq_of_isString hcode hcode'

/-- **No rule of a document that is accepted is a rule of two codes**: none in sections. -/
theorem eq_of_isRuleSection (haccepted : doc.fields?.isSome = true) {s : Section}
    (hs : s ∈ doc.sections) (h : isRuleSection code s = true)
    (h' : isRuleSection code' s = true) : code = code' := by
  obtain ⟨said, hsaid⟩ := Option.isSome_iff_exists.1 haccepted
  obtain ⟨t, u, -, hu, -⟩ := exists_of_fields? hsaid
  obtain ⟨t₁, t₂, after, hstep, -⟩ := exists_step_of_mem hs hu
  rw [isRuleSection, Bool.and_eq_true, any_givesCode_entries] at h h'
  obtain ⟨harray, hname⟩ := Bool.and_eq_true_iff.1 h.1
  rw [addSection?_single (of_decide_eq_true hname)] at hstep
  obtain ⟨x, hx, -⟩ := Option.map_eq_some_iff.1 hstep
  obtain ⟨es, inner, -, hinner, -⟩ := lookup?_tables_of_newSection? harray hx
  rw [addEntries?_eq] at hinner
  exact eq_of_codesOf hinner h.2 h'.2

/-- And none in a list. -/
theorem eq_of_isRuleNode (haccepted : doc.fields?.isSome = true) {e : Entry}
    (he : e ∈ doc.entries) (hname : e.key.names = [name]) {i : Spaced Node}
    (hi : i ∈ e.value.value.items) (h : isRuleNode code i.value = true)
    (h' : isRuleNode code' i.value = true) : code = code' := by
  rw [isRuleNode_eq] at h h'
  cases hvalue : e.value.value with
  | scalar | table =>
    rw [hvalue] at hi
    cases hi
  | array items comma tail =>
    rw [hvalue] at hi
    have hsome := isSome_itemValues?_of_entry haccepted he hname hvalue i hi
    cases hnode : i.value with
    | scalar | array =>
      rw [hnode] at h
      cases h
    | table fields comma tail =>
      rw [hnode] at h h' hsome
      rw [Node.value?, Option.isSome_map] at hsome
      obtain ⟨u, hu⟩ := Option.isSome_iff_exists.1 hsome
      exact eq_of_codesOf hu h h'

end Ruleset
end LintWorkspace
