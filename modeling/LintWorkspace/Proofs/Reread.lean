/-
# An edit of what was written

An edit writes the document that it made with plain line breaks, and the next edit reads that
text.  It finds the document with plain line breaks (`readForEdit_overwrite`), and it does there
what it would have done to the document itself (`change?_plain`):

| what an edit looks at | in the document with plain line breaks |
| --- | --- |
| keys and headers | the same |
| which elements a list has | the same |
| which rules have its code | the same, because values are spelled as they were |
-/

import LintWorkspace.Proofs.Acceptance
import LintWorkspace.Proofs.InPlace

namespace LintWorkspace
namespace Ruleset

open Toml

variable {code action name : String} {index : Nat} {target : String} {entries : List Entry}
  {sections : List Section} {doc doc' : Toml.Document} {fields : List (Key × Spaced Node)}
  {node : Node} {e : Edit} {change : Node → Option Node} {d d' : Disk} {path : Path}

/-! ### Rules with plain line breaks -/

theorem plainItem_withNode (i : Spaced Node) (s : String) :
    { plainItem i with value := .ofString s } = plainItem { i with value := .ofString s } := by
  rw [plainItem_eq, plainItem_eq]
  rfl

/-- Setting an action on a line. -/
theorem entriesWithAction_plain (action : String) (entries : List Entry) :
    entriesWithAction action (entries.map Entry.plain) =
      (entriesWithAction action entries).map Entry.plain := by
  rw [entriesWithAction_eq_acted, entriesWithAction_eq_acted]
  refine acted_map Entry.plain ?_ ?_ ?_ entries
  · exact fun e => rfl
  · intro e
    rw [Entry.withNode, Entry.withNode, Entry.plain, Entry.plain]
    dsimp only
    rw [plainItem_withNode]
  · rfl

/-- Setting an action between fields. -/
theorem fieldsWithAction_plain (action : String) (fields : List (Key × Spaced Node)) :
    fieldsWithAction action (fields.map plainField) =
      (fieldsWithAction action fields).map plainField := by
  rw [fieldsWithAction_eq_acted, fieldsWithAction_eq_acted]
  have hbelow : (fun f : Key × Spaced Node => !f.1.isBelow "action") ∘ plainField =
      fun f => !f.1.isBelow "action" := by
    funext f
    rw [Function.comp_apply, plainField_eq]
  have hfirst : (fun f : Key × Spaced Node => f.1.head?) ∘ plainField = fun f => f.1.head? := by
    funext f
    rw [Function.comp_apply, plainField_eq]
  refine acted_map plainField ?_ ?_ ?_ fields
  · exact fun f => by rw [plainField_eq]
  · intro f
    rw [fieldWithNode, fieldWithNode, plainField_eq, plainField_eq]
    dsimp only
    rw [plainItem_withNode]
  · rw [addedField, addedField, plainField_eq, plainItem_eq, List.dropWhile_map,
      hbelow, List.filter_map, hbelow, List.isEmpty_map, List.head?_map, Option.bind_map, hfirst]
    dsimp only
    split <;> rfl

theorem nodeWithAction_plain (action : String) (node : Node) :
    nodeWithAction action node.plain = (nodeWithAction action node).plain := by
  cases node with
  | scalar | array => rfl
  | table fields comma tail =>
    rw [plain_table, nodeWithAction, nodeWithAction, plain_table, fieldsWithAction_plain]

theorem isString_plain (code : String) (node : Node) :
    node.plain.isString code = node.isString code := by
  cases node <;> rfl

theorem givesCode_plainItem (code : String) (key : Key) (value : Spaced Node) :
    givesCode code key (plainItem value) = givesCode code key value := by
  rw [givesCode, givesCode, plainItem_eq, isString_plain]

theorem isRuleNode_plain (code : String) (node : Node) :
    isRuleNode code node.plain = isRuleNode code node := by
  cases node with
  | scalar | array => rfl
  | table fields comma tail =>
    rw [plain_table, isRuleNode, isRuleNode, List.any_map]
    congr 1
    funext f
    rw [Function.comp_apply, plainField_eq, givesCode_plainItem]

theorem any_givesCode_plain (code : String) (entries : List Entry) :
    ((entries.map Entry.plain).any fun e => givesCode code e.key e.value) =
      entries.any fun e => givesCode code e.key e.value := by
  rw [List.any_map]
  congr 1
  funext e
  exact givesCode_plainItem code e.key e.value

/-- Setting the actions in a list of rules. -/
theorem listWithAction?_plain (code action : String) (node : Node) :
    listWithAction? code action node.plain = (listWithAction? code action node).map Node.plain := by
  cases node with
  | scalar | table => rfl
  | array items comma tail =>
    have hrule : ∀ i : Spaced Node, isRuleNode code (plainItem i).value =
        isRuleNode code i.value := fun i => by rw [plainItem_eq, isRuleNode_plain]
    rw [plain_array, listWithAction?, listWithAction?, List.any_map]
    simp only [Function.comp_def, hrule]
    split
    · rw [Option.map_some, plain_array, List.map_map, List.map_map]
      congr 2
      refine List.map_congr_left fun i _ => ?_
      rw [Function.comp_apply, Function.comp_apply, hrule i]
      split
      · rw [plainItem_eq, plainItem_eq]
        dsimp only
        rw [nodeWithAction_plain]
      · rfl
    · rfl

/-- Setting an element of a list. -/
theorem withElement?_plain (index : Nat) (target : String) (node : Node) :
    withElement? index target node.plain = (withElement? index target node).map Node.plain := by
  cases node with
  | scalar | table => rfl
  | array items comma tail =>
    rw [plain_array, withElement?, withElement?, List.length_map]
    split
    · rw [Option.map_some, plain_array]
      congr 2
      refine List.ext_getElem? fun k => ?_
      rw [List.getElem?_modify, List.getElem?_map, List.getElem?_map, List.getElem?_modify]
      cases items[k]? with
      | none => rfl
      | some i =>
        simp only [Option.map_some, Option.map_eq_map]
        split
        · exact congrArg some (plainItem_withNode i target)
        · rfl
    · rfl

/-- Changing the value under a name. -/
theorem changeValue?_plain (h : ∀ node, change node.plain = (change node).map Node.plain)
    (name : String) (entries : List Entry) :
    changeValue? name change (entries.map Entry.plain) =
      (changeValue? name change entries).map (List.map Entry.plain) := by
  have hkey : (fun e : Entry => decide (e.key.names = [name])) ∘ Entry.plain =
      fun e => decide (e.key.names = [name]) := rfl
  rw [changeValue?, changeValue?, List.find?_map, hkey]
  cases hfind : entries.find? fun e => e.key.names = [name] with
  | none => rfl
  | some e =>
    have hvalue : e.plain.value.value = e.value.value.plain := by
      rw [Entry.plain, plainItem_eq]
    simp only [Option.map_some, Option.bind_eq_bind, Option.bind_some, hvalue, h]
    cases change e.value.value with
    | none => rfl
    | some node =>
      simp only [Option.map_some, Option.bind_some, List.map_map]
      refine congrArg some (List.map_congr_left fun e' _ => ?_)
      rw [Function.comp_apply, Function.comp_apply]
      change (if e'.key.names = [name] then _ else _) = _
      split
      · rw [Entry.plain, Entry.plain, plainItem_eq, plainItem_eq]
      · rfl

/-- Setting the actions of rules in sections. -/
theorem sectionsWithAction_plain (code action : String) (inside : Bool) (sections : List Section) :
    sectionsWithAction code action inside (sections.map Section.plain) =
      (sectionsWithAction code action inside sections).map Section.plain := by
  induction sections generalizing inside with
  | nil => rfl
  | cons s sections ih =>
    have harray : s.plain.ofArray = s.ofArray := rfl
    have hkey : s.plain.key = s.key := rfl
    have hhit : (s.plain.entries.any fun e => givesCode code e.key e.value) =
        s.entries.any fun e => givesCode code e.key e.value := any_givesCode_plain code s.entries
    have haction : (s.plain.entries.any fun e => e.key.names = ["action"]) =
        s.entries.any fun e => e.key.names = ["action"] := List.any_map
    rw [List.map_cons, sectionsWithAction, sectionsWithAction, harray, hkey, hhit, haction]
    split
    · dsimp only
      rw [ih, List.map_cons]
      congr 1
      split
      · exact congrArg (fun entries => { s with
          lead := unix s.lead
          trail := unix s.trail
          entries }) (entriesWithAction_plain action s.entries)
      · rfl
    · split
      · exact ih inside
      · rw [ih, List.map_cons]

/-! ### Documents with plain line breaks -/

theorem isRuleSection_plain (code : String) (s : Section) :
    isRuleSection code s.plain = isRuleSection code s := by
  have hgives := any_givesCode_plain code s.entries
  exact congrArg ((s.ofArray && s.key.names = ["rules"]) && ·) hgives

/-- **An edit does the same with plain line breaks.** -/
theorem change?_plain (e : Edit) (doc : Toml.Document) :
    e.change? doc.plain = (e.change? doc).map Toml.Document.plain := by
  cases e with
  | action code s =>
    have hany : doc.plain.sections.any (isRuleSection code) =
        doc.sections.any (isRuleSection code) := by
      rw [Toml.Document.plain, List.any_map]
      exact congrArg _ (funext fun s => isRuleSection_plain code s)
    rw [Edit.change?, Edit.change?, withAction?, withAction?, hany]
    split
    · rw [Toml.Document.plain, sectionsWithAction_plain]
      rfl
    · rw [Toml.Document.plain, changeValue?_plain (listWithAction?_plain code s.text),
        Option.map_map, Option.map_map]
      rfl
  | redirect index target =>
    rw [Edit.change?, Edit.change?, withImport?, withImport?, Toml.Document.plain,
      changeValue?_plain (withElement?_plain index target), Option.map_map, Option.map_map]
    rfl

/-! ### Files -/

theorem legible_change? {layout : Layout} (h : e.change? doc = some doc')
    (hlegible : LegibleDocument layout doc) : LegibleDocument layout doc' := by
  cases e with
  | action code s => exact legible_withAction? h hlegible
  | redirect index target => exact legible_withImport? hlegible h

/-- A document that is read for an edit is legible and accepted. -/
theorem of_readForEdit (h : readForEdit d path = .ok doc) :
    LegibleDocument .oneLine doc ∧ doc.fields?.isSome = true := by
  obtain ⟨text, -, hread, haccepted⟩ := readForEdit_eq_ok_iff.1 h
  exact ⟨(legible_of_ofText? hread).1, haccepted⟩

/-- **The next edit finds the edited document** with plain line breaks. -/
theorem readForEdit_overwrite (hd : d.Tree) (hdoc : readForEdit d path = .ok doc)
    (h : e.change? doc = some doc') :
    readForEdit (d.overwrite path (String.ofList doc'.unixText)) path = .ok doc'.plain := by
  obtain ⟨text, htext, -⟩ := readForEdit_eq_ok_iff.1 hdoc
  obtain ⟨hlegible, haccepted⟩ := of_readForEdit hdoc
  have hlegible' := legible_change? h hlegible
  have haccepted' : doc'.plain.fields?.isSome = true := by
    rw [fields?_plain]
    exact isSome_fields?_change? h haccepted
  refine readForEdit_eq_ok_iff.2 ⟨_, hd.readText_overwrite htext _, ?_, haccepted'⟩
  rw [String.toList_ofList]
  exact ofText?_unixText hlegible'

end Ruleset
end LintWorkspace
