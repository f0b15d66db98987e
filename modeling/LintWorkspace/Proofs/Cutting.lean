/-
# How an edit cuts a document

The text of a document is cut into the stretches that stay and those that an edit swaps
(`Edit.stretches`):

| edit | what is swapped |
| --- | --- |
| of an import | the value at the index, for the new one |
| of a rule with an action | the value of the action, for the new one |
| of a rule without one | nothing, for an action behind the other entries |
| of a rule with a table for its action | the first entry of the table, for an action |
| | the other entries and its sections, for nothing |

Before the edit the stretches are the text of the document (`written_false_stretches`),
afterwards what is written of the edited one (`written_true_stretches`).
-/

import LintWorkspace.Proofs.Redirection
import LintWorkspace.Proofs.Stretches

namespace LintWorkspace

namespace Toml

/-- Texts with a mark between them are the first one and the others, each behind a mark. -/
theorem intercalate_cons {α : Type} (sep xs : List α) (xss : List (List α)) :
    sep.intercalate (xs :: xss) = xs ++ xss.flatMap fun ys => sep ++ ys := by
  induction xss generalizing xs with
  | nil => simp
  | cons ys xss ih =>
    rw [List.intercalate_cons_cons, ih ys, List.flatMap_cons]
    simp only [List.append_assoc]

/-- The texts behind one of them stand behind it each with a mark before it. -/
theorem intercalate_append_cons {α : Type} (sep : List α) (xss yss : List (List α)) (ys : List α) :
    sep.intercalate (xss ++ ys :: yss) =
      sep.intercalate (xss ++ [ys]) ++ yss.flatMap fun zs => sep ++ zs := by
  cases xss with
  | nil => simp [intercalate_cons]
  | cons xs xss => simp [intercalate_cons]

theorem fieldsText_append (first rest : List (Key × Spaced Node)) (f : Key × Spaced Node) :
    fieldsText (first ++ f :: rest) =
      fieldsText (first ++ [f]) ++ rest.flatMap fun f => ',' :: fieldText f := by
  rw [fieldsText_eq, fieldsText_eq, List.map_append, List.map_cons, intercalate_append_cons,
    List.map_append, List.flatMap_map]
  rfl

end Toml

namespace Ruleset

open Toml

variable {edited : Bool}

/-! ### The action of a rule -/

/-- The stretches of entries of which the value under one name changes. -/
def valueStretches (name : String) (inner : Node → List Stretch) (entries : List Entry) :
    List Stretch :=
  entries.flatMap fun e => e.around
    (if e.key.names = [name] then inner e.value.value else e.value.value.stretches)

/-- The stretches of the entries of a rule. -/
def entryStretches (action : String) (entries : List Entry) : List Stretch :=
  if entries.any fun e => e.key.names = ["action"] then
    valueStretches "action" (fun old => [.swapped old.text (Node.ofString action).text]) entries
  else
    let first := entries.takeWhile fun e => !e.key.isBelow "action"
    let rest := entries.dropWhile fun e => !e.key.isBelow "action"
    let added := (addedEntry action).text
    first.flatMap Entry.stretches ++ match rest with
      | [] => [.swapped [] added]
      | e :: rest => .swapped e.text added :: rest.flatMap fun e =>
          if e.key.isBelow "action" then [.swapped e.text []] else e.stretches

/-- The stretches of the fields of a rule. -/
def ruleStretches (action : String) (fields : List (Key × Spaced Node)) : List Stretch :=
  if fields.any fun f => f.1.names = ["action"] then
    commaed (fields.map fun f => fieldAround f
      (if f.1.names = ["action"] then [.swapped f.2.value.text (Node.ofString action).text]
        else f.2.value.stretches))
  else
    let first := fields.takeWhile fun f => !f.1.isBelow "action"
    let rest := fields.dropWhile fun f => !f.1.isBelow "action"
    let added := fieldText (addedField action fields)
    match rest with
    | [] => commaed (fieldsStretches first) ++
        [.swapped [] ((if first.isEmpty then [] else [',']) ++ added)]
    | f :: rest => commaed (fieldsStretches first ++ [[.swapped (fieldText f) added]]) ++
        rest.flatMap fun f => if f.1.isBelow "action" then [.swapped (',' :: fieldText f) []]
          else .kept [','] :: fieldStretches f

/-- The stretches of a rule that is an inline table. -/
def nodeStretches (action : String) : Node → List Stretch
  | .table fields comma tail => bracketed '{' '}' (ruleStretches action fields) comma tail
  | node => node.stretches

/-- The stretches of a list of rules. -/
def listStretches (code action : String) : Node → List Stretch
  | .array items comma tail => bracketed '[' ']' (commaed (items.map fun i => i.around
      (if isRuleNode code i.value then nodeStretches action i.value else i.value.stretches)))
      comma tail
  | node => node.stretches

/-- The stretches of sections; the flag says whether the rule that they add to is edited and
has no action of its own. -/
def sectionStretches (code action : String) : Bool → List Section → List Stretch
  | _, [] => []
  | inside, s :: sections =>
    if s.ofArray && s.key.names = ["rules"] then
      let hit := s.entries.any fun e => givesCode code e.key e.value
      let plain := s.entries.any fun e => e.key.names = ["action"]
      s.around (if hit then entryStretches action s.entries
          else s.entries.flatMap Entry.stretches) ++
        sectionStretches code action (hit && !plain) sections
    else if inside && ["rules", "action"].isPrefixOf s.key.names then
      .swapped s.text [] :: sectionStretches code action inside sections
    else s.stretches ++ sectionStretches code action inside sections

/-- The stretches of a list of imports. -/
def elementStretches (index : Nat) (target : String) : Node → List Stretch
  | .array items comma tail => bracketed '[' ']' (commaed (items.mapIdx fun k i => i.around
      (if k = index then [.swapped i.value.text (Node.ofString target).text]
        else i.value.stretches))) comma tail
  | node => node.stretches

/-! ### What the stretches amount to -/

variable {action code target : String} {entries : List Entry} {fields : List (Key × Spaced Node)}
  {inner : Node → List Stretch} {name : String}

/-- What gives way to a string is seen as that string afterwards. -/
theorem written_swapped (node : Node) (s : String) :
    written edited [.swapped node.text (Node.ofString s).text] =
      ((if edited then .ofString s else node).seen edited).text := by
  cases edited <;> simp [Node.seen, Node.ofString, Node.plain]

theorem written_valueStretches (node : Entry → Node)
    (h : ∀ e ∈ entries, e.key.names = [name] →
      written edited (inner e.value.value) = ((node e).seen edited).text) :
    written edited (valueStretches name inner entries) = ((entries.map fun e =>
      if e.key.names = [name] then { e with value := { e.value with value := node e } }
      else e).map (Entry.seen edited)).flatMap Entry.text := by
  rw [valueStretches, written_flatMap, List.map_map, List.flatMap_map]
  refine List.flatMap_congr fun e he => ?_
  rw [Function.comp_apply]
  split
  · rename_i hname
    exact Entry.written_around (h e he hname)
  · exact e.written_stretches

/-- Where the stretches of a value are its text, those of the entries are theirs. -/
theorem written_valueStretches_self (name : String)
    (h : ∀ e ∈ entries, written false (inner e.value.value) = e.value.value.text) :
    written false (valueStretches name inner entries) = entries.flatMap Entry.text := by
  rw [written_valueStretches (fun e => e.value.value) fun e he _ => h e he]
  congr 1
  rw [List.map_map]
  refine (List.map_congr_left fun e _ => ?_).trans (List.map_id entries)
  rw [Function.comp_apply]
  split <;> rfl

theorem written_entryStretches (action : String) (entries : List Entry) :
    written edited (entryStretches action entries) =
      ((if edited then entriesWithAction action entries else entries).map
        (Entry.seen edited)).flatMap Entry.text := by
  have hfalse : ∀ entries : List Entry, entries.map (Entry.seen false) = entries := List.map_id
  rw [entryStretches, entriesWithAction_eq_acted, acted]
  dsimp only
  split
  · rw [written_valueStretches _ fun e _ _ => written_swapped e.value.value action]
    cases edited with
    | false =>
      congr 2
      refine (List.map_congr_left fun e _ => ?_).trans (List.map_id entries)
      split <;> rfl
    | true => rfl
  · have hadded : (addedEntry action).seen true = addedEntry action := rfl
    rcases first_cases (fun e : Entry => e.key.isBelow "action") entries with
      ⟨-, htake, hdrop⟩ | ⟨first, e, rest, rfl, -, he, -, htake, hdrop⟩
    · rw [htake, hdrop, written_append, written_entries]
      cases edited <;> simp [hadded]
    · have hdropped := written_dropped edited
        (fun e : Entry => e.key.isBelow "action") Entry.text Entry.stretches rest
      simp only [Entry.written_stretches] at hdropped
      rw [htake, hdrop, written_append, written_entries, written_cons, hdropped]
      cases edited with
      | false => simp [hfalse, Entry.seen_false]
      | true => simp [hadded, he, List.flatMap_map]

theorem written_commaed_fields (fields : List (Key × Spaced Node)) :
    written edited (commaed (fieldsStretches fields)) =
      fieldsText (fields.map (fieldSeen edited)) := by
  rw [written_commaed, written_fieldsStretches, fieldsText_eq, List.map_map]
  rfl

theorem fieldSeen_addedField (edited : Bool) (action : String) (fields : List (Key × Spaced Node)) :
    fieldSeen edited (addedField action fields) = addedField action fields := by
  rw [fieldSeen, addedField]
  dsimp only
  cases edited with
  | false => rfl
  | true => split <;> rfl

theorem written_ruleStretches (action : String) (fields : List (Key × Spaced Node)) :
    written edited (ruleStretches action fields) = fieldsText
      ((if edited then fieldsWithAction action fields else fields).map (fieldSeen edited)) := by
  have hfalse : ∀ fields : List (Key × Spaced Node), fields.map (fieldSeen false) = fields :=
    List.map_id
  rw [ruleStretches, fieldsWithAction_eq_acted, acted]
  dsimp only
  split
  · have hfield : ∀ f : Key × Spaced Node, (written edited ∘ fun f => fieldAround f
        (if f.1.names = ["action"] then [.swapped f.2.value.text (Node.ofString action).text]
          else f.2.value.stretches)) f = fieldText (fieldSeen edited (if f.1.names = ["action"]
            then fieldWithNode (if edited then .ofString action else f.2.value) f else f)) := by
      intro f
      rw [Function.comp_apply]
      split
      · exact written_fieldAround (written_swapped f.2.value action)
      · exact written_fieldAround (f.2.value.written_stretches edited)
    rw [written_commaed, List.map_map, fieldsText_eq, List.map_map,
      List.map_congr_left fun f _ => hfield f]
    congr 1
    cases edited with
    | false =>
      refine List.map_congr_left fun f _ => ?_
      rw [Function.comp_apply]
      split <;> rfl
    | true =>
      rw [if_pos rfl, List.map_map]
      rfl
  · have hadded := fieldSeen_addedField edited action fields
    generalize addedField action fields = added at hadded
    rcases first_cases (fun f : Key × Spaced Node => f.1.isBelow "action") fields with
      ⟨-, htake, hdrop⟩ | ⟨first, f, rest, rfl, -, hf, -, htake, hdrop⟩
    · rw [htake, hdrop]
      dsimp only
      rw [written_append, written_commaed_fields]
      cases edited with
      | false => simp
      | true =>
        cases fields with
        | nil => simp [fieldsText, hadded]
        | cons f fields =>
          have hold := fieldsText_append [] (fields.map (fieldSeen true)) (fieldSeen true f)
          have hnew := fieldsText_append [] (fields.map (fieldSeen true) ++ [added])
            (fieldSeen true f)
          simp only [List.nil_append] at hold hnew
          simp [hadded, hold, hnew]
    · have hcells : written edited (commaed (fieldsStretches first ++
          [[.swapped (fieldText f) (fieldText added)]])) =
            fieldsText (first.map (fieldSeen edited) ++ [if edited then added else f]) := by
        rw [written_commaed, List.map_append, written_fieldsStretches, fieldsText_eq,
          List.map_append, List.map_map]
        cases edited <;> simp <;> rfl
      have hdropped := written_dropped edited
        (fun f : Key × Spaced Node => f.1.isBelow "action") (fun f => ',' :: fieldText f)
        (fun f => .kept [','] :: fieldStretches f) rest
      simp only [written_cons, written_fieldStretches, text_kept] at hdropped
      rw [htake, hdrop]
      dsimp only
      rw [written_append, hcells, hdropped]
      cases edited with
      | false => simp [hfalse, fieldsText_append first rest f, fieldSeen, Spaced.seen_false]
      | true =>
        have hnew := fieldsText_append (first.map (fieldSeen true))
          ((rest.filter fun f => !f.1.isBelow "action").map (fieldSeen true)) added
        simp [hf, hadded, hnew, List.flatMap_map]

theorem written_nodeStretches (action : String) (node : Node) :
    written edited (nodeStretches action node) =
      ((if edited then nodeWithAction action node else node).seen edited).text := by
  cases node with
  | scalar | array => simp [nodeStretches, nodeWithAction, Node.written_stretches]
  | table fields comma tail =>
    rw [nodeStretches, written_bracketed, written_ruleStretches]
    cases edited <;> simp [nodeWithAction, Node.seen_table, Node.text]

theorem written_itemsAround {inner : List (List Stretch)} {items : List (Spaced Node)}
    (h : inner.map (written edited) = items.map fun i => spacedText (i.seen edited)) (comma : Bool)
    (tail : List Char) : written edited (bracketed '[' ']' (commaed inner) comma tail) =
      ((Node.array items comma tail).seen edited).text := by
  rw [written_bracketed, written_commaed, h, Node.seen_array, Node.text, itemsText_eq,
    List.map_map]
  rfl

theorem written_listStretches (code action : String) (node : Node) :
    written false (listStretches code action node) = node.text ∧
      ∀ node', listWithAction? code action node = some node' →
        written true (listStretches code action node) = node'.plain.text := by
  cases node with
  | scalar | table =>
    exact ⟨Node.written_stretches false _, fun node' h => by cases h⟩
  | array items comma tail =>
    have hitems : ∀ edited, written edited (listStretches code action (.array items comma tail)) =
        ((Node.array (items.map fun i => if isRuleNode code i.value then
          { i with value := if edited then nodeWithAction action i.value else i.value }
          else i) comma tail).seen edited).text := by
      intro edited
      refine written_itemsAround ?_ comma tail
      rw [List.map_map, List.map_map]
      refine List.map_congr_left fun i _ => ?_
      rw [Function.comp_apply, Function.comp_apply]
      split
      · exact Spaced.written_around (written_nodeStretches action i.value)
      · exact Spaced.written_around (i.value.written_stretches edited)
    constructor
    · have hsame : (items.map fun i => if isRuleNode code i.value then
          { i with value := if false = true then nodeWithAction action i.value else i.value }
          else i) = items :=
        (List.map_congr_left fun i _ => by split <;> rfl).trans (List.map_id items)
      rw [hitems, hsame]
      rfl
    · intro node' h
      rw [listWithAction?] at h
      split at h
      · obtain rfl := Option.some.inj h
        exact hitems true
      · cases h

theorem written_elementStretches (index : Nat) (target : String) (node : Node) :
    written false (elementStretches index target node) = node.text ∧
      ∀ node', withElement? index target node = some node' →
        written true (elementStretches index target node) = node'.plain.text := by
  cases node with
  | scalar | table =>
    exact ⟨Node.written_stretches false _, fun node' h => by cases h⟩
  | array items comma tail =>
    have hitems : ∀ edited, written edited
        (elementStretches index target (.array items comma tail)) =
          ((Node.array (items.modify index fun i =>
            { i with value := if edited then .ofString target else i.value }) comma
              tail).seen edited).text := by
      intro edited
      refine written_itemsAround ?_ comma tail
      refine List.ext_getElem (by simp) fun k h₁ h₂ => ?_
      simp only [List.getElem_map, List.getElem_mapIdx, List.getElem_modify]
      by_cases hk : index = k
      · rw [if_pos hk, if_pos hk.symm]
        exact Spaced.written_around (written_swapped _ target)
      · rw [if_neg hk, if_neg (Ne.symm hk)]
        exact Spaced.written_around (Node.written_stretches edited _)
    constructor
    · have hsame : (items.modify index fun i =>
          { i with value := if false = true then .ofString target else i.value }) = items :=
        List.modify_id index items
      rw [hitems, hsame]
      rfl
    · intro node' h
      rw [withElement?] at h
      split at h
      · obtain rfl := Option.some.inj h
        exact hitems true
      · cases h

theorem written_sectionStretches (code action : String) (inside : Bool) (sections : List Section) :
    written edited (sectionStretches code action inside sections) =
      ((if edited then sectionsWithAction code action inside sections else sections).map
        (Section.seen edited)).flatMap Section.text := by
  induction sections generalizing inside with
  | nil => cases edited <;> rfl
  | cons s sections ih =>
    rw [sectionStretches, sectionsWithAction]
    split
    · dsimp only
      generalize (_ && !_) = next
      rw [written_append, ih next]
      split
      · rw [Section.written_around (written_entryStretches action s.entries)]
        cases edited <;> rfl
      · rw [Section.written_around (written_entries s.entries)]
        cases edited <;> rfl
    · split
      · rw [written_cons, ih inside]
        cases edited with
        | false => simp [Section.seen_false]
        | true => simp
      · rw [written_append, ih inside, Section.written_stretches]
        cases edited <;> rfl

/-! ### Edits -/

/-- An edit of a document: of the action of every rule of a code, or of the import at an
index. -/
inductive Edit where
  | action (code : String) (s : Severity)
  | redirect (index : Nat) (target : String)

namespace Edit

/-- The edit of a document that is read; nothing if there is nothing to change. -/
def change? : Edit → Toml.Document → Option Toml.Document
  | .action code s, doc => withAction? code s doc
  | .redirect index target, doc => withImport? index target doc

/-- The stretches of a document. -/
def stretches : Edit → Toml.Document → List Stretch
  | .action code s, doc =>
    if doc.sections.any (isRuleSection code) then
      doc.entries.flatMap Entry.stretches ++
        sectionStretches code s.text false doc.sections ++ [.gap doc.tail]
    else valueStretches "rules" (listStretches code s.text) doc.entries ++
      doc.sections.flatMap Section.stretches ++ [.gap doc.tail]
  | .redirect index target, doc =>
    valueStretches "imports" (elementStretches index target) doc.entries ++
      doc.sections.flatMap Section.stretches ++ [.gap doc.tail]

end Edit

variable {doc doc' : Toml.Document} {change : Node → Option Node}

theorem map_seen_false (doc : Toml.Document) :
    doc.entries.map (Entry.seen false) = doc.entries ∧
      doc.sections.map (Section.seen false) = doc.sections :=
  ⟨List.map_id _, (List.map_congr_left fun s _ => s.seen_false).trans (List.map_id _)⟩

theorem unixText_eq (doc : Toml.Document) : doc.unixText =
    (doc.entries.map (Entry.seen true)).flatMap Entry.text ++
      (doc.sections.map (Section.seen true)).flatMap Section.text ++ gapSeen true doc.tail := by
  rw [Toml.Document.unixText, Toml.Document.text, Toml.Document.plain,
    List.map_congr_left fun e _ => Entry.seen_true e,
    List.map_congr_left fun s _ => Section.seen_true s]
  rfl

/-- Before an edit the stretches of a document are its text. -/
theorem written_false_stretches (e : Edit) (doc : Toml.Document) :
    written false (e.stretches doc) = doc.text := by
  obtain ⟨hentries, hsections⟩ := map_seen_false doc
  cases e with
  | action code s =>
    have hlist := written_valueStretches_self "rules" fun (e : Entry)
      (_ : e ∈ doc.entries) => (written_listStretches code s.text e.value.value).1
    rw [Edit.stretches, Toml.Document.text]
    split
    · simp [written_entries, written_sectionStretches, hentries, hsections, gapSeen]
    · simp [hlist, written_sections, hsections, gapSeen]
  | redirect index target =>
    have hlist := written_valueStretches_self "imports" fun (e : Entry)
      (_ : e ∈ doc.entries) => (written_elementStretches index target e.value.value).1
    simp [Edit.stretches, Toml.Document.text, hlist, written_sections, hsections, gapSeen]

/-- A document that is accepted gives a name its value once. -/
theorem value_eq_of_names (haccepted : doc.fields?.isSome = true) {e e' : Entry}
    (he : e ∈ doc.entries) (he' : e' ∈ doc.entries) (hname : e.key.names = [name])
    (hname' : e'.key.names = [name]) : e.value = e'.value := by
  obtain ⟨said, hsaid⟩ := Option.isSome_iff_exists.1 haccepted
  obtain ⟨t, -, ht, -⟩ := exists_of_fields? hsaid
  exact (Prod.mk.inj (eq_of_names ht (List.mem_map_of_mem he) (List.mem_map_of_mem he')
    hname hname')).2

/-- The value that changes is the one under the name. -/
theorem written_changeValue? (haccepted : doc.fields?.isSome = true)
    (h : changeValue? name change doc.entries = some entries)
    (hinner : ∀ node node', change node = some node' →
      written true (inner node) = node'.plain.text) :
    written true (valueStretches name inner doc.entries) =
      (entries.map (Entry.seen true)).flatMap Entry.text := by
  obtain ⟨e, he, h⟩ := Option.bind_eq_some_iff.1 h
  obtain ⟨node, hnode, h⟩ := Option.bind_eq_some_iff.1 h
  obtain rfl := Option.some.inj h
  have hname : e.key.names = [name] := by simpa using List.find?_some he
  refine written_valueStretches (fun _ => node) fun e' he' hname' => ?_
  rw [← value_eq_of_names haccepted (List.mem_of_find?_eq_some he) he' hname hname']
  exact hinner _ _ hnode

/-- **After an edit the stretches are what is written of the edited document.** -/
theorem written_true_stretches (e : Edit) (haccepted : doc.fields?.isSome = true)
    (h : e.change? doc = some doc') : written true (e.stretches doc) = doc'.unixText := by
  rw [unixText_eq]
  cases e with
  | action code s =>
    rw [Edit.change?, withAction?] at h
    rw [Edit.stretches]
    split at h
    · obtain rfl := Option.some.inj h
      rename_i hsections
      rw [if_pos hsections]
      simp [written_entries, written_sectionStretches]
    · obtain ⟨entries, hentries, rfl⟩ := Option.map_eq_some_iff.1 h
      rename_i hsections
      rw [if_neg hsections]
      simp [written_sections, written_changeValue? haccepted hentries
        fun node node' hnode => (written_listStretches code s.text node).2 node' hnode]
  | redirect index target =>
    obtain ⟨entries, hentries, rfl⟩ := Option.map_eq_some_iff.1 h
    simp [Edit.stretches, written_sections, written_changeValue? haccepted
      hentries fun node node' hnode => (written_elementStretches index target node).2 node' hnode]

end Ruleset
end LintWorkspace
