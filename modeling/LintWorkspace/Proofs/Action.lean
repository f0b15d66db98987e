/-
# Setting an action changes nothing else

`withAction?` gives every rule of a code in a document another action.  On a document that
can be decoded every such rule has a plain action already, so the edit only replaces values
(`sectionsWithAction_eq`, `fieldsWithAction_eq`), in sections or in a list
(`withAction?_cases`): what the document says stays the same but for the actions of rules of
that code (`fields?_withAction?`), so it is decoded to the same imports and the same rules, of
which only those of that code may have the new action (`RulesSet.ofFields`).

Rules stand in `[[rules]]` sections or in a list.  A section is followed by sections below
it, which give the rule further fields; the two runs of `Proofs.Elements` take care of them.
-/

import LintWorkspace.Proofs.Decode
import LintWorkspace.Proofs.Elements
import LintWorkspace.Ruleset.Edit

namespace LintWorkspace
namespace Ruleset

open Toml

variable {code action : String} {fields : List (Key × Spaced Node)} {t u : GrowingTable}

/-! ### One rule -/

theorem value?_of_isString {node : Node} (h : node.isString code = true) :
    node.value? = some (.scalar (.string code)) := by
  cases node with
  | scalar spelling v =>
    cases v with
    | string s =>
      obtain rfl : s = code := of_decide_eq_true h
      rfl
    | _ => cases h
  | array | table => cases h

theorem growing_of_value {g : Growing} {x : Scalar} (h : g.value = .scalar x) :
    g = .finished (.scalar x) := by
  cases g with
  | finished v => rw [Growing.value] at h; rw [h]
  | table | tables => rw [Growing.value] at h; cases h

/-- The fields of a rule of a code that has an action. -/
structure Graded (code : String) (fields : List (Key × Spaced Node)) : Prop where
  code : ∃ f ∈ fields, givesCode code f.1 f.2 = true
  action : ∃ f ∈ fields, f.1.names = ["action"]

/-- A table that may become the same with another action. -/
def ElementSet (code action : String) (fs fs' : GrowingFields) : Prop :=
  fs' = fs ∨ (fs.map Prod.fst).Nodup ∧
    lookup? "code" fs = some (.finished (.scalar (.string code))) ∧
      (∃ v, lookup? "action" fs = some (.finished v)) ∧
        fs' = setField "action" (.finished (.scalar (.string action))) fs

/-- A rule with the value of its action replaced is the same table with another action. -/
theorem elementSet_of_growFields? (action : String) (h : Graded code fields)
    (ht : growFields? (.header, []) fields = some t) :
    ∃ t', growFields? (.header, []) (withValue "action" (.ofString action) fields) = some t' ∧
      ElementSet code action t.2 t'.2 := by
  have hnode : (Node.ofString action).value? = some (.scalar (.string action)) := rfl
  obtain ⟨⟨v, hv⟩, hsame⟩ := growFields?_withValue hnode h.action ht
  obtain ⟨f, hf, hcode⟩ := h.code
  simp only [givesCode, Bool.and_eq_true, decide_eq_true_eq] at hcode
  obtain ⟨w, hw, hlookup⟩ := lookup?_of_growFields? ht hf hcode.1
  rw [itemValue?_eq, value?_of_isString hcode.2] at hw
  obtain rfl := Option.some.inj hw
  exact ⟨_, hsame, .inr ⟨nodup_growFields? fields ht (by simp), hlookup, ⟨v, hv⟩, rfl⟩⟩

theorem ElementSet.refl (fs : GrowingFields) : ElementSet code action fs fs := .inl rfl

/-- A section below a rule changes it alike with another action. -/
theorem steady_elementSet : Steady (ElementSet code action) := by
  intro s m path o fs gs fs' hbelow hset
  rcases hset with rfl | ⟨hnodup, hcode, ⟨v, hv⟩, rfl⟩
  · exact ⟨gs, hbelow, .inl rfl⟩
  · have hspares : Spares (below s m path) :=
      spares_alterAt? (spares_changeField? m (keeps_newSection? s))
    have hkeeps : KeepsNodup (below s m path) := nodup_alterAt? (nodup_changeField? m _)
    obtain ⟨hv', hsame⟩ := hspares hbelow hv
    exact ⟨_, hsame _, .inr ⟨hkeeps hbelow hnodup, (hspares hbelow hcode).1, ⟨v, hv'⟩, rfl⟩⟩

/-- What two such tables say. -/
theorem ElementSet.actionSet {fs fs' : GrowingFields} (h : ElementSet code action fs fs') :
    ActionSet code action (.table (fieldValues fs)) (.table (fieldValues fs')) := by
  rcases h with rfl | ⟨hnodup, hcode, -, rfl⟩
  · exact .same _
  · rw [fieldValues_setField, Growing.value]
    refine .set (by rwa [names_fieldValues]) ?_
    rw [lookup?_fieldValues, hcode, Option.map_some, Growing.value]

theorem actionSet_elementValues {es es' : List GrowingFields}
    (h : List.Forall₂ (ElementSet code action) es es') :
    List.Forall₂ (ActionSet code action) (elementValues es) (elementValues es') := by
  rw [elementValues_eq, elementValues_eq, List.forall₂_map_left_iff, List.forall₂_map_right_iff]
  exact h.imp fun _ _ => ElementSet.actionSet

/-- A table that is decoded to a rule has a plain action. -/
theorem plain_of_ofFields {fs : GrowingFields} {r : Rule}
    (h : Rule.ofFields (fieldValues fs) = .ok r) :
    ∃ v, lookup? "action" fs = some (.finished v) := by
  obtain ⟨a, ha⟩ := Rule.exists_action_of_ofFields h
  rw [lookup?_fieldValues] at ha
  obtain ⟨g, hg, hvalue⟩ := Option.map_eq_some_iff.1 ha
  exact ⟨_, hg.trans (congrArg some (growing_of_value hvalue))⟩

/-- A list has no element of a kind, or a first one. -/
theorem first_cases {α : Type} (p : α → Bool) (xs : List α) :
    (xs.any p = false ∧ (xs.takeWhile fun x => !p x) = xs ∧ (xs.dropWhile fun x => !p x) = []) ∨
      ∃ first x rest, xs = first ++ x :: rest ∧ (∀ y ∈ first, p y = false) ∧ p x = true ∧
        xs.any p = true ∧ (xs.takeWhile fun x => !p x) = first ∧
          (xs.dropWhile fun x => !p x) = x :: rest := by
  induction xs with
  | nil => exact .inl ⟨rfl, rfl, rfl⟩
  | cons x xs ih =>
    cases hx : p x with
    | true => exact .inr ⟨[], x, xs, rfl, by simp, hx, by simp [hx], by simp [hx], by simp [hx]⟩
    | false =>
      rcases ih with ⟨hany, htake, hdrop⟩ | ⟨first, y, rest, rfl, hfirst, hy, hany, htake, hdrop⟩
      · exact .inl ⟨by simpa [hx] using hany, by simp [hx, htake], by simp [hx, hdrop]⟩
      · exact .inr ⟨x :: first, y, rest, rfl, List.forall_mem_cons.2 ⟨hx, hfirst⟩, hy,
          by simpa [hx] using hany, by simp [hx, htake], by simp [hx, hdrop]⟩

/-! ### Rules in a list -/

theorem fieldsWithAction_eq (h : ∃ f ∈ fields, f.1.names = ["action"]) :
    fieldsWithAction action fields = withValue "action" (.ofString action) fields := by
  obtain ⟨f, hf, hname⟩ := h
  have hany : (fields.any fun f => f.1.names = ["action"]) = true :=
    List.any_eq_true.2 ⟨f, hf, by simpa using hname⟩
  rw [fieldsWithAction, if_pos hany, withValue]

/-- An element of a list of rules with its action set. -/
def itemWithAction (code action : String) (i : Spaced Node) : Spaced Node :=
  if isRuleNode code i.value then { i with value := nodeWithAction action i.value } else i

/-- A rule of a code in a list that can be decoded has an action. -/
theorem graded_of_isRuleNode {node : Node} {v : Value} {r : Rule}
    (hnode : isRuleNode code node = true) (hv : node.value? = some v)
    (hr : Rule.ofValue v = .ok r) : ∃ fields comma tail t, node = .table fields comma tail ∧
      Graded code fields ∧ growFields? (.header, []) fields = some t ∧
        v = .table (fieldValues t.2) := by
  cases node with
  | scalar | array => cases hnode
  | table fields comma tail =>
    obtain ⟨t, ht, rfl⟩ := Option.map_eq_some_iff.1 hv
    obtain ⟨w, hw⟩ := plain_of_ofFields hr
    have haction : ∃ f ∈ fields, f.1.names = ["action"] := by
      rcases plain_of_growFields? ht ⟨w, hw⟩ with ⟨w, hw⟩ | h
      · simp [lookup?] at hw
      · exact h
    exact ⟨fields, comma, tail, t, rfl, ⟨List.any_eq_true.1 hnode, haction⟩, ht, rfl⟩

theorem value?_itemWithAction {i : Spaced Node} {v : Value} {r : Rule} (hv : itemValue? i = some v)
    (hr : Rule.ofValue v = .ok r) : ∃ v', itemValue? (itemWithAction code action i) = some v' ∧
      ActionSet code action v v' := by
  rw [itemValue?_eq] at hv
  rw [itemValue?_eq, itemWithAction]
  split
  · rename_i hnode
    obtain ⟨fields, comma, tail, t, hi, hgraded, ht, rfl⟩ := graded_of_isRuleNode hnode hv hr
    obtain ⟨t', ht', hset⟩ := elementSet_of_growFields? action hgraded ht
    refine ⟨.table (fieldValues t'.2), ?_, hset.actionSet⟩
    rw [hi, nodeWithAction, Node.value?, fieldsWithAction_eq hgraded.action, ht', Option.map_some]
  · exact ⟨v, hv, .same v⟩

theorem itemValues?_itemWithAction (code action : String) {items : List (Spaced Node)}
    {vs : List Value} {rules : List Rule} (hvs : itemValues? items = some vs)
    (hrules : List.Forall₂ (fun v r => Rule.ofValue v = .ok r) vs rules) :
    ∃ vs', itemValues? (items.map (itemWithAction code action)) = some vs' ∧
      List.Forall₂ (ActionSet code action) vs vs' := by
  induction items generalizing vs rules with
  | nil =>
    obtain rfl : [] = vs := by simpa [itemValues?] using hvs
    exact ⟨[], rfl, .nil⟩
  | cons i items ih =>
    rw [itemValues?] at hvs
    obtain ⟨v, hv, hvs⟩ := Option.bind_eq_some_iff.1 hvs
    obtain ⟨vs, hmore, hvs⟩ := Option.bind_eq_some_iff.1 hvs
    obtain rfl := Option.some.inj hvs
    cases hrules with
    | cons hr hrs =>
      obtain ⟨v', hv', hset⟩ := value?_itemWithAction hv hr
      obtain ⟨vs', hvs', hsets⟩ := ih hmore hrs
      refine ⟨v' :: vs', ?_, .cons hset hsets⟩
      rw [List.map_cons, itemValues?, hv', hvs']
      rfl

/-! ### Rules in sections -/

/-- The entries with the value under a name replaced. -/
def entriesWithNode (name : String) (node : Node) (entries : List Entry) : List Entry :=
  entries.map fun e =>
    if e.key.names = [name] then { e with value := { e.value with value := node } } else e

theorem fieldsOf_entriesWithNode (name : String) (node : Node) (entries : List Entry) :
    fieldsOf (entriesWithNode name node entries) = withValue name node (fieldsOf entries) := by
  rw [entriesWithNode, fieldsOf, fieldsOf, withValue, List.map_map, List.map_map]
  refine List.map_congr_left fun e _ => ?_
  simp only [Function.comp_apply]
  split <;> rfl

theorem entriesWithAction_eq (action : String) {entries : List Entry}
    (h : ∃ f ∈ fieldsOf entries, f.1.names = ["action"]) :
    entriesWithAction action entries = entriesWithNode "action" (.ofString action) entries := by
  obtain ⟨f, hf, hname⟩ := h
  obtain ⟨e, he, rfl⟩ := List.mem_map.1 hf
  have hany : (entries.any fun e => e.key.names = ["action"]) = true :=
    List.any_eq_true.2 ⟨e, he, by simpa using hname⟩
  rw [entriesWithAction, if_pos hany, entriesWithNode]

/-- A section with its action set if it is a rule of the code. -/
def sectionWithAction (code action : String) (s : Section) : Section :=
  if isRuleSection code s then { s with entries := entriesWithAction action s.entries } else s

/-- A rule in a section of its own. -/
theorem isRuleSection_iff {s : Section} : isRuleSection code s = true ↔
    s.ofArray = true ∧ s.key.names = ["rules"] ∧
      ∃ f ∈ fieldsOf s.entries, givesCode code f.1 f.2 = true := by
  simp [isRuleSection, fieldsOf, and_assoc]

/-- When every rule of the code has an action, the edit replaces values only. -/
theorem sectionsWithAction_eq {sections : List Section}
    (h : ∀ s ∈ sections, isRuleSection code s = true →
      ∃ f ∈ fieldsOf s.entries, f.1.names = ["action"]) :
    sectionsWithAction code action false sections =
      sections.map (sectionWithAction code action) := by
  induction sections with
  | nil => rfl
  | cons s sections ih =>
    obtain ⟨hs, hsections⟩ := List.forall_mem_cons.1 h
    have hmore := ih hsections
    rw [sectionsWithAction, List.map_cons]
    split
    · rename_i hrules
      cases hcode : s.entries.any fun e => givesCode code e.key e.value with
      | false =>
        have hnot : isRuleSection code s = false := by
          rw [isRuleSection, hcode, Bool.and_false]
        simp [hmore, sectionWithAction, hnot]
      | true =>
        have hhit : isRuleSection code s = true := by
          rw [isRuleSection, hcode, Bool.and_true]
          exact hrules
        obtain ⟨f, hf, hname⟩ := hs hhit
        obtain ⟨e, he, rfl⟩ := List.mem_map.1 hf
        have hplain : (s.entries.any fun e => e.key.names = ["action"]) = true :=
          List.any_eq_true.2 ⟨e, he, by simpa using hname⟩
        simp [hplain, hmore, sectionWithAction, hhit]
    · rename_i hrules
      have hnot : isRuleSection code s = false := by
        rw [isRuleSection, Bool.and_eq_false_iff]
        exact .inl (by simpa using hrules)
      simp [hmore, sectionWithAction, hnot]

theorem sectionPair_sectionWithAction {s : Section}
    (h : isRuleSection code s = true → ∃ f ∈ fieldsOf s.entries, f.1.names = ["action"]) :
    SectionPair (ElementSet code action) "rules" s (sectionWithAction code action s) := by
  rw [sectionWithAction]
  split
  · rename_i hrule
    obtain ⟨harray, hname, hcode⟩ := isRuleSection_iff.1 hrule
    refine .inr ⟨harray, hname, harray, rfl, fun {inner} hinner => ?_⟩
    rw [addEntries?_eq] at hinner ⊢
    rw [entriesWithAction_eq action (h hrule), fieldsOf_entriesWithNode]
    exact elementSet_of_growFields? action ⟨hcode, h hrule⟩ hinner
  · exact .inl rfl

/-! ### What a document says with the action set -/

variable {sev : Severity} {doc doc' : Toml.Document} {said : List (String × Value)}
  {decoded : Document}

/-- The fields of a document with their rules graded anew. -/
def RulesSet (code action : String) (said said' : List (String × Value)) : Prop :=
  said' = said ∨ ∃ items items', lookup? "rules" said = some (.sequence items) ∧
    List.Forall₂ (ActionSet code action) items items' ∧
      said' = setField "rules" (.sequence items') said

theorem nodup_of_fields? (h : doc.fields? = some said) : (said.map Prod.fst).Nodup := by
  obtain ⟨t, ht, h⟩ := Option.bind_eq_some_iff.1 h
  obtain ⟨u, hu, h⟩ := Option.bind_eq_some_iff.1 h
  obtain rfl := Option.some.inj h
  rw [names_fieldValues]
  rw [addEntries?_eq] at ht
  exact nodup_foldlM nodup_addSection? doc.sections hu (nodup_growFields? _ ht (by simp))

/-- The rules that are decoded are what stands in the list of rules. -/
theorem rules_of_ofFields (hsaid : doc.fields? = some said)
    (hdecoded : Document.ofFields said = .ok decoded) {items : List Value}
    (hitems : lookup? "rules" said = some (.sequence items)) :
    List.Forall₂ (fun v r => Rule.ofValue v = .ok r) items decoded.rules := by
  obtain ⟨-, hrules, -⟩ := Document.lookup?_of_ofFields (nodup_of_fields? hsaid) hdecoded
  exact mapM_eq_ok_iff.1 (hrules _ hitems)

/-- **A document with its rules graded anew** is decoded to the same imports and those rules. -/
theorem RulesSet.ofFields {said' : List (String × Value)} (h : RulesSet code action said said')
    (hsaid : doc.fields? = some said) (hdecoded : Document.ofFields said = .ok decoded) :
    ∃ rules, Document.ofFields said' = .ok { decoded with rules } ∧
      List.Forall₂ (Regraded code action) decoded.rules rules := by
  rcases h with rfl | ⟨items, items', hitems, hset, rfl⟩
  · exact ⟨decoded.rules, hdecoded, List.forall₂_same.2 fun r _ => .inl rfl⟩
  · have hrules := mapM_eq_ok_iff.2 (rules_of_ofFields hsaid hdecoded hitems)
    obtain ⟨rules, hrules', hregraded⟩ := regraded_mapM hset hrules
    exact ⟨rules, Document.ofFields_setRules (nodup_of_fields? hsaid) hdecoded hrules', hregraded⟩

/-- A rule section of a document that can be decoded has an action. -/
theorem exists_action_of_isRuleSection (hsaid : doc.fields? = some said)
    (hdecoded : Document.ofFields said = .ok decoded) {s : Section} (hs : s ∈ doc.sections)
    (hrule : isRuleSection code s = true) : ∃ f ∈ fieldsOf s.entries, f.1.names = ["action"] := by
  refine Decidable.byContradiction fun hnone => ?_
  have hsections := hsaid
  obtain ⟨t, -, h⟩ := Option.bind_eq_some_iff.1 hsections
  obtain ⟨u, hu, h⟩ := Option.bind_eq_some_iff.1 h
  obtain rfl := Option.some.inj h
  obtain ⟨t₁, t₂, after, hstep, hu⟩ := exists_step_of_mem hs hu
  obtain ⟨harray, hname, -⟩ := isRuleSection_iff.1 hrule
  -- the table that the section adds lacks an action, and no later section gives it one
  have hlacks : Lacks "rules" "action" t₂ := by
    rw [addSection?_single hname] at hstep
    obtain ⟨x, hx, rfl⟩ := Option.map_eq_some_iff.1 hstep
    obtain ⟨es, inner, -, hinner, rfl⟩ := lookup?_tables_of_newSection? harray hx
    refine ⟨_, inner.2, lookup?_setField_self, by simp, fun v hv => ?_⟩
    rw [addEntries?_eq] at hinner
    rcases plain_of_growFields? hinner ⟨v, hv⟩ with ⟨w, hw⟩ | haction
    · simp [lookup?] at hw
    · exact hnone haction
  obtain ⟨es, fs, hes, hfs, hno⟩ := lacks_foldlM hlacks hu
  have hrules : List.Forall₂ _ (elementValues es) decoded.rules :=
    rules_of_ofFields hsaid hdecoded
      (by rw [lookup?_fieldValues, hes, Option.map_some, Growing.value])
  rw [elementValues_eq, List.forall₂_map_left_iff] at hrules
  obtain ⟨r, -, hr⟩ := exists_of_mem_forall₂ hrules hfs
  obtain ⟨v, hv⟩ := plain_of_ofFields hr
  exact hno v hv

/-- What a document says under the name of an entry. -/
theorem lookup?_of_fields? (hsaid : doc.fields? = some said) {e : Entry} (he : e ∈ doc.entries)
    {name : String} (hname : e.key.names = [name]) :
    ∃ v, e.value.value.value? = some v ∧ lookup? name said = some v := by
  obtain ⟨t, u, ht, hu, rfl⟩ := exists_of_fields? hsaid
  obtain ⟨v, hv, hlookup⟩ := lookup?_of_growFields? ht (List.mem_map_of_mem he) hname
  have hspares := (spares_foldlM spares_addSection? doc.sections hu hlookup).1
  exact ⟨v, (itemValue?_eq _).symm.trans hv,
    by rw [lookup?_fieldValues, hspares, Option.map_some, Growing.value]⟩

/-- The list of a document that is written under a name. -/
theorem exists_itemValues? (hsaid : doc.fields? = some said) {e : Entry} (he : e ∈ doc.entries)
    {name : String} (hname : e.key.names = [name]) {items : List (Spaced Node)} {comma : Bool}
    {tail : List Char} (hvalue : e.value.value = .array items comma tail) :
    ∃ vs, itemValues? items = some vs ∧ lookup? name said = some (.sequence vs) := by
  obtain ⟨v, hv, hlookup⟩ := lookup?_of_fields? hsaid he hname
  rw [hvalue, Node.value?] at hv
  obtain ⟨vs, hvs, rfl⟩ := Option.map_eq_some_iff.1 hv
  exact ⟨vs, hvs, hlookup⟩

/-- What a document says with the value of an entry replaced. -/
theorem fields?_entriesWithNode (hsaid : doc.fields? = some said) {e : Entry}
    (he : e ∈ doc.entries) {name : String} (hname : e.key.names = [name]) {node : Node}
    {w : Value} (hnode : node.value? = some w) :
    Toml.Document.fields? ⟨entriesWithNode name node doc.entries, doc.sections, doc.tail⟩ =
      some (setField name w said) := by
  obtain ⟨t, u, ht, hu, rfl⟩ := exists_of_fields? hsaid
  have hfield : ∃ f ∈ fieldsOf doc.entries, f.1.names = [name] :=
    ⟨_, List.mem_map_of_mem he, hname⟩
  obtain ⟨⟨v, hv⟩, ht'⟩ := growFields?_withValue hnode hfield ht
  have hsections := (spares_foldlM spares_addSection? doc.sections hu hv).2 w
  rw [Toml.Document.fields?, addEntries?_eq, fieldsOf_entriesWithNode, ht']
  simp only [hsections, Option.bind_eq_bind, Option.bind_some]
  rw [fieldValues_setField, Growing.value]

/-- A value that an edit puts in is made of the one that was there. -/
theorem of_changeValue? {name : String} {change : Node → Option Node}
    {entries entries' : List Entry} (h : changeValue? name change entries = some entries') :
    ∃ e ∈ entries, e.key.names = [name] ∧ ∃ node, change e.value.value = some node ∧
      entries' = entriesWithNode name node entries := by
  obtain ⟨e, he, h⟩ := Option.bind_eq_some_iff.1 h
  obtain ⟨node, hnode, h⟩ := Option.bind_eq_some_iff.1 h
  exact ⟨e, List.mem_of_find?_eq_some he, by simpa using List.find?_some he, node, hnode,
    (Option.some.inj h).symm⟩

/-- An edit of a list of rules replaces the list. -/
theorem exists_of_changeValue? {entries entries' : List Entry}
    (h : changeValue? "rules" (listWithAction? code action) entries = some entries') :
    ∃ e ∈ entries, e.key.names = ["rules"] ∧ ∃ items comma tail,
      e.value.value = .array items comma tail ∧ entries' = entriesWithNode "rules"
        (.array (items.map (itemWithAction code action)) comma tail) entries := by
  obtain ⟨e, he, hname, node, hnode, rfl⟩ := of_changeValue? h
  refine ⟨e, he, hname, ?_⟩
  cases hvalue : e.value.value with
  | scalar | table =>
    rw [hvalue] at hnode
    cases hnode
  | array items comma tail =>
    rw [hvalue, listWithAction?] at hnode
    split at hnode
    · obtain rfl := Option.some.inj hnode
      exact ⟨items, comma, tail, rfl, rfl⟩
    · cases hnode

/-- The rules that stand in sections. -/
theorem fields?_sectionsWithAction (hsaid : doc.fields? = some said)
    (hdecoded : Document.ofFields said = .ok decoded) :
    ∃ said', Toml.Document.fields? ⟨doc.entries, doc.sections.map (sectionWithAction code action),
      doc.tail⟩ = some said' ∧ RulesSet code action said said' := by
  have hpairs : List.Forall₂ (SectionPair (ElementSet code action) "rules") doc.sections
      (doc.sections.map (sectionWithAction code action)) := by
    rw [List.forall₂_map_right_iff, List.forall₂_same]
    exact fun s hs => sectionPair_sectionWithAction
      (exists_action_of_isRuleSection hsaid hdecoded hs)
  obtain ⟨t, u, ht, hu, rfl⟩ := exists_of_fields? hsaid
  obtain ⟨v, hv, hsets⟩ := pairs_foldlM ElementSet.refl steady_elementSet hpairs (.inl rfl) hu
  refine ⟨fieldValues v.2, ?_, ?_⟩
  · rw [Toml.Document.fields?, addEntries?_eq]
    simp only [ht, hv, Option.bind_eq_bind, Option.bind_some]
  · rcases hsets with rfl | ⟨es, es', hes, hset, rfl⟩
    · exact .inl rfl
    · refine .inr ⟨elementValues es, elementValues es', ?_, actionSet_elementValues hset, ?_⟩
      · rw [lookup?_fieldValues, hes, Option.map_some, Growing.value]
      · rw [fieldValues_setField, Growing.value]

/-- The rules that stand in a list. -/
theorem fields?_itemsWithAction (hsaid : doc.fields? = some said)
    (hdecoded : Document.ofFields said = .ok decoded) {e : Entry} (he : e ∈ doc.entries)
    (hname : e.key.names = ["rules"]) {items : List (Spaced Node)} {comma : Bool}
    {tail : List Char} (hvalue : e.value.value = .array items comma tail) :
    ∃ said', Toml.Document.fields? ⟨entriesWithNode "rules" (.array (items.map
        (itemWithAction code action)) comma tail) doc.entries, doc.sections, doc.tail⟩ =
          some said' ∧ RulesSet code action said said' := by
  obtain ⟨vs, hvs, hlookup⟩ := exists_itemValues? hsaid he hname hvalue
  obtain ⟨vs', hvs', hset⟩ :=
    itemValues?_itemWithAction code action hvs (rules_of_ofFields hsaid hdecoded hlookup)
  have hnode : (Node.array (items.map (itemWithAction code action)) comma tail).value? =
      some (.sequence vs') := by rw [Node.value?, hvs', Option.map_some]
  exact ⟨_, fields?_entriesWithNode hsaid he hname hnode, .inr ⟨vs, vs', hlookup, hset, rfl⟩⟩

theorem exists_itemValue?_of_mem {items : List (Spaced Node)} {vs : List Value}
    (h : itemValues? items = some vs) {i : Spaced Node} (hi : i ∈ items) :
    ∃ v ∈ vs, itemValue? i = some v := by
  induction items generalizing vs with
  | nil => cases hi
  | cons j items ih =>
    rw [itemValues?] at h
    obtain ⟨v, hv, h⟩ := Option.bind_eq_some_iff.1 h
    obtain ⟨vs, hmore, h⟩ := Option.bind_eq_some_iff.1 h
    obtain rfl := Option.some.inj h
    rcases List.mem_cons.1 hi with rfl | hi
    · exact ⟨v, List.mem_cons_self, hv⟩
    · obtain ⟨w, hw, hvalue⟩ := ih hmore hi
      exact ⟨w, List.mem_cons_of_mem _ hw, hvalue⟩

/-- A rule in the list of rules of a document that can be decoded has an action. -/
theorem exists_action_of_isRuleNode (hsaid : doc.fields? = some said)
    (hdecoded : Document.ofFields said = .ok decoded) {e : Entry} (he : e ∈ doc.entries)
    (hname : e.key.names = ["rules"]) {items : List (Spaced Node)} {comma : Bool}
    {tail : List Char} (hvalue : e.value.value = .array items comma tail) {i : Spaced Node}
    (hi : i ∈ items) (hrule : isRuleNode code i.value = true) : ∃ fields comma tail,
      i.value = .table fields comma tail ∧ ∃ f ∈ fields, f.1.names = ["action"] := by
  obtain ⟨vs, hvs, hlookup⟩ := exists_itemValues? hsaid he hname hvalue
  obtain ⟨v, hv, hitem⟩ := exists_itemValue?_of_mem hvs hi
  obtain ⟨r, -, hr⟩ := exists_of_mem_forall₂ (rules_of_ofFields hsaid hdecoded hlookup) hv
  rw [itemValue?_eq] at hitem
  obtain ⟨fields, comma, tail, t, hnode, hgraded, -, -⟩ := graded_of_isRuleNode hrule hitem hr
  exact ⟨fields, comma, tail, hnode, hgraded.action⟩

/-- The edit changes the sections of a document or its list of rules. -/
theorem withAction?_cases (hsaid : doc.fields? = some said)
    (hdecoded : Document.ofFields said = .ok decoded)
    (h : withAction? code sev doc = some doc') :
    doc' = ⟨doc.entries, doc.sections.map (sectionWithAction code sev.text), doc.tail⟩ ∨
      ∃ e ∈ doc.entries, e.key.names = ["rules"] ∧ ∃ items comma tail,
        e.value.value = .array items comma tail ∧ doc' = ⟨entriesWithNode "rules"
          (.array (items.map (itemWithAction code sev.text)) comma tail) doc.entries,
            doc.sections, doc.tail⟩ := by
  rw [withAction?] at h
  split at h
  · obtain rfl := Option.some.inj h
    refine .inl ?_
    rw [sectionsWithAction_eq fun s hs => exists_action_of_isRuleSection hsaid hdecoded hs]
  · obtain ⟨entries', hentries, rfl⟩ := Option.map_eq_some_iff.1 h
    obtain ⟨e, he, hname, items, comma, tail, hvalue, rfl⟩ := exists_of_changeValue? hentries
    exact .inr ⟨e, he, hname, items, comma, tail, hvalue, rfl⟩

/-- **What a document says stays the same** but for the actions of the rules of a code. -/
theorem fields?_withAction? (hsaid : doc.fields? = some said)
    (hdecoded : Document.ofFields said = .ok decoded) (h : withAction? code sev doc = some doc') :
    ∃ said', doc'.fields? = some said' ∧ RulesSet code sev.text said said' := by
  rcases withAction?_cases hsaid hdecoded h with rfl | ⟨e, he, hname, items, _, _, hvalue, rfl⟩
  · exact fields?_sectionsWithAction hsaid hdecoded
  · exact fields?_itemsWithAction hsaid hdecoded he hname hvalue

end Ruleset
end LintWorkspace
