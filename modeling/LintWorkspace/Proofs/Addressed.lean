/-
# The rules that an edit finds

An edit looks for rules where a document writes them (`RuleTable`): sections `[[rules]]`, or
inline tables in the list of rules.  What the document says in the end stands elsewhere, in
the list of values under `rules`.  Two lemmas lead from the one to the other:

| lemma | says |
| --- | --- |
| `forall_rules` | what holds of every rule table as it is written holds of every rule |
| `exists_rule` | what holds of a rule table as it is written holds of some rule |

Both need a property that sections below a rule do not change (`Stable`), such as that it has a
code.  So an edit finds something exactly if a rule that is a table has the code
(`withAction?_isSome_iff_of_fields?`), and then all of these have the new action
(`ofFields_withAction?`).  A rule that is written as a list of two words has a code, too, but
is no table: the edit neither finds nor changes it.
-/

import LintWorkspace.Proofs.Action

namespace LintWorkspace
namespace Toml

variable {name : String} {t u : GrowingTable} {fields : List (Key × Spaced Node)}

/-! ### Lists that fields do not make -/

/-- A field that is no list of tables. -/
def NoTables (g : Option Growing) : Prop := ∀ es, g ≠ some (.tables es)

theorem noTables_changeField? {n : String} {f : Origin → Option Growing → Option Growing}
    (hf : ∀ {o g x}, f o g = some x → NoTables (some x)) (h : changeField? n f t = some u)
    (ht : NoTables (lookup? name t.2)) : NoTables (lookup? name u.2) := by
  obtain ⟨x, hx, rfl⟩ := Option.map_eq_some_iff.1 h
  rw [lookup?_setField]
  split
  · exact hf hx
  · exact ht

theorem noTables_enter? {go : GrowingTable → Option GrowingTable} {g : Option Growing}
    {x : Growing} (h : enter? true go g = some x) : NoTables (some x) := by
  rintro es ⟨⟩
  cases g with
  | none =>
    obtain ⟨t, -, h⟩ := Option.map_eq_some_iff.1 h
    cases h
  | some g =>
    cases g with
    | finished | tables => cases h
    | table o fs =>
      dsimp only [enter?] at h
      split at h
      · cases h
      · obtain ⟨t, -, h⟩ := Option.map_eq_some_iff.1 h
        cases h

theorem noTables_newField? {single : Bool} {v : Value} {o : Origin} {g : Option Growing}
    {x : Growing} (h : newField? single v o g = some x) : NoTables (some x) := by
  rintro es ⟨⟩
  unfold newField? at h
  split at h
  · cases h
  · split at h <;> cases h

theorem noTables_addField? {key : List String} {v : Value} (h : addField? t key v = some u)
    (ht : NoTables (lookup? name t.2)) : NoTables (lookup? name u.2) := by
  rw [addField?_eq] at h
  obtain ⟨last, -, h⟩ := Option.bind_eq_some_iff.1 h
  cases hpath : key.dropLast with
  | nil =>
    rw [hpath, alterAt?] at h
    exact noTables_changeField? noTables_newField? h ht
  | cons first path =>
    rw [hpath, alterAt?_cons] at h
    exact noTables_changeField? noTables_enter? h ht

/-- Only sections make lists of tables. -/
theorem noTables_growFields? (h : growFields? t fields = some u)
    (ht : NoTables (lookup? name t.2)) : NoTables (lookup? name u.2) := by
  induction fields generalizing t with
  | nil =>
    rw [growFields?] at h
    obtain rfl := Option.some.inj h
    exact ht
  | cons f fields ih =>
    obtain ⟨v, t', -, hadd, hfields⟩ := growFields?_cons h
    exact ih hfields (noTables_addField? hadd ht)

/-! ### Values that sections do not finish -/

/-- A section gives no name a finished value. -/
theorem plain_of_foldlM {sections : List Section} (h : sections.foldlM addSection? t = some u)
    (hu : Plain name u) : Plain name t := by
  induction sections generalizing t with
  | nil =>
    obtain rfl := Option.some.inj h
    exact hu
  | cons s sections ih =>
    rw [List.foldlM_cons] at h
    obtain ⟨t₁, hs, h⟩ := Option.bind_eq_some_iff.1 h
    obtain ⟨v, hv⟩ := ih h
    cases listStep_addSection? name hs with
    | same hsame => exact ⟨v, hsame.symm.trans hv⟩
    | add _ _ _ _ hg' | last _ _ hg' | table _ hg' =>
      rw [hg'] at hv
      cases hv

/-- A section of a name has no place where the name has a finished value. -/
theorem names_ne_of_plain_of_sections {sections : List Section} (ht : Plain name t)
    (h : sections.foldlM addSection? t = some u) : ∀ s ∈ sections, s.key.names ≠ [name] := by
  intro s hs hname
  obtain ⟨above, after, rfl⟩ := List.append_of_mem hs
  obtain ⟨v, hv⟩ := ht
  rw [List.foldlM_append] at h
  obtain ⟨t₁, habove, h⟩ := Option.bind_eq_some_iff.1 h
  rw [List.foldlM_cons] at h
  obtain ⟨t₂, hstep, -⟩ := Option.bind_eq_some_iff.1 h
  have hv₁ := (spares_foldlM spares_addSection? above habove hv).1
  rw [addSection?_single hname, changeField?, hv₁, keeps_newSection? s] at hstep
  cases hstep

/-- A word stands under a name if a field of its own says so. -/
theorem lookup?_string_iff {word : String} (h : growFields? (.header, []) fields = some t) :
    lookup? name t.2 = some (.finished (.scalar (.string word))) ↔
      ∃ f ∈ fields, f.1.names = [name] ∧ f.2.value.isString word = true := by
  constructor
  · intro hword
    rcases plain_of_growFields? h ⟨_, hword⟩ with ⟨v, hv⟩ | ⟨f, hf, hname⟩
    · simp [lookup?] at hv
    · refine ⟨f, hf, hname, ?_⟩
      obtain ⟨v, hv, hlookup⟩ := lookup?_of_growFields? h hf hname
      rw [hlookup] at hword
      obtain rfl : v = .scalar (.string word) := by simpa using hword
      rw [itemValue?_eq] at hv
      cases hnode : f.2.value with
      | scalar spelling s =>
        rw [hnode, Node.value?] at hv
        obtain rfl : s = .string word := by simpa using hv
        simp [Node.isString]
      | array | table =>
        rw [hnode, Node.value?] at hv
        obtain ⟨_, -, hv⟩ := Option.map_eq_some_iff.1 hv
        cases hv
  · rintro ⟨f, hf, hname, hword⟩
    obtain ⟨v, hv, hlookup⟩ := lookup?_of_growFields? h hf hname
    rw [itemValue?_eq, Ruleset.value?_of_isString hword] at hv
    rw [hlookup, ← Option.some.inj hv]

/-- An element of a list comes from what is written. -/
theorem exists_item_of_mem {items : List (Spaced Node)} {vs : List Value}
    (h : itemValues? items = some vs) {v : Value} (hv : v ∈ vs) :
    ∃ i ∈ items, itemValue? i = some v := by
  induction items generalizing vs with
  | nil =>
    obtain rfl : [] = vs := by simpa [itemValues?] using h
    cases hv
  | cons i items ih =>
    rw [itemValues?] at h
    obtain ⟨w, hw, h⟩ := Option.bind_eq_some_iff.1 h
    obtain ⟨ws, hmore, h⟩ := Option.bind_eq_some_iff.1 h
    obtain rfl := Option.some.inj h
    rcases List.mem_cons.1 hv with rfl | hv
    · exact ⟨i, List.mem_cons_self, hw⟩
    · obtain ⟨j, hj, hvalue⟩ := ih hmore hv
      exact ⟨j, List.mem_cons_of_mem _ hj, hvalue⟩

end Toml

namespace Ruleset

open Toml

variable {code action : String} {sev : Severity} {fields : List (Key × Spaced Node)}
  {t : GrowingTable} {doc doc' : Toml.Document} {said said' : List (String × Value)}
  {decoded : Document} {items : List Value}

/-! ### Where a document writes its rules -/

/-- The first entry that gives a document its list of rules. -/
abbrev rulesLine? (doc : Toml.Document) : Option Entry :=
  doc.entries.find? fun e => e.key.names = ["rules"]

/-- The fields of a rule that a document writes as a table. -/
inductive RuleTable (doc : Toml.Document) (fields : List (Key × Spaced Node)) : Prop
  /-- an inline table in the list of rules -/
  | item {e : Entry} {items : List (Spaced Node)} {comma : Bool} {tail : List Char}
      {i : Spaced Node} {comma' : Bool} {tail' : List Char} (he : rulesLine? doc = some e)
      (hvalue : e.value.value = .array items comma tail) (hi : i ∈ items)
      (hnode : i.value = .table fields comma' tail')
  /-- a section of its own -/
  | own {s : Section} (hs : s ∈ doc.sections) (harray : s.ofArray = true)
      (hname : s.key.names = ["rules"]) (hfields : fieldsOf s.entries = fields)

/-- What holds of a value if it is a table and of no use otherwise. -/
def OnTables (Q : List (String × Value) → Prop) (v : Value) : Prop :=
  ∀ fs, v = .table fs → Q fs

/-- A property of tables that sections below them do not change. -/
abbrev StableOn (Q : List (String × Value) → Prop) : Prop := Stable fun fs => Q (fieldValues fs)

theorem mem_of_rulesLine? {e : Entry} (h : rulesLine? doc = some e) :
    e ∈ doc.entries ∧ e.key.names = ["rules"] :=
  ⟨List.mem_of_find?_eq_some h, by simpa using List.find?_some h⟩

/-- An array is written with brackets. -/
theorem exists_items_of_value? {node : Node} (h : node.value? = some (.sequence items)) :
    ∃ nodes comma tail, node = .array nodes comma tail ∧ itemValues? nodes = some items := by
  cases node with
  | scalar => cases h
  | table =>
    obtain ⟨_, -, h⟩ := Option.map_eq_some_iff.1 h
    cases h
  | array nodes comma tail =>
    obtain ⟨vs, hvs, h⟩ := Option.map_eq_some_iff.1 h
    obtain rfl : vs = items := by simpa using h
    exact ⟨nodes, comma, tail, rfl, hvs⟩

/-- A list of rules that is a finished value is written in an entry. -/
theorem exists_rulesLine? {o u : GrowingTable}
    (ho : growFields? o (fieldsOf doc.entries) = some t)
    (hnone : lookup? "rules" o.2 = none) (hu : doc.sections.foldlM addSection? t = some u)
    {v : Value} (hv : lookup? "rules" u.2 = some (.finished v)) :
    ∃ e, rulesLine? doc = some e ∧ e.value.value.value? = some v := by
  rcases plain_of_growFields? ho (plain_of_foldlM hu ⟨v, hv⟩) with ⟨w, hw⟩ | ⟨f, hf, hname⟩
  · rw [hnone] at hw
    cases hw
  · obtain ⟨e₀, he₀, rfl⟩ := List.mem_map.1 hf
    obtain ⟨e, he⟩ := Option.isSome_iff_exists.1
      (List.find?_isSome (p := fun e : Entry => e.key.names = ["rules"]).2
        ⟨e₀, he₀, by simpa using hname⟩)
    obtain ⟨hmem, hrules⟩ := mem_of_rulesLine? he
    obtain ⟨w, hw, hlookup⟩ := lookup?_of_growFields? ho (List.mem_map_of_mem hmem) hrules
    have hsame := (spares_foldlM spares_addSection? doc.sections hu hlookup).1
    rw [hv] at hsame
    obtain rfl : v = w := by simpa using hsame
    exact ⟨e, he, by rwa [← itemValue?_eq]⟩

variable {Q : List (String × Value) → Prop}

/-- **What holds of the rule tables of a document as they are written** holds of its rules that
are tables. -/
theorem forall_rules (hstable : StableOn Q)
    (hQ : ∀ {fields t}, RuleTable doc fields → growFields? (.header, []) fields = some t →
      Q (fieldValues t.2))
    (hsaid : doc.fields? = some said) (hitems : lookup? "rules" said = some (.sequence items)) :
    ∀ v ∈ items, OnTables Q v := by
  obtain ⟨t, u, ht, hu, rfl⟩ := exists_of_fields? hsaid
  rw [lookup?_fieldValues] at hitems
  obtain ⟨g, hg, hvalue⟩ := Option.map_eq_some_iff.1 hitems
  cases g with
  | table => cases hvalue
  | tables es =>
    obtain rfl : elementValues es = items := by simpa [Growing.value] using hvalue
    have hbefore : AllElements "rules" (fun fs => Q (fieldValues fs)) t := fun es hes => by
      exact absurd hes (noTables_growFields? ht (by simp [NoTables, lookup?]) es)
    have hall := all_foldlM hstable (fun s hs harray hname inner hinner =>
      hQ (.own hs harray hname rfl) (by rwa [← addEntries?_eq])) hbefore hu es hg
    rintro v hv fs rfl
    rw [elementValues_eq] at hv
    obtain ⟨gs, hgs, he⟩ := List.mem_map.1 hv
    rw [← Value.table.inj he]
    exact hall gs hgs
  | finished v =>
    obtain rfl : v = .sequence items := by simpa [Growing.value] using hvalue
    obtain ⟨e, he, hnode⟩ := exists_rulesLine? ht rfl hu hg
    obtain ⟨nodes, comma, tail, harray, hnodes⟩ := exists_items_of_value? hnode
    rintro v hv fs rfl
    obtain ⟨i, hi, hitem⟩ := exists_item_of_mem hnodes hv
    rw [itemValue?_eq] at hitem
    cases hvalue : i.value with
    | scalar =>
      rw [hvalue] at hitem
      cases hitem
    | array =>
      rw [hvalue] at hitem
      obtain ⟨_, -, h⟩ := Option.map_eq_some_iff.1 hitem
      cases h
    | table fields comma' tail' =>
      rw [hvalue] at hitem
      obtain ⟨t', ht', h⟩ := Option.map_eq_some_iff.1 hitem
      rw [← Value.table.inj h]
      exact hQ (.item he harray hi hvalue) ht'

/-- **What holds of a rule table as it is written** holds of one of the rules. -/
theorem exists_rule (hstable : StableOn Q) (h : RuleTable doc fields)
    (hQ : ∀ {t}, growFields? (.header, []) fields = some t → Q (fieldValues t.2))
    (hsaid : doc.fields? = some said) :
    ∃ items, lookup? "rules" said = some (.sequence items) ∧ ∃ fs, .table fs ∈ items ∧ Q fs := by
  cases h with
  | item he hvalue hi hnode =>
    obtain ⟨hmem, hrules⟩ := mem_of_rulesLine? he
    obtain ⟨items, hitems, hlookup⟩ := exists_itemValues? hsaid hmem hrules hvalue
    obtain ⟨v, hv, hitem⟩ := exists_itemValue?_of_mem hitems hi
    rw [itemValue?_eq, hnode] at hitem
    obtain ⟨t, ht, rfl⟩ := Option.map_eq_some_iff.1 hitem
    exact ⟨items, hlookup, _, hv, hQ ht⟩
  | own hs harray hname hfields =>
    subst hfields
    obtain ⟨t, u, -, hu, rfl⟩ := exists_of_fields? hsaid
    obtain ⟨es, fs, hes, hfs, hprop⟩ := some_of_mem_sections hstable hs harray hname
      (fun _ _ inner hinner => hQ (by rwa [← addEntries?_eq])) hu
    refine ⟨elementValues es, by rw [lookup?_fieldValues, hes, Option.map_some, Growing.value],
      fieldValues fs, ?_, hprop⟩
    rw [elementValues_eq]
    exact List.mem_map_of_mem hfs

/-! ### Codes and actions -/

/-- A table has a word under a name. -/
abbrev Says (name word : String) (fs : List (String × Value)) : Prop :=
  lookup? name fs = some (.scalar (.string word))

theorem says_fieldValues_iff {name word : String} {fs : GrowingFields} :
    Says name word (fieldValues fs) ↔
      lookup? name fs = some (.finished (.scalar (.string word))) := by
  rw [Says, lookup?_fieldValues]
  constructor
  · intro h
    obtain ⟨g, hg, hvalue⟩ := Option.map_eq_some_iff.1 h
    rw [hg, growing_of_value hvalue]
  · intro h
    rw [h]
    rfl

/-- What a table says stays as it is. -/
theorem says_below_iff {name word : String} {s : Section} {m : String} {path : List String}
    {o : Origin} {fs gs : GrowingFields} (h : below s m path (.header, fs) = some (o, gs)) :
    Says name word (fieldValues gs) ↔ Says name word (fieldValues fs) := by
  rw [says_fieldValues_iff, says_fieldValues_iff]
  exact lookup?_below_iff h

/-- The fields of a rule of a code as they are written. -/
def Coded (code : String) (fields : List (Key × Spaced Node)) : Prop :=
  ∃ f ∈ fields, givesCode code f.1 f.2 = true

theorem says_code_iff (h : growFields? (.header, []) fields = some t) :
    Says "code" code (fieldValues t.2) ↔ Coded code fields := by
  rw [says_fieldValues_iff, lookup?_string_iff h]
  simp [Coded, givesCode]

/-- A rule in a list is an inline table with the code. -/
theorem isRuleNode_iff {node : Node} : isRuleNode code node = true ↔
    ∃ fields comma tail, node = .table fields comma tail ∧ Coded code fields := by
  cases node <;> simp [isRuleNode, Coded]

theorem listWithAction?_isSome_iff {node : Node} :
    (listWithAction? code action node).isSome = true ↔ ∃ items comma tail,
      node = .array items comma tail ∧ ∃ i ∈ items, isRuleNode code i.value = true := by
  cases node with
  | scalar | table => simp [listWithAction?]
  | array items comma tail =>
    rw [listWithAction?]
    split <;> simp_all

/-- **An edit finds a rule if a rule table has the code.** -/
theorem withAction?_isSome_iff : (withAction? code sev doc).isSome = true ↔
    ∃ fields, RuleTable doc fields ∧ Coded code fields := by
  have hsections : doc.sections.any (isRuleSection code) = true ↔
      ∃ s ∈ doc.sections, s.ofArray = true ∧ s.key.names = ["rules"] ∧
        Coded code (fieldsOf s.entries) := by
    rw [List.any_eq_true]
    exact exists_congr fun s => and_congr_right fun _ => isRuleSection_iff
  have hlist : (changeValue? "rules" (listWithAction? code sev.text) doc.entries).isSome = true ↔
      ∃ e, rulesLine? doc = some e ∧
        (listWithAction? code sev.text e.value.value).isSome = true := by
    unfold changeValue? rulesLine?
    cases doc.entries.find? (fun e => e.key.names = ["rules"]) with
    | none => simp
    | some e => cases hnode : listWithAction? code sev.text e.value.value <;> simp [hnode]
  rw [withAction?]
  split
  · rename_i hany
    obtain ⟨s, hs, harray, hname, hcoded⟩ := hsections.1 hany
    exact iff_of_true rfl ⟨_, .own hs harray hname rfl, hcoded⟩
  · rename_i hany
    rw [Option.isSome_map, hlist]
    constructor
    · rintro ⟨e, he, hnode⟩
      obtain ⟨items, comma, tail, hvalue, i, hi, hrule⟩ := listWithAction?_isSome_iff.1 hnode
      obtain ⟨fields, comma', tail', hi', hcoded⟩ := isRuleNode_iff.1 hrule
      exact ⟨fields, .item he hvalue hi hi', hcoded⟩
    · rintro ⟨fields, htable, hcoded⟩
      cases htable with
      | own hs harray hname hfields =>
        subst hfields
        exact absurd (hsections.2 ⟨_, hs, harray, hname, hcoded⟩) hany
      | item he hvalue hi hnode =>
        exact ⟨_, he, listWithAction?_isSome_iff.2 ⟨_, _, _, hvalue, _, hi,
          isRuleNode_iff.2 ⟨_, _, _, hnode, hcoded⟩⟩⟩

/-- The edit finds a rule exactly if a rule that is a table has the code. -/
theorem withAction?_isSome_iff_of_fields? (hsaid : doc.fields? = some said) :
    (withAction? code sev doc).isSome = true ↔ ∃ items,
      lookup? "rules" said = some (.sequence items) ∧
        ∃ fs, .table fs ∈ items ∧ Says "code" code fs := by
  rw [withAction?_isSome_iff]
  constructor
  · rintro ⟨fields, htable, hcoded⟩
    exact exists_rule (fun hbelow => (says_below_iff hbelow).2) htable
      (fun ht => (says_code_iff ht).2 hcoded) hsaid
  · rintro ⟨items, hitems, fs, hfs, hcode⟩
    by_contra hnone
    refine forall_rules (Q := fun fs => ¬Says "code" code fs)
      (fun hbelow => (not_congr (says_below_iff hbelow)).2) (fun {fields t} htable ht => ?_)
      hsaid hitems _ hfs fs rfl hcode
    rw [says_code_iff ht]
    exact fun hcoded => hnone ⟨fields, htable, hcoded⟩

/-! ### Every rule that is found has the new action -/

/-- What an edit writes under `action`. -/
def Acted (action : String) (fields : List (Key × Spaced Node)) : Prop :=
  ∃ f ∈ fields, f.1.names = ["action"] ∧ f.2.value.isString action = true

theorem says_action_iff (h : growFields? (.header, []) fields = some t) :
    Says "action" action (fieldValues t.2) ↔ Acted action fields := by
  rw [says_fieldValues_iff, lookup?_string_iff h, Acted]

theorem acted_withValue (h : ∃ f ∈ fields, f.1.names = ["action"]) :
    Acted action (withValue "action" (.ofString action) fields) := by
  obtain ⟨f, hf, hname⟩ := h
  refine ⟨_, List.mem_map_of_mem hf, ?_⟩
  rw [if_pos hname]
  exact ⟨hname, decide_eq_true rfl⟩

/-- The list of rules that an edit replaces is found again. -/
theorem rulesLine?_entriesWithNode (node : Node) (sections : List Section) (tail : List Char) :
    rulesLine? ⟨entriesWithNode "rules" node doc.entries, sections, tail⟩ =
      (rulesLine? doc).map fun e => { e with value := { e.value with value := node } } := by
  unfold rulesLine? entriesWithNode
  rw [List.find?_map]
  have hsame : ((fun e : Entry => decide (e.key.names = ["rules"])) ∘ fun e : Entry =>
      if e.key.names = ["rules"] then { e with value := { e.value with value := node } } else e) =
        fun e => decide (e.key.names = ["rules"]) := by
    funext e
    rw [Function.comp_apply]
    split <;> rfl
  rw [hsame]
  cases he : doc.entries.find? fun e => e.key.names = ["rules"] with
  | none => rfl
  | some e =>
    obtain ⟨-, hname⟩ := mem_of_rulesLine? he
    simp [hname]

/-- Rules stand in a list or in sections. -/
theorem rulesLine?_eq_none (hsaid : doc.fields? = some said) {s : Section}
    (hs : s ∈ doc.sections) (hname : s.key.names = ["rules"]) : rulesLine? doc = none := by
  obtain ⟨t, u, ht, hu, -⟩ := exists_of_fields? hsaid
  by_contra hsome
  obtain ⟨e, he⟩ := Option.ne_none_iff_exists'.1 hsome
  obtain ⟨hmem, hrules⟩ := mem_of_rulesLine? he
  obtain ⟨v, -, hv⟩ := lookup?_of_growFields? ht (List.mem_map_of_mem hmem) hrules
  exact names_ne_of_plain_of_sections ⟨v, hv⟩ hu s hs hname

/-- In a section that an edit has seen a rule of the code has the new action. -/
theorem acted_of_sectionWithAction {s : Section}
    (haction : isRuleSection code s = true → ∃ f ∈ fieldsOf s.entries, f.1.names = ["action"])
    (harray : (sectionWithAction code action s).ofArray = true)
    (hname : (sectionWithAction code action s).key.names = ["rules"])
    (hcoded : Coded code (fieldsOf (sectionWithAction code action s).entries)) :
    Acted action (fieldsOf (sectionWithAction code action s).entries) := by
  cases hrule : isRuleSection code s with
  | true =>
    rw [sectionWithAction, if_pos hrule]
    dsimp only
    rw [entriesWithAction_eq action (haction hrule), fieldsOf_entriesWithNode]
    exact acted_withValue (haction hrule)
  | false =>
    have hsame : sectionWithAction code action s = s := by
      rw [sectionWithAction, if_neg (by simp [hrule])]
    rw [hsame] at harray hname hcoded
    rw [isRuleSection_iff.2 ⟨harray, hname, hcoded⟩] at hrule
    cases hrule

/-- In a list that an edit has seen a rule of the code has the new action. -/
theorem acted_of_itemWithAction {i : Spaced Node} {comma : Bool} {tail : List Char}
    (haction : isRuleNode code i.value = true → ∃ fields comma tail,
      i.value = .table fields comma tail ∧ ∃ f ∈ fields, f.1.names = ["action"])
    (hnode : (itemWithAction code action i).value = .table fields comma tail)
    (hcoded : Coded code fields) : Acted action fields := by
  cases hrule : isRuleNode code i.value with
  | true =>
    obtain ⟨before, comma', tail', hi, hplain⟩ := haction hrule
    rw [itemWithAction, if_pos hrule] at hnode
    dsimp only at hnode
    rw [hi, nodeWithAction, fieldsWithAction_eq hplain] at hnode
    obtain ⟨rfl, -, -⟩ := Node.table.inj hnode
    exact acted_withValue hplain
  | false =>
    rw [itemWithAction, if_neg (by simp [hrule])] at hnode
    rw [isRuleNode_iff.2 ⟨_, _, _, hnode, hcoded⟩] at hrule
    cases hrule

/-- **In an edited document every rule table of the code has the new action.** -/
theorem acted_of_withAction? (hsaid : doc.fields? = some said)
    (hdecoded : Document.ofFields said = .ok decoded) (h : withAction? code sev doc = some doc')
    (htable : RuleTable doc' fields) (hcoded : Coded code fields) : Acted sev.text fields := by
  have hsections : ∀ s ∈ doc.sections, isRuleSection code s = true →
      ∃ f ∈ fieldsOf s.entries, f.1.names = ["action"] :=
    fun s hs => exists_action_of_isRuleSection hsaid hdecoded hs
  rw [withAction?] at h
  split at h
  · rename_i hany
    obtain rfl := Option.some.inj h
    cases htable with
    | item he =>
      obtain ⟨s, hs, hrule⟩ := List.any_eq_true.1 hany
      have hnone := rulesLine?_eq_none hsaid hs (isRuleSection_iff.1 hrule).2.1
      cases hnone.symm.trans he
    | own hs harray hname hfields =>
      subst hfields
      dsimp only at hs
      rw [sectionsWithAction_eq hsections] at hs
      obtain ⟨s, hs', rfl⟩ := List.mem_map.1 hs
      exact acted_of_sectionWithAction (hsections s hs') harray hname hcoded
  · rename_i hany
    obtain ⟨entries', hentries, rfl⟩ := Option.map_eq_some_iff.1 h
    obtain ⟨e, he, hname, items, comma, tail, hvalue, rfl⟩ := exists_of_changeValue? hentries
    cases htable with
    | own hs harray hname hfields =>
      subst hfields
      exact absurd (List.any_eq_true.2 ⟨_, hs, isRuleSection_iff.2 ⟨harray, hname, hcoded⟩⟩) hany
    | item he' hvalue' hi hnode =>
      rw [rulesLine?_entriesWithNode] at he'
      obtain ⟨e₁, -, rfl⟩ := Option.map_eq_some_iff.1 he'
      obtain ⟨rfl, -, -⟩ := Node.array.inj hvalue'
      obtain ⟨i, hi', rfl⟩ := List.mem_map.1 hi
      exact acted_of_itemWithAction
        (exists_action_of_isRuleNode hsaid hdecoded he hname hvalue hi') hnode hcoded

/-! ### What an edited document says -/

/-- Whether a value is a table. -/
def isTable : Value → Bool
  | .table _ => true
  | _ => false

/-- For each rule of a document, whether it is a table. -/
def ruleTables (said : List (String × Value)) : List Bool :=
  match lookup? "rules" said with
  | some (.sequence items) => items.map isTable
  | _ => []

/-- The rules with the action of those of a code that are tables set. -/
def graded (code action : String) (rules : List Rule) (tables : List Bool) : List Rule :=
  List.zipWith (fun r table => if table = true ∧ r.code = code then { r with action } else r)
    rules tables

/-- A rule is graded if it is a table of the code. -/
theorem ofValue_of_actionSet {v v' : Value} {r : Rule} (h : ActionSet code action v v')
    (hnodup : OnTables (fun fs => (fs.map Prod.fst).Nodup) v)
    (hacted : OnTables (fun fs => Says "code" code fs → Says "action" action fs) v')
    (hr : Rule.ofValue v = .ok r) : Rule.ofValue v' =
      .ok (if isTable v = true ∧ r.code = code then { r with action } else r) := by
  cases h with
  | same =>
    split
    · rename_i hcoded
      obtain ⟨htable, rfl⟩ := hcoded
      cases v with
      | scalar | sequence => cases htable
      | table fs =>
        obtain ⟨hcode, haction, -⟩ := (Rule.ofFields_eq_ok_iff (hnodup fs rfl)).1 hr
        rw [hacted fs rfl hcode] at haction
        obtain rfl : action = r.action := by simpa using haction
        exact hr
    · exact hr
  | set hnames hcode =>
    obtain ⟨hcode', -, -⟩ := (Rule.ofFields_eq_ok_iff hnames).1 hr
    rw [hcode] at hcode'
    rw [if_pos ⟨rfl, by simpa using hcode'.symm⟩]
    exact Rule.ofFields_setAction hnames hr action

theorem mapM_ofValue_of_actionSet {items items' : List Value} {rules : List Rule}
    (h : List.Forall₂ (ActionSet code action) items items')
    (hnodup : ∀ v ∈ items, OnTables (fun fs => (fs.map Prod.fst).Nodup) v)
    (hacted : ∀ v ∈ items', OnTables (fun fs => Says "code" code fs → Says "action" action fs) v)
    (hrules : List.Forall₂ (fun v r => Rule.ofValue v = .ok r) items rules) :
    items'.mapM Rule.ofValue = .ok (graded code action rules (items.map isTable)) := by
  rw [mapM_eq_ok_iff]
  induction h generalizing rules with
  | nil =>
    cases hrules
    exact .nil
  | cons hv _ ih =>
    obtain ⟨hnodup, hnodups⟩ := List.forall_mem_cons.1 hnodup
    obtain ⟨hacted, hacteds⟩ := List.forall_mem_cons.1 hacted
    cases hrules with
    | cons hr hmore =>
      exact .cons (ofValue_of_actionSet hv hnodup hacted hr) (ih hnodups hacteds hmore)

/-- The tables among the rules of a document give no name twice. -/
theorem nodup_of_mem_rules (hsaid : doc.fields? = some said)
    (hitems : lookup? "rules" said = some (.sequence items)) :
    ∀ v ∈ items, OnTables (fun fs => (fs.map Prod.fst).Nodup) v := by
  refine forall_rules (fun {s m path o fs gs} hbelow hfs => ?_) (fun {fields t} _ ht => ?_) hsaid
    hitems
  · dsimp only at hfs ⊢
    rw [names_fieldValues] at hfs ⊢
    exact nodup_alterAt? (nodup_changeField? m (newSection? s)) hbelow hfs
  · rw [names_fieldValues]
    exact nodup_growFields? fields ht (by simp)

/-- **An edited document says the same** but for the action of the rules of a code that are
tables. -/
theorem ofFields_withAction? (hsaid : doc.fields? = some said)
    (hdecoded : Document.ofFields said = .ok decoded) (h : withAction? code sev doc = some doc') :
    ∃ said', doc'.fields? = some said' ∧ Document.ofFields said' =
      .ok { decoded with rules := graded code sev.text decoded.rules (ruleTables said) } := by
  obtain ⟨said', hsaid', hset⟩ := fields?_withAction? hsaid hdecoded h
  obtain ⟨items, hitems, -⟩ := (withAction?_isSome_iff_of_fields? hsaid).1
    (Option.isSome_iff_exists.2 ⟨doc', h⟩)
  obtain ⟨items', hsets, rfl⟩ : ∃ items', List.Forall₂ (ActionSet code sev.text) items items' ∧
      said' = setField "rules" (.sequence items') said := by
    rcases hset with rfl | ⟨vs, vs', hvs, hsets, rfl⟩
    · exact ⟨items, List.forall₂_same.2 fun v _ => .same v, (setField_of_lookup? hitems).symm⟩
    · obtain rfl : vs = items := by simpa [hvs] using hitems
      exact ⟨vs', hsets, rfl⟩
  have hacted : ∀ v ∈ items', OnTables (fun fs => Says "code" code fs →
      Says "action" sev.text fs) v := by
    refine forall_rules (fun hbelow hfs => ?_) (fun {fields t} htable ht => ?_) hsaid'
      lookup?_setField_self
    · dsimp only
      rwa [says_below_iff hbelow, says_below_iff hbelow]
    · rw [says_code_iff ht, says_action_iff ht]
      exact acted_of_withAction? hsaid hdecoded h htable
  have hrules := mapM_ofValue_of_actionSet hsets (nodup_of_mem_rules hsaid hitems) hacted
    (rules_of_ofFields hsaid hdecoded hitems)
  have htables : ruleTables said = items.map isTable := by rw [ruleTables, hitems]
  refine ⟨_, hsaid', ?_⟩
  rw [htables]
  exact Document.ofFields_setRules (nodup_of_fields? hsaid) hdecoded hrules

/-! ### Whether an edit finds a rule -/

theorem length_ruleTables (hsaid : doc.fields? = some said)
    (hdecoded : Document.ofFields said = .ok decoded) :
    (ruleTables said).length = decoded.rules.length := by
  obtain ⟨-, hsome, hnone⟩ := Document.lookup?_of_ofFields (nodup_of_fields? hsaid) hdecoded
  rw [ruleTables]
  cases hitems : lookup? "rules" said with
  | none =>
    rw [hnone hitems]
    rfl
  | some v =>
    cases v with
    | scalar | table => cases hsome _ hitems
    | sequence items =>
      dsimp only
      rw [List.length_map, (rules_of_ofFields hsaid hdecoded hitems).length_eq]

theorem exists_mem_zip_iff {rules : List Rule} {p : Rule → Bool → Prop}
    (h : List.Forall₂ (fun v r => Rule.ofValue v = .ok r) items rules) :
    (∃ e ∈ rules.zip (items.map isTable), p e.1 e.2) ↔
      ∃ v ∈ items, ∃ r, Rule.ofValue v = .ok r ∧ p r (isTable v) := by
  induction h with
  | nil => simp
  | cons hr _ ih =>
    simp only [List.map_cons, List.zip_cons_cons, List.exists_mem_cons_iff, ih, hr, Except.ok.injEq,
      exists_eq_left']

/-- A table that is decoded to a rule has its code. -/
theorem says_code_of_ofFields {fs : List (String × Value)} {r : Rule}
    (hnodup : (fs.map Prod.fst).Nodup) (h : Rule.ofFields fs = .ok r) :
    Says "code" code fs ↔ r.code = code := by
  obtain ⟨hcode, -, -⟩ := (Rule.ofFields_eq_ok_iff hnodup).1 h
  rw [Says, hcode]
  simp

/-- **An edit finds a rule** exactly if a rule that is decoded from a table has the code. -/
theorem withAction?_isSome_iff_of_ofFields (hsaid : doc.fields? = some said)
    (hdecoded : Document.ofFields said = .ok decoded) :
    (withAction? code sev doc).isSome = true ↔
      ∃ e ∈ decoded.rules.zip (ruleTables said), e.2 = true ∧ e.1.code = code := by
  rw [withAction?_isSome_iff_of_fields? hsaid]
  cases hitems : lookup? "rules" said with
  | none => simp [ruleTables, hitems]
  | some v =>
    cases v with
    | scalar | table => simp [ruleTables, hitems]
    | sequence items =>
      have hrules := rules_of_ofFields hsaid hdecoded hitems
      have hnodup := nodup_of_mem_rules hsaid hitems
      have htables : ruleTables said = items.map isTable := by rw [ruleTables, hitems]
      rw [htables, exists_mem_zip_iff (p := fun r table => table = true ∧ r.code = code) hrules]
      constructor
      · rintro ⟨vs, hvs, fs, hfs, hcode⟩
        obtain rfl : items = vs := by simpa using hvs
        obtain ⟨r, -, hr⟩ := exists_of_mem_forall₂ hrules hfs
        exact ⟨_, hfs, r, hr, rfl, (says_code_of_ofFields (hnodup _ hfs fs rfl) hr).1 hcode⟩
      · rintro ⟨v, hv, r, hr, htable, hcode⟩
        cases v with
        | scalar | sequence => cases htable
        | table fs =>
          exact ⟨items, rfl, fs, hv, (says_code_of_ofFields (hnodup _ hv fs rfl) hr).2 hcode⟩

end Ruleset
end LintWorkspace
