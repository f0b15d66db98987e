/-
# What pointing an import elsewhere does

`redirectImport` reads a document, replaces one element of its list of imports by a string and
writes it back.  There is such an element exactly if the resolver reads an import at that index
(`withImport?_isSome_iff`), because only an entry of its own makes a list of strings.  The
string may be any: its literal is read back as it is (`legible_ofString`), so the document read
again has that import at the index, and all else as it was (`redirectImport_exact`).
-/

import LintWorkspace.Proofs.Editing
import LintWorkspace.Proofs.Quoting

namespace LintWorkspace
namespace Ruleset

open Toml

variable {index : Nat} {target : String} {layout : Layout} {doc doc' : Toml.Document}
  {said : List (String × Value)} {decoded : Document} {d : Disk} {path : Path} {text : String}
  {items : List (Spaced Node)} {comma : Bool} {tail : List Char}

/-! ### The list of imports -/

/-- The first entry that gives a document its list of imports. -/
abbrev importsLine? (doc : Toml.Document) : Option Entry :=
  doc.entries.find? fun e => e.key.names = ["imports"]

/-- A list with one element set to a string. -/
def itemsWithString (index : Nat) (text : String) (items : List (Spaced Node)) :
    List (Spaced Node) :=
  items.modify index fun i => { i with value := .ofString text }

/-- An edit of an import replaces the list, if it has an element at the index. -/
theorem withImport?_eq_some_iff : withImport? index target doc = some doc' ↔
    ∃ e items comma tail, importsLine? doc = some e ∧ e.value.value = .array items comma tail ∧
      index < items.length ∧ doc' = ⟨entriesWithNode "imports"
        (.array (itemsWithString index target items) comma tail) doc.entries, doc.sections,
          doc.tail⟩ := by
  simp only [withImport?, Option.map_eq_some_iff, changeValue?, Option.bind_eq_bind,
    Option.bind_eq_some_iff]
  constructor
  · rintro ⟨entries, ⟨e, he, node, hnode, hentries⟩, rfl⟩
    obtain rfl := Option.some.inj hentries
    cases hvalue : e.value.value with
    | scalar | table =>
      rw [hvalue] at hnode
      cases hnode
    | array items comma tail =>
      rw [hvalue, withElement?] at hnode
      split at hnode
      · rename_i hindex
        obtain rfl := Option.some.inj hnode
        exact ⟨e, items, comma, tail, he, hvalue, hindex, rfl⟩
      · cases hnode
  · rintro ⟨e, items, comma, tail, he, hvalue, hindex, rfl⟩
    refine ⟨_, ⟨e, he, .array (itemsWithString index target items) comma tail, ?_, rfl⟩, rfl⟩
    rw [hvalue, withElement?, if_pos hindex, itemsWithString]

theorem mem_itemsWithString {i : Spaced Node} (h : i ∈ itemsWithString index target items) :
    i ∈ items ∨ ∃ j ∈ items, i = { j with value := .ofString target } := by
  induction items generalizing index with
  | nil => simp [itemsWithString] at h
  | cons j items ih =>
    cases index with
    | zero =>
      rw [itemsWithString, List.modify_zero_cons] at h
      rcases List.mem_cons.1 h with rfl | h
      · exact Or.inr ⟨j, List.mem_cons_self, rfl⟩
      · exact Or.inl (List.mem_cons_of_mem _ h)
    | succ index =>
      rw [itemsWithString, List.modify_succ_cons] at h
      rcases List.mem_cons.1 h with rfl | h
      · exact Or.inl List.mem_cons_self
      · rcases ih h with h | ⟨k, hk, rfl⟩
        · exact Or.inl (List.mem_cons_of_mem _ h)
        · exact Or.inr ⟨k, List.mem_cons_of_mem _ hk, rfl⟩

/-- What the elements of an array say, one by one. -/
theorem itemValues?_eq_some_iff {vs : List Value} : itemValues? items = some vs ↔
    List.Forall₂ (fun i v => i.value.value? = some v) items vs := by
  induction items generalizing vs with
  | nil => cases vs <;> simp [itemValues?]
  | cons i items ih =>
    rw [itemValues?, itemValue?_eq]
    simp only [Option.bind_eq_bind, Option.bind_eq_some_iff, ih, Option.some.injEq,
      List.forall₂_cons_left_iff]
    constructor
    · rintro ⟨v, hv, ws, hws, rfl⟩
      exact ⟨v, ws, hv, hws, rfl⟩
    · rintro ⟨v, ws, hv, hws, rfl⟩
      exact ⟨v, hv, ws, hws, rfl⟩

/-- A list of strings with one of them replaced. -/
theorem forall₂_set {vs : List Value} {words : List String}
    (h : List.Forall₂ (fun v s => v.string = .ok s) vs words) (index : Nat) :
    List.Forall₂ (fun v s => v.string = .ok s) (vs.set index (.scalar (.string target)))
      (words.set index target) := by
  induction h generalizing index with
  | nil => exact .nil
  | cons hR h ih =>
    cases index with
    | zero => exact .cons rfl h
    | succ index => exact .cons hR (ih index)

/-- Two lists that are alike stay so when an element is replaced in each. -/
theorem forall₂_modify_set {α β : Type} {R : α → β → Prop} {f : α → α} {y : β}
    (hf : ∀ x, R (f x) y) {xs : List α} {ys : List β} (h : List.Forall₂ R xs ys) (index : Nat) :
    List.Forall₂ R (xs.modify index f) (ys.set index y) := by
  induction h generalizing index with
  | nil => simp
  | cons hR h ih =>
    cases index with
    | zero => exact .cons (hf _) h
    | succ index => exact .cons hR (ih index)

/-- The imports that are decoded are what stands in the list. -/
theorem imports_of_ofFields (hsaid : doc.fields? = some said)
    (hdecoded : Document.ofFields said = .ok decoded) {v : Value}
    (hv : lookup? "imports" said = some v) : ∃ vs, v = .sequence vs ∧
      List.Forall₂ (fun v s => v.string = .ok s) vs decoded.imports := by
  obtain ⟨⟨himports, -⟩, -⟩ := Document.lookup?_of_ofFields (nodup_of_fields? hsaid) hdecoded
  have hlist := himports v hv
  cases v with
  | sequence vs => exact ⟨vs, rfl, mapM_eq_ok_iff.1 hlist⟩
  | scalar | table => cases hlist

/-- Only an entry of its own makes a list of strings. -/
theorem imports_eq_nil (hsaid : doc.fields? = some said)
    (hdecoded : Document.ofFields said = .ok decoded) (hnone : importsLine? doc = none) :
    decoded.imports = [] := by
  obtain ⟨⟨-, hnoImports⟩, -⟩ := Document.lookup?_of_ofFields (nodup_of_fields? hsaid) hdecoded
  cases hlookup : lookup? "imports" said with
  | none => exact hnoImports hlookup
  | some v =>
    obtain ⟨vs, rfl, hvs⟩ := imports_of_ofFields hsaid hdecoded hlookup
    obtain ⟨t, u, ht, hu, rfl⟩ := exists_of_fields? hsaid
    rw [lookup?_fieldValues] at hlookup
    obtain ⟨g, hg, hvalue⟩ := Option.map_eq_some_iff.1 hlookup
    cases g with
    | finished w =>
      rcases plain_of_growFields? ht (plain_of_foldlM hu ⟨w, hg⟩) with ⟨x, hx⟩ | ⟨f, hf, hname⟩
      · simp [lookup?] at hx
      · obtain ⟨e, he, rfl⟩ := List.mem_map.1 hf
        exact absurd hname (by simpa using List.find?_eq_none.1 hnone e he)
    | table o fs => cases hvalue
    | tables es =>
      -- a list of tables is none of strings, unless it is empty
      rw [Growing.value, elementValues_eq] at hvalue
      obtain rfl := Value.sequence.inj hvalue
      cases es with
      | nil => exact List.forall₂_nil_left_iff.1 hvs
      | cons fs es =>
        obtain ⟨s, -, hstring, -⟩ := List.forall₂_cons_left_iff.1 hvs
        cases hstring

/-- **An edit finds an import exactly if the resolver reads one at the index.** -/
theorem withImport?_isSome_iff (hsaid : doc.fields? = some said)
    (hdecoded : Document.ofFields said = .ok decoded) :
    (withImport? index target doc).isSome = true ↔ index < decoded.imports.length := by
  rw [Option.isSome_iff_exists]
  simp only [withImport?_eq_some_iff]
  cases hline : importsLine? doc with
  | none => simp [imports_eq_nil hsaid hdecoded hline]
  | some e =>
    obtain ⟨v, hv, hlookup⟩ := lookup?_of_fields? hsaid (List.mem_of_find?_eq_some hline)
      (by simpa using List.find?_some hline)
    obtain ⟨vs, rfl, hvs⟩ := imports_of_ofFields hsaid hdecoded hlookup
    cases hvalue : e.value.value with
    | scalar spelling s =>
      rw [hvalue] at hv
      cases hv
    | table fields comma tail =>
      rw [hvalue] at hv
      obtain ⟨t, -, hv⟩ := Option.map_eq_some_iff.1 hv
      cases hv
    | array items comma tail =>
      rw [hvalue] at hv
      obtain ⟨ws, hws, hv⟩ := Option.map_eq_some_iff.1 hv
      obtain rfl := Value.sequence.inj hv
      rw [← hvs.length_eq, ← (itemValues?_eq_some_iff.1 hws).length_eq]
      constructor
      · rintro ⟨doc', e', items', comma', tail', he', hvalue', hindex, -⟩
        obtain rfl := Option.some.inj he'
        rw [hvalue] at hvalue'
        obtain ⟨rfl, -, -⟩ := Node.array.inj hvalue'
        exact hindex
      · exact fun hindex => ⟨_, e, items, comma, tail, rfl, hvalue, hindex, rfl⟩

/-! ### What the document says afterwards -/

/-- A document with an import edited is decoded to the same with that import. -/
theorem ofFields_withImport? (hsaid : doc.fields? = some said)
    (hdecoded : Document.ofFields said = .ok decoded)
    (h : withImport? index target doc = some doc') : ∃ said', doc'.fields? = some said' ∧
      Document.ofFields said' =
        .ok { decoded with imports := decoded.imports.set index target } := by
  obtain ⟨e, items, comma, tail, he, hvalue, -, rfl⟩ := withImport?_eq_some_iff.1 h
  have hmem := List.mem_of_find?_eq_some he
  have hname : e.key.names = ["imports"] := by simpa using List.find?_some he
  obtain ⟨vs, hvs, hlookup⟩ := exists_itemValues? hsaid hmem hname hvalue
  have hnode : (Node.array (itemsWithString index target items) comma tail).value? =
      some (.sequence (vs.set index (.scalar (.string target)))) := by
    have hset := forall₂_modify_set (f := fun i => { i with value := .ofString target })
      (y := .scalar (.string target)) (fun _ => rfl) (itemValues?_eq_some_iff.1 hvs) index
    rw [Node.value?, itemsWithString, itemValues?_eq_some_iff.2 hset, Option.map_some]
  refine ⟨_, fields?_entriesWithNode hsaid hmem hname hnode,
    Document.ofFields_setImports (nodup_of_fields? hsaid) hdecoded ?_⟩
  obtain ⟨ws, hws, hstrings⟩ := imports_of_ofFields hsaid hdecoded hlookup
  obtain rfl := Value.sequence.inj hws
  exact mapM_eq_ok_iff.2 (forall₂_set hstrings index)

theorem legible_withImport? (hlegible : LegibleDocument layout doc)
    (h : withImport? index target doc = some doc') : LegibleDocument layout doc' := by
  obtain ⟨e, items, comma, tail, he, hvalue, hindex, rfl⟩ := withImport?_eq_some_iff.1 h
  obtain ⟨hentries, hsections⟩ := forall_mem_lines.1 hlegible.lines
  have hlist : Legible layout maxDepth (.array items comma tail) :=
    hvalue ▸ (hentries e (List.mem_of_find?_eq_some he)).value
  obtain ⟨hitems, hnil, htail⟩ := listed_iff.1 hlist
  have hne : items ≠ [] := List.ne_nil_of_length_pos (by omega)
  have hne' : itemsWithString index target items ≠ [] := by simpa [itemsWithString] using hne
  have hnode : Legible layout maxDepth
      (.array (itemsWithString index target items) comma tail) := by
    refine listed_iff.2 ⟨fun i hi => ?_, fun h => absurd h hne', by simpa [hne, hne'] using htail⟩
    rcases mem_itemsWithString hi with hi | ⟨j, hj, rfl⟩
    · exact hitems i hi
    · exact (hitems j hj).replace (legible_ofString layout _ target)
  exact ⟨forall_mem_lines.2 ⟨legible_entriesWithNode hentries hnode, hsections⟩, hlegible.tail⟩

/-- The text that an edit writes is the same document but for that import. -/
theorem ofText_unixText_withImport?
    (hdoc : Toml.Document.ofText? .oneLine text.toList = some doc)
    (hread : Document.ofText text = .ok decoded) (h : withImport? index target doc = some doc') :
    Document.ofText (String.ofList doc'.unixText) =
      .ok { decoded with imports := decoded.imports.set index target } := by
  obtain ⟨said, hsaid, hdecoded, -⟩ := exists_of_ofText hdoc hread
  obtain ⟨said', hsaid', himports⟩ := ofFields_withImport? hsaid hdecoded h
  exact ofText_unixText (legible_withImport? (legible_of_ofText? hdoc).1 h) hsaid' himports

/-! ### The edit of a file -/

/-- **Pointing an import elsewhere** in a document that both the resolver and the editor read:
where the resolver reads an import at the index, the document is written, and read again it has
the same rules and the same imports but for that one, which is the target as it is.  Elsewhere
there is no such import, and nothing is written. -/
theorem redirectImport_exact (index : Nat) (target : String) (hd : d.Tree)
    (htext : d.readText path = .ok text)
    (hread : Document.ofText text = .ok decoded) (hedit : readForEdit d path = .ok doc) :
    (index < decoded.imports.length → ∃ e, redirectImport d path index target = .ok e ∧
      ∃ new, e.readText path = .ok new ∧ Document.ofText new =
        .ok { decoded with imports := decoded.imports.set index target }) ∧
    (¬index < decoded.imports.length →
      redirectImport d path index target = .error (.noImport path index)) := by
  obtain ⟨text', htext', hdoc, -⟩ := readForEdit_eq_ok_iff.1 hedit
  obtain rfl := Except.ok.inj (htext'.symm.trans htext)
  obtain ⟨said, hsaid, hdecoded, -⟩ := exists_of_ofText hdoc hread
  have hiff : (withImport? index target doc).isSome = true ↔ _ :=
    withImport?_isSome_iff hsaid hdecoded
  rw [← hiff]
  refine ⟨fun hsome => ?_, fun hnone => ?_⟩
  · obtain ⟨doc', hdoc'⟩ := Option.isSome_iff_exists.1 hsome
    have hwrite := hd.writeFile_eq htext (String.ofList doc'.unixText)
    exact ⟨_, edit_of_some hedit hdoc' hwrite, _, hd.readText_overwrite htext _,
      ofText_unixText_withImport? hdoc hread hdoc'⟩
  · rw [Option.not_isSome_iff_eq_none] at hnone
    exact edit_of_none hedit hnone

/-- Two imports, each with a comment behind it. -/
def twoImports : String :=
  "imports = [\n  'base.toml', # first\n  \"more.toml\", # second\n]\n" ++
    "rules = [\x7b code = \"X\", action = \"warn\" \x7d]\n"

/-- A path with a backslash, a line break, a control character and quotes at its end. -/
def oddPath : String := "a\\b\n\x01'''\"\""

/-- The second import is pointed at an odd path; there is no third import. -/
theorem redirectImport_exact_twoImports :
    (∃ e, redirectImport (oneDocument twoImports) (.ofText "/r.toml") 1 oddPath = .ok e ∧
      ∃ new, e.readText (.ofText "/r.toml") = .ok new ∧ Document.ofText new =
        .ok ⟨["base.toml", oddPath], [⟨"X", "warn"⟩]⟩) ∧
    redirectImport (oneDocument twoImports) (.ofText "/r.toml") 2 oddPath =
      .error (.noImport (.ofText "/r.toml") 2) := by
  have htree : (oneDocument twoImports).Tree :=
    Disk.tree_of_entries (by decide +kernel) (by decide +kernel)
  have htext : (oneDocument twoImports).readText (.ofText "/r.toml") = .ok twoImports :=
    toOption_eq_some_iff.1 (by decide +kernel)
  have hread : Document.ofText twoImports =
      .ok ⟨["base.toml", "more.toml"], [⟨"X", "warn"⟩]⟩ :=
    toOption_eq_some_iff.1 (by decide +kernel)
  have hsome : (readForEdit (oneDocument twoImports) (.ofText "/r.toml")).toOption.isSome =
      true := by decide +kernel
  obtain ⟨doc, hdoc⟩ := Option.isSome_iff_exists.1 hsome
  have hexact (index : Nat) := redirectImport_exact index oddPath htree htext hread
    (toOption_eq_some_iff.1 hdoc)
  exact ⟨(hexact 1).1 (by decide), (hexact 2).2 (by decide)⟩

end Ruleset
end LintWorkspace
