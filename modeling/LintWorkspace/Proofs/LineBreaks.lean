/-
# A document with plain line breaks

A document is written with plain line breaks in its gaps (`Document.plain`).  That is a legible
document too, so it is what is read from the text that was written (`ofText?_unixText`).

| part | with plain line breaks |
| --- | --- |
| a key, a header, the end of a line | the same, there are no carriage returns |
| a gap in an array or above a line | a gap without its carriage returns (`spells_unix_gap`) |
| a value that holds no others | the same, as it is spelled |

No value changes, so the document says what it said (`fields?_plain`).
-/

import LintWorkspace.Proofs.Layout
import LintWorkspace.Proofs.Printing
import LintWorkspace.Toml.Value

namespace LintWorkspace
namespace Toml

variable {cs rest g : List Char} {c : Char} {depth : Nat} {node : Node}

/-! ### Gaps -/

theorem unix_nil : unix [] = [] := rfl

theorem unix_cons (hc : c ≠ '\r') (cs : List Char) : unix (c :: cs) = c :: unix cs :=
  List.filter_cons_of_pos (by simpa using hc)

theorem unix_return (cs : List Char) : unix ('\r' :: cs) = unix cs :=
  List.filter_cons_of_neg (by simp)

theorem unix_eq_self (h : '\r' ∉ cs) : unix cs = cs :=
  List.filter_eq_self.2 fun c hc => by simpa using fun he : c = '\r' => h (he ▸ hc)

/-- A gap with plain line breaks has plain line breaks. -/
theorem unix_unix (cs : List Char) : unix (unix cs) = unix cs :=
  unix_eq_self fun hmem => by simpa using (List.mem_filter.1 hmem).2

/-- Blanks have no carriage return. -/
theorem unix_spaces (cs : List Char) : unix (spaces cs).1 = (spaces cs).1 :=
  unix_eq_self fun hmem => absurd ((span_stops isSpace cs).1 _ hmem) (by decide)

theorem unix_commentOf (cs : List Char) : unix (commentOf cs).1 = (commentOf cs).1 := by
  unfold commentOf
  split
  · refine unix_eq_self ?_
    rw [List.mem_cons, not_or]
    exact ⟨by decide, fun hmem => absurd ((span_stops isPlain _).1 _ hmem) (by decide)⟩
  · rfl

/-- **The end of a line has no carriage return** but that of the line break. -/
theorem unix_of_lineEnd? (h : lineEnd? cs = some (g, rest)) : unix g = g := by
  rw [eq_of_lineEnd? h, unix, List.filter_append, ← unix, ← unix, unix_spaces, unix_commentOf]

theorem gapFrom?_true (hbreak : c ≠ '\n') (hreturn : c ≠ '\r') :
    gapFrom? true (c :: cs) = if isPlain c then
      (gapFrom? true cs).map fun (g, rest) => (c :: g, rest) else none := by
  rw [gapFrom?]
  · exact hbreak
  · exact hreturn

theorem gapFrom?_false (hbreak : c ≠ '\n') (hreturn : c ≠ '\r') :
    gapFrom? false (c :: cs) =
      if isSpace c then (gapFrom? false cs).map fun (g, rest) => (c :: g, rest)
      else if c = '#' then (gapFrom? true cs).map fun (g, rest) => (c :: g, rest)
      else some ([], c :: cs) := by
  rw [gapFrom?]
  · exact hbreak
  · exact hreturn

theorem gapFrom?_unix {b : Bool} (h : gapFrom? b cs = some (g, rest)) :
    gapFrom? b (unix g ++ rest) = some (unix g, rest) := by
  fun_induction gapFrom? b cs generalizing g with
  | case1 =>
    obtain ⟨rfl, rfl⟩ := Prod.mk.inj (Option.some.inj h)
    rfl
  | case2 b cs ih =>
    obtain ⟨g, rfl, hg⟩ := exists_of_map (fun _ => rfl) h
    rw [unix_cons (by decide), List.cons_append, gapFrom?, ih hg]
    rfl
  | case3 b cs ih =>
    obtain ⟨g, rfl, hg⟩ := exists_of_map (fun _ => rfl) h
    rw [unix_return]
    exact ih hg
  | case4 | case6 => cases h
  | case5 c cs hbreak hreturn hplain ih =>
    obtain ⟨g, rfl, hg⟩ := exists_of_map (fun _ => rfl) h
    rw [unix_cons hreturn, List.cons_append, gapFrom?_true hbreak hreturn, if_pos hplain, ih hg]
    rfl
  | case7 c cs hbreak hreturn hspace ih =>
    obtain ⟨g, rfl, hg⟩ := exists_of_map (fun _ => rfl) h
    rw [unix_cons hreturn, List.cons_append, gapFrom?_false hbreak hreturn, if_pos hspace, ih hg]
    rfl
  | case8 cs hbreak hreturn hspace ih =>
    obtain ⟨g, rfl, hg⟩ := exists_of_map (fun _ => rfl) h
    rw [unix_cons hreturn, List.cons_append, gapFrom?_false hbreak hreturn, if_neg hspace,
      if_pos rfl, ih hg]
    rfl
  | case9 c cs hbreak hreturn hspace hcomment =>
    obtain ⟨rfl, rfl⟩ := Prod.mk.inj (Option.some.inj h)
    rw [unix_nil, List.nil_append, gapFrom?_false hbreak hreturn, if_neg hspace, if_neg hcomment]

/-- **A gap without its carriage returns is a gap.** -/
theorem spells_unix_gap (h : Spells gap? (Stops isGap) g g) :
    Spells gap? (Stops isGap) (unix g) (unix g) := by
  have hread : gap? (g ++ ['x']) = some (g, ['x']) := h ['x'] fun c hc => by
    obtain rfl : 'x' = c := by simpa using hc
    decide
  exact gaps_gap?.spells (gapFrom?_unix hread) (by simp)

theorem stops_nil {p : Char → Bool} : Stops p [] := fun c hc => by cases hc

theorem spells_unix_blanks (h : Spells blanks? (Stops isGap) g g) :
    Spells blanks? (Stops isGap) (unix g) (unix g) := by
  have hread : spaces (g ++ []) = (g, []) := Option.some.inj (h [] stops_nil)
  have hsame := unix_spaces (g ++ [])
  rw [hread] at hsame
  rwa [hsame]

/-! ### Values -/

theorem plainItem_eq (i : Spaced Node) :
    plainItem i = ⟨unix i.before, i.value.plain, unix i.after⟩ := by
  obtain ⟨before, node, after⟩ := i
  rw [plainItem]

theorem plainField_eq (f : Key × Spaced Node) : plainField f = (f.1, plainItem f.2) := by
  obtain ⟨key, value⟩ := f
  rw [plainField]

theorem plainItems_eq (items : List (Spaced Node)) : plainItems items = items.map plainItem := by
  induction items with
  | nil => rfl
  | cons i items ih => rw [plainItems, ih, List.map_cons]

theorem plainFields_eq (fields : List (Key × Spaced Node)) :
    plainFields fields = fields.map plainField := by
  induction fields with
  | nil => rfl
  | cons f fields ih => rw [plainFields, ih, List.map_cons]

theorem plain_array (items : List (Spaced Node)) (comma : Bool) (tail : List Char) :
    (Node.array items comma tail).plain = .array (items.map plainItem) comma (unix tail) := by
  rw [Node.plain, plainItems_eq]

theorem plain_table (fields : List (Key × Spaced Node)) (comma : Bool) (tail : List Char) :
    (Node.table fields comma tail).plain = .table (fields.map plainField) comma (unix tail) := by
  rw [Node.plain, plainFields_eq]

mutual

/-- Plain line breaks stay. -/
theorem Node.plain_plain : (node : Node) → node.plain.plain = node.plain
  | .scalar _ _ => rfl
  | .array items _ tail => by
    rw [Node.plain, Node.plain, plainItems_plainItems items, unix_unix]
  | .table fields _ tail => by
    rw [Node.plain, Node.plain, plainFields_plainFields fields, unix_unix]

theorem plainItems_plainItems :
    (items : List (Spaced Node)) → plainItems (plainItems items) = plainItems items
  | [] => rfl
  | item :: items => by
    rw [plainItems, plainItems, plainItem_plainItem item, plainItems_plainItems items]

theorem plainFields_plainFields :
    (fields : List (Key × Spaced Node)) → plainFields (plainFields fields) = plainFields fields
  | [] => rfl
  | field :: fields => by
    rw [plainFields, plainFields, plainField_plainField field, plainFields_plainFields fields]

theorem plainField_plainField :
    (field : Key × Spaced Node) → plainField (plainField field) = plainField field
  | (key, value) => by rw [plainField, plainField, plainItem_plainItem value]

theorem plainItem_plainItem : (item : Spaced Node) → plainItem (plainItem item) = plainItem item
  | ⟨before, value, after⟩ => by
    rw [plainItem, plainItem, unix_unix, unix_unix, Node.plain_plain value]

end

mutual

/-- **A value says the same** with plain line breaks. -/
theorem value?_plain : (node : Node) → node.plain.value? = node.value?
  | .scalar _ _ => rfl
  | .array items _ _ => by rw [Node.plain, Node.value?, Node.value?, itemValues?_plainItems items]
  | .table fields _ _ => by
    rw [Node.plain, Node.value?, Node.value?, growFields?_plainFields _ fields]

theorem itemValues?_plainItems :
    (items : List (Spaced Node)) → itemValues? (plainItems items) = itemValues? items
  | [] => rfl
  | item :: items => by
    rw [plainItems, itemValues?, itemValues?, itemValue?_plainItem item,
      itemValues?_plainItems items]

theorem itemValue?_plainItem : (item : Spaced Node) → itemValue? (plainItem item) = itemValue? item
  | ⟨_, value, _⟩ => by rw [plainItem, itemValue?, itemValue?, value?_plain value]

theorem growFields?_plainFields (t : GrowingTable) :
    (fields : List (Key × Spaced Node)) → growFields? t (plainFields fields) = growFields? t fields
  | [] => rfl
  | field :: fields => by
    rw [plainFields, growFields?, growFields?, growField?_plainField t field]
    exact congrArg _ (funext fun t => growFields?_plainFields t fields)

theorem growField?_plainField (t : GrowingTable) :
    (field : Key × Spaced Node) → growField? t (plainField field) = growField? t field
  | (key, value) => by
    rw [plainField, growField?, growField?, itemValue?_plainItem value]

end

section Lists

variable {α : Type} {P Q : α → Prop} {gap : Reader (List Char)} {xs : List α} {comma : Bool}
  {tail : List Char} {f : α → α}

/-- A list with plain line breaks is a list, if its elements are elements again. -/
theorem Listed.plain
    (hgap : Spells gap (Stops isGap) tail tail → Spells gap (Stops isGap) (unix tail) (unix tail))
    (h : Listed gap P xs comma tail) (hf : ∀ x ∈ xs, P x → Q (f x)) :
    Listed gap Q (xs.map f) comma (unix tail) := by
  obtain ⟨hxs, hnil, htail⟩ := listed_iff.1 h
  refine listed_iff.2 ⟨List.forall_mem_map.2 fun x hx => hf x hx (hxs x hx), ?_, ?_⟩
  · simpa using hnil
  · simp only [List.map_eq_nil_iff]
    split at htail
    · rename_i hfree
      rw [if_pos hfree]
      exact hgap htail
    · rename_i hfree
      rw [if_neg hfree, htail]
      rfl

end Lists

/-- What stands between gaps with plain line breaks. -/
theorem Bordered.plain {before after : Reader (List Char)} {P Q : Node → Prop} {s : Spaced Node}
    (hbefore : Spells before (Stops isGap) s.before s.before →
      Spells before (Stops isGap) (unix s.before) (unix s.before))
    (hafter : Spells after (Stops isGap) s.after s.after →
      Spells after (Stops isGap) (unix s.after) (unix s.after))
    (h : Bordered before after P s) (hnode : Q s.value.plain) :
    Bordered before after Q (plainItem s) := by
  rw [plainItem_eq]
  exact ⟨hbefore h.before, hnode, hafter h.after⟩

/-- **A value on one line with plain line breaks is legible.** -/
theorem Legible.plain (h : Legible .oneLine depth node) : Legible .oneLine depth node.plain := by
  induction depth generalizing node with
  | zero =>
    cases node with
    | scalar => exact h
    | array | table => exact h.elim
  | succ depth ih =>
    cases node with
    | scalar => exact h
    | array items comma tail =>
      rw [Legible] at h
      rw [plain_array]
      exact h.plain spells_unix_gap fun i _ hi =>
        hi.plain spells_unix_gap spells_unix_gap (ih hi.value)
    | table fields comma tail =>
      rw [Legible] at h
      rw [plain_table]
      refine ⟨h.1.plain spells_unix_blanks fun f _ hf => ?_, h.2⟩
      rw [plainField_eq]
      exact ⟨hf.key, hf.value.plain spells_unix_blanks spells_unix_blanks (ih hf.value.value)⟩

/-! ### Lines -/

theorem Entry.plain_plain (e : Entry) : e.plain.plain = e.plain := by
  simp only [Entry.plain, unix_unix, plainItem_plainItem]

theorem Section.plain_plain (s : Section) : s.plain.plain = s.plain := by
  simp only [Section.plain, unix_unix, List.map_map, Function.comp_def, Entry.plain_plain]

/-- An entry with plain line breaks is legible. -/
theorem LegibleEntry.plain {e : Entry} (h : LegibleEntry .oneLine e) :
    LegibleEntry .oneLine e.plain := by
  have hafter := unix_of_lineEnd? (h.after [] trivial)
  rw [Entry.plain, plainItem_eq, hafter]
  exact ⟨spells_unix_gap h.lead, h.key, h.starts, spells_unix_blanks h.before, h.value.plain,
    h.after⟩

/-- What stands before a header does not matter to it, and the end of its line has no carriage
return. -/
theorem of_headerLine?_header {lead : List Char} {ofArray : Bool} {key : Key} {trail : List Char}
    (lead' : List Char) (h : headerLine? lead cs = some (.header lead ofArray key trail, rest)) :
    unix trail = trail ∧ headerLine? lead' cs = some (.header lead' ofArray key trail, rest) := by
  by_cases hcs : NotAt '[' cs
  · rw [headerLine?_of_notAt hcs] at h ⊢
    obtain ⟨⟨key', left⟩, hkey, h⟩ := Option.bind_eq_some_iff.1 h
    obtain ⟨left', hclose, h⟩ := Option.bind_eq_some_iff.1 h
    obtain ⟨⟨trail', rest'⟩, htrail, h⟩ := Option.map_eq_some_iff.1 h
    obtain ⟨hline, rfl⟩ := Prod.mk.inj h
    obtain ⟨-, rfl, rfl, rfl⟩ := Line.header.inj hline
    refine ⟨unix_of_lineEnd? htrail, ?_⟩
    simp only [hkey, hclose, htrail, Option.bind_some, Option.map_some]
  · obtain ⟨cs, rfl⟩ := List.head?_eq_some_iff.1 (Decidable.not_not.1 hcs)
    obtain ⟨⟨key', left⟩, hkey, h⟩ := Option.bind_eq_some_iff.1 h
    obtain ⟨left', hclose, h⟩ := Option.bind_eq_some_iff.1 h
    obtain ⟨left'', hcloses, h⟩ := Option.bind_eq_some_iff.1 h
    obtain ⟨⟨trail', rest'⟩, htrail, h⟩ := Option.bind_eq_some_iff.1 h
    obtain ⟨hline, rfl⟩ := Prod.mk.inj (Option.some.inj h)
    obtain ⟨-, rfl, rfl, rfl⟩ := Line.header.inj hline
    refine ⟨unix_of_lineEnd? htrail, ?_⟩
    change key? cs = some (key', left) at hkey
    simp only [headerLine?, hkey, hclose, hcloses, htrail, if_true, Option.bind_eq_bind,
      Option.bind_some]

/-- The lines of a section that can be read back. -/
def LegibleSection (s : Section) : Prop :=
  LegibleLine .oneLine (.header s.lead s.ofArray s.key s.trail) ∧
    ∀ e ∈ s.entries, LegibleLine .oneLine (.entry e)

/-- A section with plain line breaks is legible. -/
theorem LegibleSection.plain {s : Section} (h : LegibleSection s) : LegibleSection s.plain := by
  obtain ⟨⟨hlead, hheader⟩, hentries⟩ := h
  obtain ⟨htrail, -⟩ := of_headerLine?_header s.lead (hheader [] trivial)
  rw [Section.plain, htrail]
  refine ⟨⟨spells_unix_gap hlead, fun rest hrest => ?_⟩,
    List.forall_mem_map.2 fun e he => (hentries e he).plain⟩
  exact (of_headerLine?_header _ (hheader rest hrest)).2

/-! ### Documents -/

theorem Document.plain_plain (d : Document) : d.plain.plain = d.plain := by
  simp only [Document.plain, unix_unix, List.map_map, Function.comp_def, Entry.plain_plain,
    Section.plain_plain]

/-- What is written of a document is the same with plain line breaks. -/
theorem unixText_plain (d : Document) : d.plain.unixText = d.unixText :=
  congrArg Document.text d.plain_plain

/-- **A document with plain line breaks is legible.** -/
theorem LegibleDocument.plain {d : Document} (h : LegibleDocument .oneLine d) :
    LegibleDocument .oneLine d.plain := by
  obtain ⟨hentries, hsections⟩ := forall_mem_lines.1 h.lines
  have htail : gap? (unix d.tail ++ []) = some (unix d.tail, []) := gapFrom?_unix h.tail
  rw [List.append_nil] at htail
  refine ⟨forall_mem_lines.2 ⟨List.forall_mem_map.2 fun e he => (hentries e he).plain,
    List.forall_mem_map.2 fun s hs => LegibleSection.plain (hsections s hs)⟩, htail⟩

/-- **What is written is read again** as the document with plain line breaks. -/
theorem ofText?_unixText {d : Document} (h : LegibleDocument .oneLine d) :
    Document.ofText? .oneLine d.unixText = some d.plain :=
  ofText?_text h.plain

theorem addEntries?_map_plain (t : GrowingTable) (entries : List Entry) :
    addEntries? t (entries.map Entry.plain) = addEntries? t entries := by
  rw [addEntries?, addEntries?, List.foldlM_map]
  simp only [Entry.plain, itemValue?_plainItem]

theorem addSection?_plain (t : GrowingTable) (s : Section) :
    addSection? t s.plain = addSection? t s := by
  simp only [addSection?, Section.plain, addEntries?_map_plain]

/-- **A document says the same** with plain line breaks. -/
theorem fields?_plain (d : Document) : d.plain.fields? = d.fields? := by
  rw [Document.fields?, Document.fields?, Document.plain]
  simp only [addEntries?_map_plain, List.foldlM_map, addSection?_plain]

end Toml
end LintWorkspace
