/-
# Texts cut into stretches

An edit leaves most of a document as it is written.  To say which part gives way to what, the
text is cut into stretches, and what they say about the text before and about the text after is
read off them (`written`).

| stretch | the text after |
| --- | --- |
| `kept`: a key, a value or a mark | the same, character for character |
| `gap`: blanks, line breaks and comments | the same, with plain line breaks |
| `swapped`: one text for another | the other text |

What an edit does not change is cut along the syntax tree (`Node.stretches`), and seen with
plain line breaks afterwards (`Node.written_stretches`).
-/

import LintWorkspace.Proofs.LineBreaks
import Mathlib.Data.List.Basic

namespace LintWorkspace
namespace Toml

/-- A stretch of a text: it stays as it is, it is a gap, or one text gives way to another. -/
inductive Stretch where
  | kept (text : List Char)
  | gap (text : List Char)
  | swapped (old new : List Char)
deriving DecidableEq

/-- A gap before an edit, and after it with plain line breaks. -/
def gapSeen (edited : Bool) (g : List Char) : List Char := if edited then unix g else g

/-- What a stretch is before and after the edit. -/
def Stretch.text (edited : Bool) : Stretch → List Char
  | kept text => text
  | gap text => gapSeen edited text
  | swapped old new => if edited then new else old

/-- What stretches are before and after the edit. -/
def written (edited : Bool) (ss : List Stretch) : List Char := ss.flatMap (Stretch.text edited)

variable {edited : Bool} {ss : List Stretch} {e : Entry} {node : Node}

@[simp] theorem written_nil : written edited [] = [] := rfl

@[simp] theorem written_cons (s : Stretch) (ss : List Stretch) :
    written edited (s :: ss) = s.text edited ++ written edited ss := List.flatMap_cons

@[simp] theorem written_append (ss ss' : List Stretch) :
    written edited (ss ++ ss') = written edited ss ++ written edited ss' := List.flatMap_append

@[simp] theorem text_kept (text : List Char) : (Stretch.kept text).text edited = text := rfl

@[simp] theorem text_gap (text : List Char) :
    (Stretch.gap text).text edited = gapSeen edited text := rfl

@[simp] theorem text_swapped (old new : List Char) :
    (Stretch.swapped old new).text edited = if edited then new else old := rfl

theorem written_flatMap {α : Type} (f : α → List Stretch) (xs : List α) :
    written edited (xs.flatMap f) = xs.flatMap fun x => written edited (f x) :=
  List.flatMap_assoc

/-- Of texts that follow one another some are dropped. -/
theorem written_dropped {α : Type} (edited : Bool) (p : α → Bool) (write : α → List Char)
    (stretches : α → List Stretch) (xs : List α) :
    written edited (xs.flatMap fun x => if p x then [.swapped (write x) []] else stretches x) =
      if edited then (xs.filter fun x => !p x).flatMap fun x => written true (stretches x)
      else xs.flatMap fun x => if p x then write x else written false (stretches x) := by
  induction xs with
  | nil => cases edited <;> rfl
  | cons x xs ih =>
    rw [List.flatMap_cons, written_append, ih]
    cases hx : p x <;> cases edited <;> simp [hx]

/-! ### What is seen before and after an edit -/

/-- A value before an edit, and after it with plain line breaks. -/
def Node.seen (edited : Bool) (node : Node) : Node := if edited then node.plain else node

/-- A value and the gaps around it. -/
def Spaced.seen (edited : Bool) (s : Spaced Node) : Spaced Node :=
  ⟨gapSeen edited s.before, s.value.seen edited, gapSeen edited s.after⟩

/-- An entry before an edit, and after it with plain line breaks. -/
def Entry.seen (edited : Bool) (e : Entry) : Entry :=
  { e with lead := gapSeen edited e.lead, value := e.value.seen edited }

/-- A section before an edit, and after it with plain line breaks. -/
def Section.seen (edited : Bool) (s : Section) : Section :=
  { s with
    lead := gapSeen edited s.lead
    trail := gapSeen edited s.trail
    entries := s.entries.map (Entry.seen edited) }

theorem Spaced.seen_false (s : Spaced Node) : s.seen false = s := rfl

theorem Spaced.seen_true (s : Spaced Node) : s.seen true = plainItem s := (plainItem_eq s).symm

theorem Entry.seen_false (e : Entry) : e.seen false = e := rfl

theorem Entry.seen_true (e : Entry) : e.seen true = e.plain := by
  rw [seen, plain, Spaced.seen_true, gapSeen, if_pos rfl]

theorem Section.seen_false (s : Section) : s.seen false = s := by
  have hentries : s.entries.map (Entry.seen false) = s.entries := List.map_id s.entries
  rw [seen, hentries]
  rfl

theorem Section.seen_true (s : Section) : s.seen true = s.plain := by
  have hentries : s.entries.map (Entry.seen true) = s.entries.map Entry.plain :=
    List.map_congr_left fun e _ => e.seen_true
  rw [seen, plain, hentries]
  rfl

theorem Node.seen_scalar (spelling : List Char) (v : Scalar) :
    (Node.scalar spelling v).seen edited = .scalar spelling v := by
  cases edited <;> rfl

theorem Node.seen_array (items : List (Spaced Node)) (comma : Bool) (tail : List Char) :
    (Node.array items comma tail).seen edited =
      .array (items.map (Spaced.seen edited)) comma (gapSeen edited tail) := by
  cases edited with
  | false =>
    have hitems : items.map (Spaced.seen false) = items := List.map_id items
    rw [hitems]
    rfl
  | true =>
    have hitems : items.map (Spaced.seen true) = items.map plainItem :=
      List.map_congr_left fun i _ => i.seen_true
    rw [hitems]
    exact plain_array items comma tail

/-- A field before an edit, and after it with plain line breaks. -/
def fieldSeen (edited : Bool) (f : Key × Spaced Node) : Key × Spaced Node := (f.1, f.2.seen edited)

theorem Node.seen_table (fields : List (Key × Spaced Node)) (comma : Bool) (tail : List Char) :
    (Node.table fields comma tail).seen edited =
      .table (fields.map (fieldSeen edited)) comma (gapSeen edited tail) := by
  cases edited with
  | false =>
    have hfields : fields.map (fieldSeen false) = fields := List.map_id fields
    rw [hfields]
    rfl
  | true =>
    have hfields : fields.map (fieldSeen true) = fields.map plainField :=
      List.map_congr_left fun f _ => by rw [fieldSeen, Spaced.seen_true, plainField_eq]
    rw [hfields]
    exact plain_table fields comma tail

/-! ### Around a value -/

/-- The gaps around a value. -/
def Spaced.around (s : Spaced Node) (inner : List Stretch) : List Stretch :=
  .gap s.before :: (inner ++ [.gap s.after])

/-- All of a field but its value stays. -/
def fieldAround (f : Key × Spaced Node) (inner : List Stretch) : List Stretch :=
  .kept (f.1.text ++ ['=']) :: f.2.around inner

/-- All of an entry but its value stays. -/
def Entry.around (e : Entry) (inner : List Stretch) : List Stretch :=
  .gap e.lead :: (fieldAround (e.key, e.value) inner ++ [.kept ['\n']])

theorem Spaced.written_around {s : Spaced Node}
    (h : written edited ss = (node.seen edited).text) :
    written edited (s.around ss) =
      spacedText (({ s with value := node } : Spaced Node).seen edited) := by
  simp [around, spacedText_eq, seen, h]

theorem written_fieldAround {f : Key × Spaced Node}
    (h : written edited ss = (node.seen edited).text) :
    written edited (fieldAround f ss) =
      fieldText (fieldSeen edited (f.1, { f.2 with value := node })) := by
  simp [fieldAround, fieldText_eq, fieldSeen, Spaced.written_around h]

theorem Entry.written_around (h : written edited ss = (node.seen edited).text) :
    written edited (e.around ss) =
      (({ e with value := { e.value with value := node } } : Entry).seen edited).text := by
  simp [around, Entry.text, seen, written_fieldAround h, fieldSeen]

/-- Stretches with commas between them. -/
def commaed (sss : List (List Stretch)) : List Stretch := [Stretch.kept [',']].intercalate sss

theorem written_commaed (sss : List (List Stretch)) :
    written edited (commaed sss) = [','].intercalate (sss.map (written edited)) := by
  induction sss with
  | nil => rfl
  | cons ss sss ih =>
    cases sss with
    | nil => simp [commaed]
    | cons ss' sss =>
      rw [commaed, List.intercalate_cons_cons, ← commaed, written_append, written_append, ih,
        List.map_cons, List.map_cons, List.map_cons, List.intercalate_cons_cons]
      simp

/-- Stretches between brackets; a comma may follow the last of them. -/
def bracketed (first last : Char) (inner : List Stretch) (comma : Bool) (tail : List Char) :
    List Stretch :=
  .kept [first] :: (inner ++ [.kept (if comma then [','] else []), .gap tail, .kept [last]])

theorem written_bracketed (first last : Char) (inner : List Stretch) (comma : Bool)
    (tail : List Char) : written edited (bracketed first last inner comma tail) =
      first :: (written edited inner ++ (if comma then [','] else []) ++ gapSeen edited tail ++
        [last]) := by
  simp [bracketed]

theorem forall_mem_commaed {P : Stretch → Prop} (hcomma : P (.kept [',']))
    {sss : List (List Stretch)} (h : ∀ ss ∈ sss, ∀ s ∈ ss, P s) : ∀ s ∈ commaed sss, P s := by
  induction sss with
  | nil => simp [commaed]
  | cons ss sss ih =>
    obtain ⟨hss, hsss⟩ := List.forall_mem_cons.1 h
    cases sss with
    | nil => simpa [commaed] using hss
    | cons ss' sss =>
      rw [commaed, List.intercalate_cons_cons, ← commaed]
      exact List.forall_mem_append.2
        ⟨List.forall_mem_append.2 ⟨hss, List.forall_mem_singleton.2 hcomma⟩, ih hsss⟩

/-! ### What an edit does not change -/

mutual

/-- The stretches of a value that does not change. -/
def Node.stretches : Node → List Stretch
  | .scalar spelling _ => [.kept spelling]
  | .array items comma tail => bracketed '[' ']' (commaed (itemsStretches items)) comma tail
  | .table fields comma tail => bracketed '{' '}' (commaed (fieldsStretches fields)) comma tail

/-- The stretches of the elements of an array. -/
def itemsStretches : List (Spaced Node) → List (List Stretch)
  | [] => []
  | item :: items => itemStretches item :: itemsStretches items

/-- The stretches of the fields of an inline table. -/
def fieldsStretches : List (Key × Spaced Node) → List (List Stretch)
  | [] => []
  | field :: fields => fieldStretches field :: fieldsStretches fields

/-- The stretches of a field. -/
def fieldStretches : Key × Spaced Node → List Stretch
  | (key, value) => .kept (key.text ++ ['=']) :: itemStretches value

/-- The stretches of a value and the gaps around it. -/
def itemStretches : Spaced Node → List Stretch
  | ⟨before, value, after⟩ => .gap before :: (value.stretches ++ [.gap after])

end

mutual

theorem Node.written_stretches (edited : Bool) :
    (node : Node) → written edited node.stretches = (node.seen edited).text
  | .scalar spelling _ => by simp [Node.stretches, Node.seen_scalar, Node.text]
  | .array items comma tail => by
    rw [Node.stretches, written_bracketed, written_commaed, written_itemsStretches edited items,
      Node.seen_array, Node.text, itemsText_eq, List.map_map]
    rfl
  | .table fields comma tail => by
    rw [Node.stretches, written_bracketed, written_commaed, written_fieldsStretches edited fields,
      Node.seen_table, Node.text, fieldsText_eq, List.map_map]
    rfl

theorem written_itemsStretches (edited : Bool) : (items : List (Spaced Node)) →
    (itemsStretches items).map (written edited) = items.map fun i => spacedText (i.seen edited)
  | [] => rfl
  | item :: items => by
    rw [itemsStretches, List.map_cons, List.map_cons, written_itemStretches edited item,
      written_itemsStretches edited items]

theorem written_fieldsStretches (edited : Bool) : (fields : List (Key × Spaced Node)) →
    (fieldsStretches fields).map (written edited) = fields.map fun f =>
      fieldText (fieldSeen edited f)
  | [] => rfl
  | field :: fields => by
    rw [fieldsStretches, List.map_cons, List.map_cons, written_fieldStretches edited field,
      written_fieldsStretches edited fields]

theorem written_fieldStretches (edited : Bool) : (field : Key × Spaced Node) →
    written edited (fieldStretches field) = fieldText (fieldSeen edited field)
  | (key, value) => by
    simp [fieldStretches, fieldText_eq, fieldSeen, written_itemStretches edited value]

theorem written_itemStretches (edited : Bool) : (item : Spaced Node) →
    written edited (itemStretches item) = spacedText (item.seen edited)
  | ⟨before, value, after⟩ => by
    simp [itemStretches, spacedText_eq, Spaced.seen, Node.written_stretches edited value]

end

/-- A stretch that is not swapped. -/
def Stretch.Stays : Stretch → Prop
  | kept _ | gap _ => True
  | swapped _ _ => False

/-- Brackets, a comma and a gap stay. -/
theorem stays_bracketed {first last : Char} (h : ∀ s ∈ ss, s.Stays) (comma : Bool)
    (tail : List Char) : ∀ s ∈ bracketed first last ss comma tail, s.Stays :=
  List.forall_mem_cons.2 ⟨trivial, List.forall_mem_append.2 ⟨h, by simp [Stretch.Stays]⟩⟩

mutual

/-- **All of a value that does not change stays.** -/
theorem Node.stays : (node : Node) → ∀ s ∈ node.stretches, s.Stays
  | .scalar _ _ => List.forall_mem_singleton.2 trivial
  | .array items comma tail =>
    stays_bracketed (forall_mem_commaed trivial (itemsStay items)) comma tail
  | .table fields comma tail =>
    stays_bracketed (forall_mem_commaed trivial (fieldsStay fields)) comma tail

theorem itemsStay : (items : List (Spaced Node)) → ∀ ss ∈ itemsStretches items, ∀ s ∈ ss, s.Stays
  | [] => fun _ h => absurd h List.not_mem_nil
  | item :: items => List.forall_mem_cons.2 ⟨itemStays item, itemsStay items⟩

theorem fieldsStay :
    (fields : List (Key × Spaced Node)) → ∀ ss ∈ fieldsStretches fields, ∀ s ∈ ss, s.Stays
  | [] => fun _ h => absurd h List.not_mem_nil
  | field :: fields => List.forall_mem_cons.2 ⟨fieldStays field, fieldsStay fields⟩

theorem fieldStays : (field : Key × Spaced Node) → ∀ s ∈ fieldStretches field, s.Stays
  | (_, value) => List.forall_mem_cons.2 ⟨trivial, itemStays value⟩

theorem itemStays : (item : Spaced Node) → ∀ s ∈ itemStretches item, s.Stays
  | ⟨_, value, _⟩ => List.forall_mem_cons.2
    ⟨trivial, List.forall_mem_append.2 ⟨Node.stays value, List.forall_mem_singleton.2 trivial⟩⟩

end

/-- The stretches of an entry that does not change. -/
def Entry.stretches (e : Entry) : List Stretch := e.around e.value.value.stretches

theorem Entry.written_stretches (e : Entry) :
    written edited e.stretches = (e.seen edited).text :=
  Entry.written_around (e.value.value.written_stretches edited)

/-- The stretches of a section, those of its entries given. -/
def Section.around (s : Section) (inner : List Stretch) : List Stretch :=
  .gap s.lead :: .kept s.header :: .gap s.trail :: .kept ['\n'] :: inner

theorem Section.written_around {s : Section} {entries : List Entry}
    (h : written edited ss = (entries.map (Entry.seen edited)).flatMap Entry.text) :
    written edited (s.around ss) = (({ s with entries } : Section).seen edited).text := by
  have hheader : (({ s with entries } : Section).seen edited).header = s.header := rfl
  rw [Section.text, hheader]
  simp [around, seen, h]

/-- The stretches of a section that does not change. -/
def Section.stretches (s : Section) : List Stretch := s.around (s.entries.flatMap Entry.stretches)

theorem written_entries (entries : List Entry) :
    written edited (entries.flatMap Entry.stretches) =
      (entries.map (Entry.seen edited)).flatMap Entry.text := by
  rw [written_flatMap, List.flatMap_map]
  exact List.flatMap_congr fun e _ => e.written_stretches

theorem Section.written_stretches (s : Section) :
    written edited s.stretches = (s.seen edited).text :=
  Section.written_around (written_entries s.entries)

theorem written_sections (sections : List Section) :
    written edited (sections.flatMap Section.stretches) =
      (sections.map (Section.seen edited)).flatMap Section.text := by
  rw [written_flatMap, List.flatMap_map]
  exact List.flatMap_congr fun s _ => s.written_stretches

theorem Entry.stays_around (h : ∀ s ∈ ss, s.Stays) : ∀ s ∈ e.around ss, s.Stays := by
  simp only [around, fieldAround, Spaced.around, List.cons_append, List.append_assoc,
    List.forall_mem_cons, List.forall_mem_append]
  exact ⟨trivial, trivial, trivial, h, by simp [Stretch.Stays]⟩

theorem Entry.stays (e : Entry) : ∀ s ∈ e.stretches, s.Stays := stays_around e.value.value.stays

/-- All of a section that does not change stays. -/
theorem Section.stays (s : Section) : ∀ t ∈ s.stretches, t.Stays := by
  simp only [stretches, around, List.forall_mem_cons, List.forall_mem_flatMap]
  exact ⟨trivial, trivial, trivial, trivial, fun e _ => e.stays⟩

end Toml
end LintWorkspace
