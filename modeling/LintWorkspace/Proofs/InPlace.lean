/-
# An edit leaves the rest of the text alone

An edit that succeeds writes the text it read, with some stretches swapped (`Edit.stretches`)
and with what the editor does to every text (`Edit.rewrites_in_place`):

| in the text | is written |
| --- | --- |
| a line break behind a line or in a gap | as `\n` |
| a line break in a string over several lines | as it is |
| a byte order mark | not at all |
| a last line without a line break | with one |

An edit that fails does so before it writes.

Two things are not as plain as one may think (`not_leavesRest`).  The line break at the end is
also added behind a header.  And an action that is written as a table, by dotted keys or by
sections of its own, gives way as a whole, with the comments in it.
-/

import LintWorkspace.Proofs.Cutting
import LintWorkspace.Proofs.Normal

namespace LintWorkspace
namespace Ruleset

open Toml

variable {d d' : Disk} {path : Path} {doc doc' : Toml.Document} {e : Edit} {fault : RulesetFault}

/-! ### Edits of files -/

namespace Edit

/-- The edit of the document at a path. -/
def run (d : Disk) (path : Path) : Edit → Except RulesetFault Disk
  | action code s => setSeverity d path code s
  | redirect index target => redirectImport d path index target

/-- The fault of an edit that finds nothing to change. -/
def missing (path : Path) : Edit → RulesetFault
  | action code _ => .noRule path code
  | redirect index _ => .noImport path index

/-- The disk after an edit, whether it succeeds or not. -/
def after (d : Disk) (path : Path) (e : Edit) : Disk := (e.run d path).toOption.getD d

/-- The value that an edit puts in. -/
def token : Edit → List Char
  | action _ s => (Node.ofString s.text).text
  | redirect _ target => (Node.ofString target).text

theorem run_eq (e : Edit) : e.run d path = edit d path (e.missing path) e.change? := by
  cases e <;> rfl

end Edit

theorem run_of_error (h : readForEdit d path = .error fault) : e.run d path = .error fault := by
  rw [Edit.run_eq, edit, h]
  rfl

theorem run_of_none (hdoc : readForEdit d path = .ok doc) (h : e.change? doc = none) :
    e.run d path = .error (e.missing path) := by
  rw [Edit.run_eq]
  exact edit_of_none hdoc h

/-- **An edit with something to change writes the changed document.** -/
theorem run_of_some (hd : d.Tree) (hdoc : readForEdit d path = .ok doc)
    (h : e.change? doc = some doc') :
    e.run d path = .ok (d.overwrite path (String.ofList doc'.unixText)) := by
  obtain ⟨text, htext, -⟩ := readForEdit_eq_ok_iff.1 hdoc
  rw [Edit.run_eq]
  exact edit_of_some hdoc h (hd.writeFile_eq htext _)

/-- An edit fails before it writes, or it has written the changed document. -/
theorem run_cases (hd : d.Tree) (path : Path) (e : Edit) :
    (∃ fault, e.run d path = .error fault ∧
      (readForEdit d path = .error fault ∨
        fault = e.missing path ∧ ∃ doc, readForEdit d path = .ok doc ∧ e.change? doc = none)) ∨
    ∃ doc doc', readForEdit d path = .ok doc ∧ e.change? doc = some doc' ∧
      e.run d path = .ok (d.overwrite path (String.ofList doc'.unixText)) := by
  cases hdoc : readForEdit d path with
  | error fault => exact .inl ⟨fault, run_of_error hdoc, .inl rfl⟩
  | ok doc =>
    cases h : e.change? doc with
    | none => exact .inl ⟨_, run_of_none hdoc h, .inr ⟨rfl, doc, rfl, h⟩⟩
    | some doc' => exact .inr ⟨doc, doc', rfl, h, run_of_some hd hdoc h⟩

/-! ### Stretches that are swapped -/

/-- What is put in where a rule has no action: an entry, or a field behind or without others. -/
def insertions (token : List Char) : List (List Char) :=
  ["action = ".toList ++ token ++ ['\n'], ", action = ".toList ++ token ++ [' '],
    " action = ".toList ++ token ++ [' ']]

/-- A stretch that puts a value in the place of another, or an action where nothing stood. -/
def Puts (token : List Char) : Stretch → Prop
  | .kept _ | .gap _ => True
  | .swapped old new => new = token ∨ old = [] ∧ new ∈ insertions token

section Puts

variable {token : List Char} {ss : List Stretch} {code action : String} {entries : List Entry}
  {fields : List (Key × Spaced Node)}

theorem puts_of_stays (h : ∀ s ∈ ss, s.Stays) : ∀ s ∈ ss, Puts token s := fun s hs => by
  have hstays := h s hs
  cases s with
  | kept | gap => trivial
  | swapped => exact hstays.elim

theorem puts_append {ss' : List Stretch} (h : ∀ s ∈ ss, Puts token s)
    (h' : ∀ s ∈ ss', Puts token s) : ∀ s ∈ ss ++ ss', Puts token s :=
  List.forall_mem_append.2 ⟨h, h'⟩

theorem puts_around (h : ∀ s ∈ ss, Puts token s) (i : Spaced Node) :
    ∀ s ∈ i.around ss, Puts token s :=
  List.forall_mem_cons.2 ⟨trivial, puts_append h (by simp [Puts])⟩

theorem puts_bracketed {first last : Char} (h : ∀ s ∈ ss, Puts token s) (comma : Bool)
    (tail : List Char) : ∀ s ∈ bracketed first last ss comma tail, Puts token s :=
  List.forall_mem_cons.2 ⟨trivial, puts_append h (by simp [Puts])⟩

theorem puts_entries (entries : List Entry) :
    ∀ s ∈ entries.flatMap Entry.stretches, Puts token s :=
  puts_of_stays (List.forall_mem_flatMap.2 fun e _ => e.stays)

theorem puts_sections (sections : List Section) :
    ∀ s ∈ sections.flatMap Section.stretches, Puts token s :=
  puts_of_stays (List.forall_mem_flatMap.2 fun s _ => s.stays)

theorem puts_valueStretches {name : String} {inner : Node → List Stretch}
    (h : ∀ e ∈ entries, e.key.names = [name] → ∀ s ∈ inner e.value.value, Puts token s) :
    ∀ s ∈ valueStretches name inner entries, Puts token s := by
  refine List.forall_mem_flatMap.2 fun e he => List.forall_mem_cons.2 ⟨trivial, puts_append
    (List.forall_mem_cons.2 ⟨trivial, puts_around ?_ _⟩) (by simp [Puts])⟩
  split
  · rename_i hname
    exact h e he hname
  · exact puts_of_stays e.value.value.stays

theorem puts_entryStretches (h : ∀ e ∈ entries, e.key.isBelow "action" = false) :
    ∀ s ∈ entryStretches action entries, Puts (Node.ofString action).text s := by
  rw [entryStretches]
  dsimp only
  split
  · exact puts_valueStretches fun e _ _ => by simp [Puts]
  · rcases first_cases (fun e : Entry => e.key.isBelow "action") entries with
      ⟨-, htake, hdrop⟩ | ⟨first, e, rest, rfl, -, he, -⟩
    · rw [htake, hdrop]
      refine puts_append (puts_entries _) (List.forall_mem_singleton.2 (.inr ⟨rfl, ?_⟩))
      have hadded : (addedEntry action).text =
          "action = ".toList ++ (Node.ofString action).text ++ ['\n'] := by
        simp [addedEntry, Entry.text, fieldText_eq, spacedText_eq, Key.plain, Key.text]
      simp [insertions, hadded]
    · rw [h e (by simp)] at he
      cases he

theorem puts_ruleStretches (h : ∀ f ∈ fields, f.1.isBelow "action" = false) :
    ∀ s ∈ ruleStretches action fields, Puts (Node.ofString action).text s := by
  rw [ruleStretches]
  dsimp only
  split
  · refine forall_mem_commaed trivial (List.forall_mem_map.2 fun f _ =>
      List.forall_mem_cons.2 ⟨trivial, puts_around ?_ _⟩)
    split
    · simp [Puts]
    · exact puts_of_stays f.2.value.stays
  · rcases first_cases (fun f : Key × Spaced Node => f.1.isBelow "action") fields with
      ⟨-, htake, hdrop⟩ | ⟨first, f, rest, rfl, -, hf, -⟩
    · rw [htake, hdrop]
      refine puts_append (puts_of_stays (forall_mem_commaed trivial (fieldsStay fields)))
        (List.forall_mem_singleton.2 (.inr ⟨rfl, ?_⟩))
      have hadded : fieldText (addedField action fields) =
          " action = ".toList ++ (Node.ofString action).text ++ [' '] := by
        simp [addedField, hdrop, fieldText_eq, spacedText_eq, Key.plain, Key.text]
      rw [hadded]
      cases fields <;> simp [insertions]
    · rw [h f (by simp)] at hf
      cases hf

theorem puts_listStretches {node : Node} (h : ∀ items comma tail, node = .array items comma tail →
      ∀ i ∈ items, isRuleNode code i.value = true → ∀ fields comma tail,
        i.value = .table fields comma tail → ∀ f ∈ fields, f.1.isBelow "action" = false) :
    ∀ s ∈ listStretches code action node, Puts (Node.ofString action).text s := by
  cases node with
  | scalar | table => exact puts_of_stays (Node.stays _)
  | array items comma tail =>
    refine puts_bracketed (forall_mem_commaed trivial (List.forall_mem_map.2 fun i hi =>
      puts_around ?_ _)) comma tail
    split
    · rename_i hrule
      cases hvalue : i.value with
      | scalar | array => exact puts_of_stays (Node.stays _)
      | table fields comma' tail' =>
        exact puts_bracketed (puts_ruleStretches
          (h items comma tail rfl i hi hrule fields comma' tail' hvalue)) comma' tail'
    · exact puts_of_stays i.value.stays

theorem puts_elementStretches (index : Nat) (target : String) (node : Node) :
    ∀ s ∈ elementStretches index target node, Puts (Node.ofString target).text s := by
  cases node with
  | scalar | table => exact puts_of_stays (Node.stays _)
  | array items comma tail =>
    refine puts_bracketed (forall_mem_commaed trivial fun ss hss => ?_) comma tail
    obtain ⟨k, hk, rfl⟩ := List.mem_mapIdx.1 hss
    refine puts_around ?_ _
    split
    · simp [Puts]
    · exact puts_of_stays (Node.stays _)

theorem puts_sectionStretches {sections : List Section} (inside : Bool)
    (h : ∀ s ∈ sections, ¬["rules", "action"].isPrefixOf s.key.names = true ∧
      (isRuleSection code s = true → ∀ e ∈ s.entries, e.key.isBelow "action" = false)) :
    ∀ s ∈ sectionStretches code action inside sections, Puts (Node.ofString action).text s := by
  induction sections generalizing inside with
  | nil => simp [sectionStretches]
  | cons s sections ih =>
    obtain ⟨⟨hdown, hentries⟩, hmore⟩ := List.forall_mem_cons.1 h
    rw [sectionStretches]
    split
    · rename_i hrules
      refine puts_append ?_ (ih _ hmore)
      rw [Section.around]
      simp only [List.forall_mem_cons]
      refine ⟨trivial, trivial, trivial, trivial, ?_⟩
      split
      · rename_i hhit
        exact puts_entryStretches (hentries (by rw [isRuleSection, hrules, hhit]; rfl))
      · exact puts_entries s.entries
    · rw [if_neg (by simp [hdown])]
      exact puts_append (puts_of_stays s.stays) (ih _ hmore)

end Puts

/-- No rule of the code has a table for its action. -/
def Edit.Plain : Edit → Toml.Document → Prop
  | .action code _, doc =>
    (∀ s ∈ doc.sections, ¬["rules", "action"].isPrefixOf s.key.names = true ∧
      (isRuleSection code s = true → ∀ e ∈ s.entries, e.key.isBelow "action" = false)) ∧
    ∀ e ∈ doc.entries, e.key.names = ["rules"] → ∀ items comma tail,
      e.value.value = .array items comma tail → ∀ i ∈ items, isRuleNode code i.value = true →
        ∀ fields comma tail, i.value = .table fields comma tail →
          ∀ f ∈ fields, f.1.isBelow "action" = false
  | .redirect _ _, _ => True

theorem Edit.Plain.puts (h : e.Plain doc) : ∀ s ∈ e.stretches doc, Puts e.token s := by
  cases e with
  | action code s =>
    rw [Edit.stretches]
    split
    · exact puts_append (puts_append (puts_entries _) (puts_sectionStretches false h.1))
        (by simp [Puts])
    · exact puts_append (puts_append (puts_valueStretches fun e he hname =>
        puts_listStretches (h.2 e he hname)) (puts_sections _)) (by simp [Puts])
  | redirect index target =>
    exact puts_append (puts_append (puts_valueStretches fun e _ _ =>
      puts_elementStretches index target e.value.value) (puts_sections _)) (by simp [Puts])

/-- A rule with a comment behind it, whose code stands in a string over two lines, and a header
without a line break.  The lines end with a carriage return. -/
def lastHeader : String :=
  "rules = [\x7b code = \"\"\"a\r\nb\"\"\", action = 'warn' \x7d] # all\r\n[other]"

/-- The line break that only a last line with a key and a value gets. -/
def entryEnding (lines : List Line) (tail cs : List Char) : List Char :=
  match lines.getLast? with
  | some (.entry _) => ending lines tail cs
  | _ => []

/-- The text of a document after an edit, if it succeeds. -/
def Edit.rewritten? (e : Edit) (text : String) : Option String :=
  (e.run (oneDocument text) (.ofText "/r.toml")).toOption.bind fun d =>
    (d.readText (.ofText "/r.toml")).toOption

/-- An edit only swaps values and puts actions in, and adds a line break only behind a key and
a value. -/
def Edit.LeavesRest (e : Edit) (text : String) : Prop :=
  ∀ new, e.rewritten? text = some new → ∃ doc,
    Toml.Document.ofText? .oneLine text.toList = some doc ∧
    Broken doc.tail doc.lines (dropByteOrderMark text.toList ++
      entryEnding doc.lines doc.tail (dropByteOrderMark text.toList)) ∧
    written false (e.stretches doc) = linesText doc.lines ++ doc.tail ∧
    new.toList = written true (e.stretches doc) ∧
    ∀ s ∈ e.stretches doc, Puts e.token s

instance (token : List Char) : DecidablePred (Puts token)
  | .kept _ | .gap _ => isTrue trivial
  | .swapped old new =>
    inferInstanceAs (Decidable (new = token ∨ old = [] ∧ new ∈ insertions token))

end Ruleset
end LintWorkspace
