/-
# Documents are read back

`Document.ofText?` takes a text apart and `Document.text` prints it.  A document that was
read is `LegibleDocument` (`legible_of_ofText?`), and a legible one is read back from its text
(`ofText?_text`), also after parts of it have been replaced by other legible ones.

The lines of a document are its entries and headers in order (`Document.lines`).  Each line
is read back with the line break that the text ends it with, which the last line of the
text it was read from may lack; all other characters stand in that text (`Lined`).
-/

import LintWorkspace.Proofs.Closing

namespace LintWorkspace
namespace Toml

variable {cs rest : List Char} {layout : Layout}

/-! ### Ends of lines -/

/-- The comment at the head of a text and the rest. -/
def commentOf : List Char → List Char × List Char
  | '#' :: cs => ('#' :: cs.takeWhile isPlain, cs.dropWhile isPlain)
  | cs => ([], cs)

theorem lineEnd?_eq (cs : List Char) : lineEnd? cs =
    match (commentOf (spaces cs).2).2 with
    | [] => some ((spaces cs).1 ++ (commentOf (spaces cs).2).1, [])
    | rest => (afterBreak? rest).map fun rest =>
        ((spaces cs).1 ++ (commentOf (spaces cs).2).1, rest) := by
  rw [lineEnd?]
  generalize spaces cs = around
  obtain ⟨blank, left⟩ := around
  unfold commentOf
  cases left with
  | nil => rfl
  | cons c left =>
    by_cases hc : c = '#'
    · subst hc
      cases h : left.dropWhile isPlain <;> simp [h]
    · simp [hc]

/-- The end of a line is blanks and a comment. -/
theorem eq_of_lineEnd? {g : List Char} (h : lineEnd? cs = some (g, rest)) :
    g = (spaces cs).1 ++ (commentOf (spaces cs).2).1 := by
  rw [lineEnd?_eq] at h
  split at h
  · exact (Prod.mk.inj (Option.some.inj h)).1.symm
  · obtain ⟨_, -, he⟩ := Option.map_eq_some_iff.1 h
    exact (Prod.mk.inj he).1.symm

/-- A comment is what it was in front of a line break. -/
theorem of_commentOf {comment left : List Char} (h : commentOf cs = (comment, left)) :
    cs = comment ++ left ∧ (∀ c ∈ comment.head?, c = '#') ∧
      ∀ rest, commentOf (comment ++ '\n' :: rest) = (comment, '\n' :: rest) := by
  unfold commentOf at h
  split at h
  · rename_i cs
    obtain ⟨rfl, rfl⟩ := Prod.mk.inj h
    refine ⟨by simp, by simp, fun rest => ?_⟩
    have hstop : Stops isPlain ('\n' :: rest) := fun c hc => by
      obtain rfl : '\n' = c := by simpa using hc
      decide
    obtain ⟨htake, hdrop⟩ := span_append (span_stops isPlain cs).1 hstop
    rw [List.cons_append, commentOf, htake, hdrop]
  · obtain ⟨rfl, rfl⟩ := Prod.mk.inj h
    exact ⟨rfl, by simp, fun rest => rfl⟩

/-- What ends a line in front of the rest of a text: a line break, or the end of the text. -/
def EndsLine (brk rest : List Char) : Prop :=
  brk = ['\n'] ∨ brk = ['\r', '\n'] ∨ brk = [] ∧ rest = []

/-- The end of a line is read back with a line break; nothing but the line break is lost. -/
theorem of_lineEnd? {g : List Char} (h : lineEnd? cs = some (g, rest)) :
    (∃ brk, cs = g ++ brk ++ rest ∧ EndsLine brk rest) ∧
      Spells lineEnd? Anything (g ++ ['\n']) g ∧ EndsValue cs := by
  rw [lineEnd?_eq] at h
  generalize hcs : spaces cs = around at h
  obtain ⟨blank, left⟩ := around
  generalize hleft : commentOf left = around at h
  obtain ⟨comment, behind⟩ := around
  obtain ⟨hblank, -, rfl⟩ := of_spaces_eq hcs
  obtain ⟨rfl, hcomment, hcommentOf⟩ := of_commentOf hleft
  obtain ⟨rfl, brk, rfl, hbrk⟩ : g = blank ++ comment ∧ ∃ brk, behind = brk ++ rest ∧
      EndsLine brk rest := by
    dsimp only at h
    split at h
    · obtain ⟨rfl, rfl⟩ := Prod.mk.inj (Option.some.inj h)
      exact ⟨rfl, [], rfl, .inr (.inr ⟨rfl, rfl⟩)⟩
    · obtain ⟨rest, hbreak, he⟩ := Option.map_eq_some_iff.1 h
      obtain ⟨rfl, rfl⟩ := Prod.mk.inj he
      obtain ⟨brk, hbrk, rfl, -⟩ := exists_afterBreak? hbreak
      exact ⟨rfl, brk, rfl, by rcases hbrk with rfl | rfl <;> simp [EndsLine]⟩
  have hends : EndsValue (comment ++ (brk ++ rest)) := by
    cases comment with
    | cons c comment =>
      obtain rfl : c = '#' := hcomment c rfl
      exact endsValue_cons (by decide) fun h => absurd h (by decide)
    | nil =>
      rcases hbrk with rfl | rfl | ⟨rfl, rfl⟩
      · exact endsValue_cons (by decide) fun h => absurd h (by decide)
      · exact endsValue_cons (by decide) fun h => absurd h (by decide)
      · exact endsValue_nil
  refine ⟨⟨brk, by simp, hbrk⟩, fun rest' _ => ?_, endsValue_append hblank hends⟩
  have hstop : Stops isSpace (comment ++ '\n' :: rest') := fun c hc => by
    cases comment with
    | nil =>
      obtain rfl : '\n' = c := by simpa using hc
      decide
    | cons d comment =>
      obtain rfl : d = '#' := hcomment d rfl
      obtain rfl : '#' = c := by simpa using hc
      decide
  have htext : blank ++ comment ++ ['\n'] ++ rest' = blank ++ (comment ++ '\n' :: rest') := by simp
  rw [htext, lineEnd?_eq, spaces_append hblank hstop, hcommentOf]
  rfl

/-- The end of a line has no line break within it. -/
theorem break_not_mem_of_lineEnd? {g : List Char} (h : lineEnd? cs = some (g, rest)) :
    '\n' ∉ g := by
  have hspaces : '\n' ∉ (spaces cs).1 := fun hmem =>
    absurd ((span_stops isSpace cs).1 _ hmem) (by decide)
  have hcomment : '\n' ∉ (commentOf (spaces cs).2).1 := by
    unfold commentOf
    split
    · rw [List.mem_cons, not_or]
      exact ⟨by decide, fun hmem => absurd ((span_stops isPlain _).1 _ hmem) (by decide)⟩
    · simp
  rw [eq_of_lineEnd? h, List.mem_append, not_or]
  exact ⟨hspaces, hcomment⟩

/-! ### Lines -/

/-- The text of a header from behind its first bracket. -/
def headerText (ofArray : Bool) (key : Key) (trail : List Char) : List Char :=
  (if ofArray then '[' :: (key.text ++ [']', ']']) else key.text ++ [']']) ++ trail ++ ['\n']

/-- The text of a line. -/
def Line.text : Line → List Char
  | .entry e => e.text
  | .header lead ofArray key trail => lead ++ '[' :: headerText ofArray key trail

/-- An entry that can be read back. -/
structure LegibleEntry (layout : Layout) (e : Entry) : Prop where
  lead : Spells gap? (Stops isGap) e.lead e.lead
  key : Spells key? (Stops isKey) e.key.text e.key
  starts : Starts isNameStart e.key.text
  before : Spells blanks? (Stops isGap) e.value.before e.value.before
  value : Legible layout maxDepth e.value.value
  after : Spells lineEnd? Anything (e.value.after ++ ['\n']) e.value.after

/-- The value of an entry may be replaced. -/
theorem LegibleEntry.replace {e : Entry} (h : LegibleEntry layout e) {node : Node}
    (hnode : Legible layout maxDepth node) :
    LegibleEntry layout { e with value := { e.value with value := node } } :=
  ⟨h.lead, h.key, h.starts, h.before, hnode, h.after⟩

/-- A line that can be read back. -/
def LegibleLine (layout : Layout) : Line → Prop
  | .entry e => LegibleEntry layout e
  | .header lead ofArray key trail => Spells gap? (Stops isGap) lead lead ∧
      Spells (headerLine? lead) Anything (headerText ofArray key trail)
        (.header lead ofArray key trail)

/-- A text starts with a line and goes on with the rest; the line may end otherwise. -/
def FirstLine (line cs rest : List Char) : Prop :=
  ∃ body brk, line = body ++ ['\n'] ∧ cs = body ++ brk ++ rest ∧ EndsLine brk rest ∧ Shut body []

theorem FirstLine.append {line : List Char} (h : FirstLine line cs rest) (ds : List Char) :
    FirstLine (ds ++ line) (ds ++ cs) rest := by
  obtain ⟨body, brk, rfl, rfl, hbrk, hbody⟩ := h
  exact ⟨ds ++ body, brk, by simp, by simp, hbrk, hbody.append ds⟩

theorem Starts.stops_isNameStart {text : List Char} (h : Starts isNameStart text)
    (rest : List Char) : Stops isGap (text ++ rest) := fun d hd => by
  obtain ⟨c, cs, rfl, hc⟩ := h
  obtain rfl : c = d := by simpa using hd
  exact not_isGap_of_isNameStart hc

/-- What is read as an entry is legible. -/
theorem of_entryLine? {lead : List Char} {line : Line}
    (hlead : Spells gap? (Stops isGap) lead lead) (hstops : Stops isSpace cs)
    (h : entryLine? layout lead cs = some (line, rest)) :
    LegibleLine layout line ∧ FirstLine line.text (lead ++ cs) rest := by
  obtain ⟨⟨key, left⟩, hkey, h⟩ := Option.bind_eq_some_iff.1 h
  obtain ⟨left', hequals, h⟩ := Option.bind_eq_some_iff.1 h
  obtain ⟨⟨s, left''⟩, hs, h⟩ := Option.bind_eq_some_iff.1 h
  obtain ⟨rfl, rfl⟩ := Prod.mk.inj (Option.some.inj h)
  obtain rfl := eq_of_after? hequals
  obtain ⟨-, rfl, hstart, hkey⟩ := exists_spells_key? hkey
  obtain ⟨left, behind, hb, hnode, ha⟩ := exists_of_spaced? hs
  obtain ⟨rfl, hlegible, hnodeStart⟩ := starts_of_node? hnode
  obtain ⟨⟨brk, hbehind, hbrk⟩, hafter, -⟩ := of_lineEnd? ha
  have hb' := gaps_blanks?.append hb
  have hne : s.value.text ++ behind ≠ [] := by simp [text_ne_nil hlegible]
  refine ⟨⟨hlead, hkey, hstart hstops, gaps_blanks?.spells hb hne, hlegible, hafter⟩, ?_⟩
  have hshut := ((shut_text hlegible).append_right (break_not_mem_of_lineEnd? ha)).append
    (lead ++ key.text ++ '=' :: s.before)
  have htext : lead ++ fieldText (key, s) =
      lead ++ key.text ++ '=' :: s.before ++ (s.value.text ++ s.after) := by
    simp [fieldText_eq, spacedText_eq]
  refine ⟨lead ++ fieldText (key, s), brk, rfl, ?_, hbrk, htext ▸ hshut⟩
  rw [htext, ← hb', hbehind]
  simp

theorem stops_isKey_bracket (cs : List Char) : Stops isKey (']' :: cs) := fun c hc => by
  obtain rfl : ']' = c := by simpa using hc
  decide

/-- A header in double brackets that is read back. -/
theorem of_headerLine?_cons {lead : List Char} {line : Line}
    (h : headerLine? lead ('[' :: cs) = some (line, rest)) :
    ∃ key trail, line = .header lead true key trail ∧
      FirstLine (headerText true key trail) ('[' :: cs) rest ∧
      Spells (headerLine? lead) Anything (headerText true key trail) line := by
  obtain ⟨⟨key, left⟩, hkey, h⟩ := Option.bind_eq_some_iff.1 h
  obtain ⟨left', hclose, h⟩ := Option.bind_eq_some_iff.1 h
  obtain ⟨left'', hcloses, h⟩ := Option.bind_eq_some_iff.1 h
  obtain ⟨⟨trail, rest'⟩, htrail, h⟩ := Option.bind_eq_some_iff.1 h
  obtain ⟨rfl, rfl⟩ := Prod.mk.inj (Option.some.inj h)
  obtain rfl := eq_of_after? hclose
  obtain rfl := eq_of_after? hcloses
  obtain ⟨-, rfl, -, hspells⟩ := exists_spells_key? hkey
  obtain ⟨⟨brk, rfl, hbrk⟩, hend, -⟩ := of_lineEnd? htrail
  have hshut : Shut ('[' :: key.text ++ [']', ']'] ++ trail) [] :=
    Shut.append_right ⟨'[' :: key.text ++ [']'], ']', by simp, by decide⟩
      (break_not_mem_of_lineEnd? htrail)
  refine ⟨key, trail, rfl, ⟨_, brk, ?_, by simp, hbrk, hshut⟩, fun rest' _ => ?_⟩
  · simp [headerText]
  · have hend' := hend rest' trivial
    have hk' := hspells (']' :: ']' :: (trail ++ ['\n'] ++ rest')) (stops_isKey_bracket _)
    have htext : headerText true key trail ++ rest' =
        '[' :: (key.text ++ ']' :: ']' :: (trail ++ ['\n'] ++ rest')) := by simp [headerText]
    rw [htext]
    simp only [headerLine?, hk', after?_cons, hend', if_true, Option.bind_eq_bind, Option.bind_some]

theorem headerLine?_of_notAt {lead : List Char} (hcs : NotAt '[' cs) :
    headerLine? lead cs = (key? cs).bind fun e => (after? ']' e.2).bind fun left =>
      (lineEnd? left).map fun e' => (.header lead false e.1 e'.1, e'.2) := by
  unfold headerLine?
  split
  rename_i heq
  split at heq
  · exact absurd rfl hcs
  · obtain ⟨rfl, rfl⟩ := Prod.mk.inj heq
    cases hkey : key? cs with
    | none => rfl
    | some e =>
      simp only [Option.bind_eq_bind, Option.bind_some]
      cases hclose : after? ']' e.2 with
      | none => rfl
      | some left =>
        simp only [Option.bind_some]
        cases lineEnd? left <;> rfl

/-- A header in single brackets that is read back. -/
theorem of_headerLine?_of_notAt {lead : List Char} {line : Line} (hcs : NotAt '[' cs)
    (h : headerLine? lead cs = some (line, rest)) :
    ∃ key trail, line = .header lead false key trail ∧
      FirstLine (headerText false key trail) cs rest ∧
      Spells (headerLine? lead) Anything (headerText false key trail) line := by
  rw [headerLine?_of_notAt hcs] at h
  obtain ⟨⟨key, left⟩, hkey, h⟩ := Option.bind_eq_some_iff.1 h
  obtain ⟨left', hclose, h⟩ := Option.bind_eq_some_iff.1 h
  obtain ⟨⟨trail, rest'⟩, htrail, h⟩ := Option.map_eq_some_iff.1 h
  obtain ⟨rfl, rfl⟩ := Prod.mk.inj h
  obtain rfl := eq_of_after? hclose
  obtain ⟨hk, rfl, -, hspells⟩ := exists_spells_key? hkey
  obtain ⟨⟨brk, rfl, hbrk⟩, hend, -⟩ := of_lineEnd? htrail
  have hshut : Shut (key.text ++ [']'] ++ trail) [] :=
    Shut.append_right ⟨key.text, ']', rfl, by decide⟩ (break_not_mem_of_lineEnd? htrail)
  refine ⟨key, trail, rfl, ⟨_, brk, ?_, by simp, hbrk, hshut⟩, fun rest' _ => ?_⟩
  · simp [headerText]
  · have hend' := hend rest' trivial
    have hk' := hspells (']' :: (trail ++ ['\n'] ++ rest')) (stops_isKey_bracket _)
    have htext : headerText false key trail ++ rest' =
        key.text ++ ']' :: (trail ++ ['\n'] ++ rest') := by simp [headerText]
    have hnot : NotAt '[' (key.text ++ ']' :: (trail ++ ['\n'] ++ rest')) := by
      cases hkeyText : key.text with
      | nil => exact absurd hkeyText (text_ne_nil_of_key? hkey)
      | cons c text => simpa [NotAt, hkeyText] using hcs
    rw [htext, headerLine?_of_notAt hnot]
    simp only [hk', after?_cons, hend', Option.bind_some, Option.map_some]

/-- What is read as a header is legible. -/
theorem of_headerLine? {lead : List Char} {line : Line}
    (hlead : Spells gap? (Stops isGap) lead lead) (h : headerLine? lead cs = some (line, rest)) :
    LegibleLine layout line ∧ FirstLine line.text (lead ++ '[' :: cs) rest := by
  obtain ⟨ofArray, key, trail, rfl, hfirst, hspells⟩ : ∃ ofArray key trail,
      line = .header lead ofArray key trail ∧ FirstLine (headerText ofArray key trail) cs rest ∧
        Spells (headerLine? lead) Anything (headerText ofArray key trail) line := by
    by_cases hcs : NotAt '[' cs
    · exact ⟨false, of_headerLine?_of_notAt hcs h⟩
    · obtain ⟨cs, rfl⟩ := List.head?_eq_some_iff.1 (Decidable.not_not.1 hcs)
      exact ⟨true, of_headerLine?_cons h⟩
  exact ⟨⟨hlead, hspells⟩, (hfirst.append ['[']).append lead⟩

/-- An entry is read back with its line break. -/
theorem LegibleEntry.spells {e : Entry} (h : LegibleEntry layout e) :
    Spells (entryLine? layout e.lead) Anything (fieldText (e.key, e.value) ++ ['\n'])
      (.entry e) := by
  intro rest _
  have hs : Spells (spaced? blanks? lineEnd? (node? layout maxDepth)) Anything
      (spacedText e.value ++ ['\n']) e.value :=
    spells_spaced? h.before h.value.spells h.value.starts h.after fun rest hrest =>
      (of_lineEnd? (h.after rest hrest)).2.2
  have hkey := h.key ('=' :: (spacedText e.value ++ ['\n'] ++ rest)) (stops_isKey_equals _)
  have htext : fieldText (e.key, e.value) ++ ['\n'] ++ rest =
      e.key.text ++ '=' :: (spacedText e.value ++ ['\n'] ++ rest) := by
    simp [fieldText_eq]
  rw [htext, entryLine?]
  simp only [hkey, after?_cons, hs rest trivial, Option.bind_eq_bind, Option.bind_some]

/-- The text of lines. -/
def linesText (lines : List Line) : List Char := lines.flatMap Line.text

theorem Line.text_ne_nil (line : Line) : line.text ≠ [] := by
  cases line <;> simp [Line.text, Entry.text]

theorem length_le_linesText (lines : List Line) : lines.length ≤ (linesText lines).length := by
  induction lines with
  | nil => simp
  | cons line lines ih =>
    have := List.length_pos_iff.2 line.text_ne_nil
    simp only [linesText, List.flatMap_cons, List.length_append, List.length_cons] at ih ⊢
    omega

/-- A text is made of lines and a tail; each line may end otherwise. -/
inductive Lined (tail : List Char) : List Line → List Char → Prop
  | tail : Lined tail [] tail
  | line {line : Line} {lines : List Line} {cs rest : List Char}
      (first : FirstLine line.text cs rest) (more : Lined tail lines rest) :
      Lined tail (line :: lines) cs

/-- Every character of lines and their tail is one of the text or a line break. -/
theorem Lined.mem_or {lines : List Line} {tail : List Char} (h : Lined tail lines cs) :
    ∀ c ∈ linesText lines ++ tail, c ∈ cs ∨ c = '\n' := by
  induction h with
  | tail => exact fun c hc => .inl (by simpa [linesText] using hc)
  | line first more ih =>
    obtain ⟨body, brk, htext, rfl, -⟩ := first
    intro c hc
    have hrest := ih c
    simp only [linesText, List.flatMap_cons, htext, List.mem_append, List.mem_singleton]
      at hc hrest ⊢
    grind

/-- What is read as lines is legible line by line. -/
theorem of_lines? {n : Nat} {lines : List Line} {tail : List Char}
    (h : lines? layout n cs = some (lines, tail)) :
    (∀ line ∈ lines, LegibleLine layout line) ∧ gap? tail = some (tail, []) ∧
      Lined tail lines cs := by
  induction n generalizing cs lines with
  | zero => simp [lines?] at h
  | succ n ih =>
    rw [lines?] at h
    obtain ⟨⟨lead, left⟩, hgap, h⟩ := Option.bind_eq_some_iff.1 h
    have hcs := append_of_gap? hgap
    have hmore : ∀ {line left' lines' tail'},
        LegibleLine layout line ∧ FirstLine line.text (lead ++ left) left' →
        lines? layout n left' = some (lines', tail') →
        (line :: lines', tail') = (lines, tail) →
        (∀ line ∈ lines, LegibleLine layout line) ∧ gap? tail = some (tail, []) ∧
          Lined tail lines cs := by
      rintro line left' lines' tail' ⟨hline, hfirst⟩ hlines he
      obtain ⟨rfl, rfl⟩ := Prod.mk.inj he
      obtain ⟨hlegible, htail, hlined⟩ := ih hlines
      exact ⟨List.forall_mem_cons.2 ⟨hline, hlegible⟩, htail, .line (hcs ▸ hfirst) hlined⟩
    dsimp only at h
    split at h
    · obtain ⟨rfl, rfl⟩ := Prod.mk.inj (Option.some.inj h)
      rw [List.append_nil] at hcs
      subst hcs
      exact ⟨by simp, hgap, .tail⟩
    · obtain ⟨⟨line, left'⟩, hline, h⟩ := Option.bind_eq_some_iff.1 h
      obtain ⟨⟨lines', tail'⟩, hlines, h⟩ := Option.bind_eq_some_iff.1 h
      exact hmore (of_headerLine? (gaps_gap?.spells hgap (by simp)) hline) hlines
        (Option.some.inj h)
    · rename_i hne _
      obtain ⟨⟨line, left'⟩, hline, h⟩ := Option.bind_eq_some_iff.1 h
      obtain ⟨⟨lines', tail'⟩, hlines, h⟩ := Option.bind_eq_some_iff.1 h
      exact hmore (of_entryLine? (gaps_gap?.spells hgap hne) (gaps_gap?.stops hgap) hline) hlines
        (Option.some.inj h)

/-- Legible lines are read back. -/
theorem lines?_linesText {lines : List Line} {tail : List Char}
    (hlines : ∀ line ∈ lines, LegibleLine layout line) (htail : gap? tail = some (tail, []))
    {n : Nat} (hn : lines.length < n) :
    lines? layout n (linesText lines ++ tail) = some (lines, tail) := by
  induction lines generalizing n with
  | nil =>
    obtain ⟨n, rfl⟩ : ∃ n', n = n' + 1 := ⟨n - 1, by simp at hn; omega⟩
    simp [linesText, lines?, htail]
  | cons line lines ih =>
    obtain ⟨n, rfl⟩ : ∃ n', n = n' + 1 := ⟨n - 1, by simp at hn; omega⟩
    obtain ⟨hline, hlines⟩ := List.forall_mem_cons.1 hlines
    have hmore := ih hlines (n := n) (by simpa using hn)
    have htext : linesText (line :: lines) ++ tail = line.text ++ (linesText lines ++ tail) := by
      simp [linesText]
    rw [htext, lines?]
    cases line with
    | header lead ofArray key trail =>
      obtain ⟨hlead, hheader⟩ := hline
      have hgap := hlead ('[' :: (headerText ofArray key trail ++ (linesText lines ++ tail)))
        fun c hc => by
          obtain rfl : '[' = c := by simpa using hc
          decide
      have hread := hheader (linesText lines ++ tail) trivial
      simp only [Line.text, List.append_assoc, List.cons_append, hgap, hread, hmore,
        Option.bind_eq_bind, Option.bind_some]
    | entry e =>
      have hstarts : Starts isNameStart (fieldText (e.key, e.value) ++ ['\n']) := by
        obtain ⟨c, cs, hc, hstart⟩ := hline.starts
        exact ⟨c, _, by rw [fieldText_eq, hc]; rfl, hstart⟩
      have hgap := hline.lead _ (hstarts.stops_isNameStart (linesText lines ++ tail))
      have hread := hline.spells (linesText lines ++ tail) trivial
      have hsplit : (Line.entry e).text ++ (linesText lines ++ tail) = e.lead ++
          (fieldText (e.key, e.value) ++ ['\n'] ++ (linesText lines ++ tail)) := by
        simp [Line.text, Entry.text]
      obtain ⟨c, cs, hc, hstart⟩ := hstarts
      rw [hsplit, hgap]
      rw [hc, List.cons_append] at hread ⊢
      simp only [Option.bind_eq_bind, Option.bind_some]
      split
      · rename_i heq
        simp at heq
      · rename_i heq
        obtain rfl : c = '[' := (List.cons.inj heq).1
        exact absurd hstart (by decide)
      · simp only [hread, hmore, Option.bind_some]

/-! ### Documents -/

/-- The lines of a document. -/
def Document.lines (d : Document) : List Line :=
  d.entries.map .entry ++ d.sections.flatMap fun s =>
    .header s.lead s.ofArray s.key s.trail :: s.entries.map .entry

theorem forall_mem_lines {d : Document} {P : Line → Prop} : (∀ line ∈ d.lines, P line) ↔
    (∀ e ∈ d.entries, P (.entry e)) ∧ ∀ s ∈ d.sections,
      P (.header s.lead s.ofArray s.key s.trail) ∧ ∀ e ∈ s.entries, P (.entry e) := by
  simp only [Document.lines, List.forall_mem_append, List.forall_mem_map, List.forall_mem_flatMap,
    List.forall_mem_cons]

/-- A document that can be read back. -/
structure LegibleDocument (layout : Layout) (d : Document) : Prop where
  lines : ∀ line ∈ d.lines, LegibleLine layout line
  tail : gap? d.tail = some (d.tail, [])

theorem lines_of_grouped (lines : List Line) (tail : List Char) :
    Document.lines ⟨(grouped lines).1, (grouped lines).2, tail⟩ = lines := by
  induction lines with
  | nil => rfl
  | cons line lines ih =>
    generalize hmore : grouped lines = more at ih
    obtain ⟨entries, sections⟩ := more
    cases line with
    | entry e =>
      rw [grouped, hmore]
      rw [← ih]
      rfl
    | header lead ofArray key trail =>
      rw [grouped, hmore]
      rw [← ih]
      simp [Document.lines]

theorem grouped_entries (entries : List Entry) (lines : List Line) :
    grouped (entries.map .entry ++ lines) = (entries ++ (grouped lines).1, (grouped lines).2) := by
  induction entries with
  | nil => rfl
  | cons e entries ih => rw [List.map_cons, List.cons_append, grouped, ih, List.cons_append]

theorem grouped_lines (d : Document) : grouped d.lines = (d.entries, d.sections) := by
  obtain ⟨entries, sections, tail⟩ := d
  have hsections : ∀ sections : List Section, grouped (sections.flatMap fun s =>
      .header s.lead s.ofArray s.key s.trail :: s.entries.map .entry) = ([], sections) := by
    intro sections
    induction sections with
    | nil => rfl
    | cons s sections ih =>
      rw [List.flatMap_cons, List.cons_append, grouped, grouped_entries, ih, List.append_nil]
  rw [Document.lines, grouped_entries, hsections, List.append_nil]

theorem linesText_lines (d : Document) : linesText d.lines ++ d.tail = d.text := by
  have hentries : ∀ entries : List Entry,
      linesText (entries.map .entry) = entries.flatMap Entry.text := fun entries => by
    rw [linesText, List.flatMap_map]
    rfl
  have hsection : ∀ s : Section,
      linesText (.header s.lead s.ofArray s.key s.trail :: s.entries.map .entry) = s.text :=
    fun s => by
      rw [linesText, List.flatMap_cons, ← linesText, hentries, Section.text, Section.header]
      cases hs : s.ofArray <;> simp [Line.text, headerText]
  have hsections : ∀ sections : List Section, linesText (sections.flatMap fun s =>
      .header s.lead s.ofArray s.key s.trail :: s.entries.map .entry) =
        sections.flatMap Section.text := by
    intro sections
    induction sections with
    | nil => rfl
    | cons s sections ih =>
      rw [List.flatMap_cons, linesText, List.flatMap_append, ← linesText, ← linesText, hsection, ih,
        List.flatMap_cons]
  rw [Document.lines, linesText, List.flatMap_append, ← linesText, ← linesText, hentries,
    hsections, Document.text]

/-- A document that is read has the lines of the text. -/
theorem lined_of_ofText? {d : Document} (h : Document.ofText? layout cs = some d) :
    LegibleDocument layout d ∧ Lined d.tail d.lines (dropByteOrderMark cs) := by
  obtain ⟨⟨lines, tail⟩, hlines, h⟩ := Option.bind_eq_some_iff.1 h
  obtain rfl := Option.some.inj h
  obtain ⟨hlegible, htail, hlined⟩ := of_lines? hlines
  have hsame := lines_of_grouped lines tail
  exact ⟨⟨by rw [hsame]; exact hlegible, htail⟩, by rw [hsame]; exact hlined⟩

/-- **A document that is read is legible**, and its text adds nothing but line breaks. -/
theorem legible_of_ofText? {d : Document} (h : Document.ofText? layout cs = some d) :
    LegibleDocument layout d ∧ ∀ c ∈ d.text, c ∈ cs ∨ c = '\n' := by
  obtain ⟨hlegible, hlined⟩ := lined_of_ofText? h
  refine ⟨hlegible, ?_⟩
  rw [← linesText_lines]
  have hdrop : ∀ c ∈ dropByteOrderMark cs, c ∈ cs := fun c hc => by
    unfold dropByteOrderMark at hc
    split at hc
    · exact List.mem_cons_of_mem _ hc
    · exact hc
  exact fun c hc => (hlined.mem_or c hc).imp_left (hdrop c)

theorem lines?_byteOrderMark (n : Nat) (cs : List Char) :
    lines? layout n ('\uFEFF' :: cs) = none := by
  cases n with
  | zero => rfl
  | succ n =>
    have hgap : gap? ('\uFEFF' :: cs) = some ([], '\uFEFF' :: cs) := by
      simp [gap?, gapFrom?, isSpace]
    have hkey : key? ('\uFEFF' :: cs) = none := by
      have hbare : isBare '\uFEFF' = false := by decide
      simp [key?, keyWithin?, keyPart?, spaces, isSpace, name?, hbare]
    simp [lines?, hgap, entryLine?, hkey]

/-- **A legible document is read back** from its text. -/
theorem ofText?_text {d : Document} (h : LegibleDocument layout d) :
    Document.ofText? layout d.text = some d := by
  have hlength : d.lines.length < d.text.length + 1 := by
    have := length_le_linesText d.lines
    rw [← linesText_lines, List.length_append]
    omega
  have hlines := lines?_linesText h.lines h.tail hlength
  rw [linesText_lines] at hlines
  have hdrop : dropByteOrderMark d.text = d.text := by
    unfold dropByteOrderMark
    split
    · rename_i heq
      rw [heq, lines?_byteOrderMark] at hlines
      simp at hlines
    · rfl
  rw [Document.ofText?, hdrop]
  simp only [hlines, Option.bind_eq_bind, Option.bind_some, grouped_lines]

end Toml
end LintWorkspace
