/-
# Values are read back

`node?` takes a value apart and `Node.text` prints it.  What `node?` answers is `Legible`
(`legible_of_node?`), and what is legible is read from its text (`Legible.spells`).

Between the two stands a predicate and no equation, because a value that is read may be
changed before it is printed: `Legible` follows the value part by part, so a part can be
replaced by another legible one.  It counts the depth down as `node?` does.

| part | legible if |
| --- | --- |
| a scalar | its spelling is read back |
| an element of an array | the gaps around it are, and its value is legible |
| a field of an inline table | its key is read back, too |
| a list between brackets (`Listed`) | each element is, and a gap stands only behind a comma |
-/

import LintWorkspace.Proofs.Token

namespace LintWorkspace
namespace Toml

variable {cs rest : List Char} {layout : Layout}

/-! ### Elements between commas -/

section Elements

variable {α : Type} {gap : Reader (List Char)} {element : Reader α} {write : α → List Char}
  {P Q : α → Prop} {close : Char} {xs : List α} {comma : Bool} {tail : List Char}

/-- The elements of a list between brackets, whether a comma follows the last one, and the
gap before the closing bracket. -/
inductive Listed (gap : Reader (List Char)) (P : α → Prop) : List α → Bool → List Char → Prop
  | none {tail : List Char} (h : Spells gap (Stops isGap) tail tail) : Listed gap P [] false tail
  | last {x : α} (h : P x) : Listed gap P [x] false []
  | cons {x : α} {xs : List α} {comma : Bool} {tail : List Char} (h : P x)
      (more : Listed gap P xs comma tail) : Listed gap P (x :: xs) (comma || xs.isEmpty) tail

/-- The text of a list from behind its opening bracket. -/
def listText (write : α → List Char) (close : Char) (xs : List α) (comma : Bool)
    (tail : List Char) : List Char :=
  [','].intercalate (xs.map write) ++ (if comma then [','] else []) ++ tail ++ [close]

theorem listText_cons {x : α} (h : Listed gap P xs comma tail) :
    listText write close (x :: xs) (comma || xs.isEmpty) tail =
      write x ++ ',' :: listText write close xs comma tail := by
  cases h with
  | none => simp [listText]
  | last => simp [listText, List.intercalate_cons_cons]
  | cons => simp [listText, List.intercalate_cons_cons]

/-- The elements of a list may be replaced. -/
theorem Listed.map (h : Listed gap P xs comma tail) {f : α → α}
    (hf : ∀ x ∈ xs, P x → Q (f x)) : Listed gap Q (xs.map f) comma tail := by
  induction h with
  | none h => exact .none h
  | last h => exact .last (hf _ List.mem_cons_self h)
  | @cons x xs comma tail h more ih =>
    have := Listed.cons (hf x List.mem_cons_self h)
      (ih fun y hy => hf y (List.mem_cons_of_mem _ hy))
    rwa [List.isEmpty_map] at this

/-- The elements of a list may be any, and a gap stands behind a comma or in an empty list. -/
theorem listed_iff : Listed gap P xs comma tail ↔ (∀ x ∈ xs, P x) ∧ (xs = [] → comma = false) ∧
    if xs = [] ∨ comma = true then Spells gap (Stops isGap) tail tail else tail = [] := by
  constructor
  · intro h
    induction h with
    | none h => exact ⟨by simp, fun _ => rfl, by rwa [if_pos (.inl rfl)]⟩
    | last h => exact ⟨by simpa using h, by simp, by simp⟩
    | @cons x xs comma tail h more ih =>
      obtain ⟨hxs, hnil, htail⟩ := ih
      refine ⟨List.forall_mem_cons.2 ⟨h, hxs⟩, by simp, ?_⟩
      cases comma with
      | true => simpa using htail
      | false => cases xs <;> simpa using htail
  · rintro ⟨hxs, hnil, htail⟩
    induction xs generalizing comma with
    | nil =>
      rw [hnil rfl]
      exact .none (by rwa [if_pos (.inl rfl)] at htail)
    | cons x xs ih =>
      obtain ⟨hx, hxs⟩ := List.forall_mem_cons.1 hxs
      cases xs with
      | nil =>
        cases comma with
        | true => exact .cons hx (.none (by simpa using htail))
        | false =>
          obtain rfl : tail = [] := by simpa using htail
          exact .last hx
      | cons y xs =>
        have := Listed.cons hx (@ih comma hxs (by simp) (by simpa using htail))
        rwa [List.isEmpty_cons, Bool.or_false] at this

theorem Listed.length_lt (close : Char) (h : Listed gap P xs comma tail)
    (hwrite : ∀ x, P x → write x ≠ []) :
    xs.length < (listText write close xs comma tail).length := by
  induction h with
  | none => simp [listText]
  | @last x h =>
    have := List.length_pos_iff.2 (hwrite x h)
    simp [listText]
    omega
  | @cons x xs comma tail h more ih =>
    rw [listText_cons more]
    simp
    omega

/-- What is read between brackets is a list of what is read one by one. -/
theorem listed_of_elements? (hgaps : Gaps gap) (hclose : isGap close = false)
    (helement : ∀ {cs x rest}, element cs = some (x, rest) → rest ≠ [] → cs = write x ++ rest ∧ P x)
    {n : Nat} (h : elements? close gap element n cs = some ((xs, comma, tail), rest)) :
    Listed gap P xs comma tail ∧ cs = listText write close xs comma tail ++ rest := by
  induction n generalizing cs xs comma tail with
  | zero => simp [elements?] at h
  | succ n ih =>
    rw [elements?] at h
    obtain ⟨⟨g, left⟩, hgap, hmore⟩ := Option.bind_eq_some_iff.1 h
    dsimp only at hmore
    split at hmore
    · rename_i hhead
      obtain ⟨he, rfl⟩ := Prod.mk.inj (Option.some.inj hmore)
      obtain ⟨rfl, rfl, rfl⟩ : xs = [] ∧ comma = false ∧ tail = g := by simpa [eq_comm] using he
      obtain ⟨left, rfl⟩ := List.head?_eq_some_iff.1 hhead
      refine ⟨.none (hgaps.spells hgap (by simp)), ?_⟩
      rw [← hgaps.append hgap]
      simp [listText]
    · obtain ⟨⟨x, after⟩, hx, hmore⟩ := Option.bind_eq_some_iff.1 hmore
      dsimp only at hmore
      split at hmore
      · rename_i behind
        obtain ⟨⟨⟨ys, comma', tail'⟩, rest'⟩, hys, he⟩ := Option.bind_eq_some_iff.1 hmore
        obtain ⟨he, rfl⟩ := Prod.mk.inj (Option.some.inj he)
        obtain ⟨rfl, rfl, rfl⟩ : xs = x :: ys ∧ comma = (comma' || ys.isEmpty) ∧ tail = tail' := by
          simpa [eq_comm] using he
        obtain ⟨rfl, hP⟩ := helement hx (by simp)
        obtain ⟨hlisted, rfl⟩ := ih hys
        refine ⟨.cons hP hlisted, ?_⟩
        rw [listText_cons hlisted]
        simp
      · split at hmore
        · rename_i c behind hc hclose'
          obtain ⟨he, rfl⟩ := Prod.mk.inj (Option.some.inj hmore)
          obtain ⟨rfl, rfl, rfl⟩ : xs = [x] ∧ comma = false ∧ tail = [] := by
            simpa [eq_comm] using he
          obtain ⟨rfl, hP⟩ := helement hx (by simp)
          subst hclose'
          exact ⟨.last hP, by simp [listText]⟩
        · simp at hmore
      · simp at hmore

/-- A list between brackets is read back if each of its elements is. -/
theorem Listed.spells (hclose : close = ']' ∨ close = '}')
    (helement : ∀ x, P x → Spells element Closes (write x) x)
    (hgap : ∀ {cs x rest}, element cs = some (x, rest) →
      ∃ g r, gap cs = some (g, r) ∧ r.head? ≠ some close)
    (h : Listed gap P xs comma tail) {n : Nat} (hn : xs.length < n) :
    Spells (elements? close gap element n) Anything (listText write close xs comma tail)
      (xs, comma, tail) := by
  have hcloses : ∀ rest, Closes (close :: rest) := fun rest c hc => by
    obtain rfl : close = c := by simpa using hc
    exact .inr hclose
  have hcomma : close ≠ ',' := by rcases hclose with rfl | rfl <;> decide
  induction h generalizing n with
  | @none tail h =>
    intro rest _
    obtain ⟨n, rfl⟩ : ∃ n', n = n' + 1 := ⟨n - 1, by simp at hn; omega⟩
    have hread := h (close :: rest) (hcloses rest).stops
    simp [listText, elements?, hread]
  | @last x hx =>
    intro rest _
    obtain ⟨n, rfl⟩ : ∃ n', n = n' + 1 := ⟨n - 1, by simp at hn; omega⟩
    have hread := helement x hx (close :: rest) (hcloses rest)
    obtain ⟨g, r, hg, hr⟩ := hgap hread
    have htext : listText write close [x] false [] ++ rest = write x ++ close :: rest := by
      simp [listText]
    rw [htext, elements?]
    simp [hg, hr, hread]
  | @cons x xs comma tail hx more ih =>
    intro rest _
    obtain ⟨n, rfl⟩ : ∃ n', n = n' + 1 := ⟨n - 1, by simp at hn; omega⟩
    have hread := helement x hx (',' :: (listText write close xs comma tail ++ rest)) fun c hc => by
      obtain rfl : ',' = c := by simpa using hc
      exact .inl rfl
    obtain ⟨g, r, hg, hr⟩ := hgap hread
    have hmore := ih (n := n) (by simpa using hn) rest trivial
    rw [listText_cons more, List.append_assoc, List.cons_append, elements?]
    simp only [hg, hr, hread, hmore, Option.bind_eq_bind, Option.bind_some, if_false]

end Elements

/-! ### Values between gaps -/

section Spaced

variable {before after : Reader (List Char)} {value : Reader Node} {P Q : Node → Prop}
  {s : Spaced Node}

/-- The characters a value may start with. -/
def isNodeStart (c : Char) : Bool := isScalarStart c || c = '[' || c = '{'

/-- A text starts with a character of a kind. -/
def Starts (p : Char → Bool) (text : List Char) : Prop := ∃ c cs, text = c :: cs ∧ p c = true

/-- A value whose gaps are read back. -/
structure Bordered (before after : Reader (List Char)) (P : Node → Prop) (s : Spaced Node) :
    Prop where
  before : Spells before (Stops isGap) s.before s.before
  value : P s.value
  after : Spells after (Stops isGap) s.after s.after

theorem not_isGap_of_isNodeStart {c : Char} (h : isNodeStart c = true) : isGap c = false := by
  cases hc : isGap c with
  | false => rfl
  | true =>
    rcases isGap_cases hc with rfl | rfl | rfl | rfl | rfl <;> exact absurd h (by decide)

theorem Starts.stops {text : List Char} (h : Starts isNodeStart text) :
    Stops isGap (text ++ rest) := fun d hd => by
  obtain ⟨c, cs, rfl, hc⟩ := h
  obtain rfl : c = d := by simpa using hd
  exact not_isGap_of_isNodeStart hc

/-- The value may be replaced. -/
theorem Bordered.replace (h : Bordered before after P s) {node : Node} (hnode : Q node) :
    Bordered before after Q { s with value := node } :=
  ⟨h.before, hnode, h.after⟩

theorem spacedText_eq (s : Spaced Node) : spacedText s = s.before ++ s.value.text ++ s.after := by
  obtain ⟨b, node, a⟩ := s
  rw [spacedText]

theorem exists_of_spaced? (h : spaced? before after value cs = some (s, rest)) :
    ∃ left behind, before cs = some (s.before, left) ∧ value left = some (s.value, behind) ∧
      after behind = some (s.after, rest) := by
  obtain ⟨⟨b, left⟩, hb, h⟩ := Option.bind_eq_some_iff.1 h
  obtain ⟨⟨node, behind⟩, hnode, h⟩ := Option.bind_eq_some_iff.1 h
  obtain ⟨⟨a, rest'⟩, ha, h⟩ := Option.bind_eq_some_iff.1 h
  obtain ⟨rfl, rfl⟩ := Prod.mk.inj (Option.some.inj h)
  exact ⟨left, behind, hb, hnode, ha⟩

/-- What is read between gaps is the gaps and the value. -/
theorem of_spaced? (hbefore : Gaps before) (hafter : Gaps after)
    (hvalue : ∀ {cs node rest}, value cs = some (node, rest) →
      cs = node.text ++ rest ∧ P node ∧ Starts isNodeStart node.text)
    (h : spaced? before after value cs = some (s, rest)) :
    cs = spacedText s ++ rest ∧ (rest ≠ [] → Bordered before after P s) ∧
      ∃ g r, before cs = some (g, r) ∧ Starts isNodeStart r := by
  obtain ⟨left, behind, hb, hnode, ha⟩ := exists_of_spaced? h
  obtain ⟨rfl, hP, c, text, htext, hc⟩ := hvalue hnode
  have hcs := hbefore.append hb
  have hleft := hafter.append ha
  refine ⟨?_, fun hne => ⟨hbefore.spells hb (by simp [htext]), hP, hafter.spells ha hne⟩, s.before,
    _, hb, c, text ++ behind, by simp [htext], hc⟩
  rw [← hcs, ← hleft]
  simp [spacedText_eq]

/-- A value between gaps is read back; the text behind it may end with more than the gap,
such as a line break. -/
theorem spells_spaced? {ends : List Char → Prop} {trail : List Char}
    (hbefore : Spells before (Stops isGap) s.before s.before)
    (hvalue : Spells value EndsValue s.value.text s.value)
    (hstart : Starts isNodeStart s.value.text)
    (hafter : Spells after ends (s.after ++ trail) s.after)
    (hends : ∀ rest, ends rest → EndsValue (s.after ++ trail ++ rest)) :
    Spells (spaced? before after value) ends (spacedText s ++ trail) s := by
  intro rest hrest
  have hb := hbefore (s.value.text ++ (s.after ++ trail ++ rest)) hstart.stops
  have hv := hvalue _ (hends rest hrest)
  have ha := hafter rest hrest
  have htext : spacedText s ++ trail ++ rest =
      s.before ++ (s.value.text ++ (s.after ++ trail ++ rest)) := by
    simp [spacedText_eq]
  rw [htext, spaced?]
  simp only [hb, hv, ha, Option.bind_eq_bind, Option.bind_some]

/-- A value between gaps is read back in front of a comma or a closing bracket. -/
theorem Bordered.spells (h : Bordered before after P s) (hafter : Gaps after)
    (hvalue : Spells value EndsValue s.value.text s.value)
    (hstart : Starts isNodeStart s.value.text) :
    Spells (spaced? before after value) Closes (spacedText s) s := by
  have ha : Spells after Closes (s.after ++ []) s.after := fun rest hrest => by
    rw [List.append_nil]
    exact h.after rest hrest.stops
  have := spells_spaced? h.before hvalue hstart ha fun rest hrest =>
    hafter.endsValue (ha rest hrest) hrest
  rwa [List.append_nil] at this

end Spaced

/-! ### Keys of fields -/

/-- Reads the key of a field with the equals sign behind it. -/
def keyed? (gap : Reader (List Char)) : Reader Key := fun cs => do
  let (g, cs) ← gap cs
  let (key, cs) ← key? cs
  let cs ← after? '=' cs
  some (key.after g, cs)

theorem field?_eq (layout : Layout) (value : Reader Node) (cs : List Char) :
    field? layout value cs = (keyed? layout.gap? cs).bind fun e =>
      (spaced? blanks? layout.gap? value e.2).map fun e' => ((e.1, e'.1), e'.2) := by
  rw [field?, keyed?]
  cases layout.gap? cs with
  | none => rfl
  | some e =>
    obtain ⟨g, left⟩ := e
    simp only [Option.bind_eq_bind, Option.bind_some]
    cases key? left with
    | none => rfl
    | some e =>
      obtain ⟨key, left⟩ := e
      simp only [Option.bind_some]
      cases after? '=' left with
      | none => rfl
      | some left =>
        simp only [Option.bind_some]
        cases spaced? blanks? layout.gap? value left <;> rfl

theorem Key.text_after {k : Key} (hk : k ≠ []) (g : List Char) :
    (k.after g).text = g ++ k.text := by
  cases k with
  | nil => exact absurd rfl hk
  | cons p k =>
    cases k with
    | nil => simp [Key.after, Key.text]
    | cons q k => simp [Key.after, Key.text, List.intercalate_cons_cons]

theorem eq_of_after? {c : Char} (h : after? c cs = some rest) : cs = c :: rest := by
  cases cs with
  | nil => simp [after?] at h
  | cons d cs =>
    rw [after?] at h
    split at h
    · rename_i hd
      obtain rfl := Option.some.inj h
      rw [hd]
    · simp at h

theorem after?_cons (c : Char) (cs : List Char) : after? c (c :: cs) = some cs := by simp [after?]

theorem stops_isKey_equals (cs : List Char) : Stops isKey ('=' :: cs) := fun c hc => by
  obtain rfl : '=' = c := by simpa using hc
  decide

/-- The key of a field is read back with its equals sign. -/
theorem spells_keyed? {gap : Reader (List Char)} (hgaps : Gaps gap) {k : Key}
    (h : keyed? gap cs = some (k, rest)) :
    cs = k.text ++ '=' :: rest ∧ Spells (keyed? gap) Anything (k.text ++ ['=']) k ∧
      ∃ g r, gap cs = some (g, r) ∧ Starts isNameStart r := by
  obtain ⟨⟨g, left⟩, hg, h⟩ := Option.bind_eq_some_iff.1 h
  obtain ⟨⟨k', left'⟩, hkey, h⟩ := Option.bind_eq_some_iff.1 h
  obtain ⟨left'', hequals, h⟩ := Option.bind_eq_some_iff.1 h
  obtain ⟨rfl, rfl⟩ := Prod.mk.inj (Option.some.inj h)
  obtain rfl := eq_of_after? hequals
  obtain ⟨hk, rfl, hstart, hspells⟩ := exists_spells_key? hkey
  obtain ⟨c, text, htext, hc⟩ := hstart (hgaps.stops hg)
  have hcs := hgaps.append hg
  rw [Key.text_after hk]
  refine ⟨by rw [← hcs]; simp, fun rest' _ => ?_, g, _, hg, c, text ++ '=' :: left'',
    by simp [htext], hc⟩
  have hstop : Stops isGap (k'.text ++ '=' :: rest') := fun d hd => by
    obtain rfl : c = d := by simpa [htext] using hd
    exact not_isGap_of_isNameStart hc
  have hg' := hgaps.spells hg (by simp [htext]) _ hstop
  have hk' := hspells ('=' :: rest') (stops_isKey_equals rest')
  have htext' : g ++ k'.text ++ ['='] ++ rest' = g ++ (k'.text ++ '=' :: rest') := by simp
  rw [htext', keyed?]
  simp only [hg', hk', after?_cons, Option.bind_eq_bind, Option.bind_some]

/-! ### Legible values -/

/-- A field of an inline table whose key is read back. -/
structure LegibleField (layout : Layout) (P : Node → Prop) (f : Key × Spaced Node) : Prop where
  key : Spells (keyed? layout.gap?) Anything (f.1.text ++ ['=']) f.1
  value : Bordered blanks? layout.gap? P f.2

/-- A value that can be read back from its text, in which arrays and inline tables nest at
most so deep. -/
def Legible (layout : Layout) : Nat → Node → Prop
  | _, .scalar spelling v =>
    Spells (scalar? layout) EndsValue spelling (.scalar spelling v)
  | depth + 1, .array items comma tail =>
    Listed gap? (Bordered gap? gap? (Legible layout depth)) items comma tail
  | depth + 1, .table fields comma tail =>
    Listed layout.gap? (LegibleField layout (Legible layout depth)) fields comma tail ∧
      (layout = .oneLine → comma = false)
  | 0, _ => False

theorem itemsText_eq (items : List (Spaced Node)) :
    itemsText items = [','].intercalate (items.map spacedText) := by
  induction items with
  | nil => simp [itemsText]
  | cons item items ih =>
    cases items with
    | nil => simp [itemsText]
    | cons item' items => simp [itemsText, List.intercalate_cons_cons] at ih ⊢; simp [ih]

theorem fieldsText_eq (fields : List (Key × Spaced Node)) :
    fieldsText fields = [','].intercalate (fields.map fieldText) := by
  induction fields with
  | nil => simp [fieldsText]
  | cons field fields ih =>
    cases fields with
    | nil => simp [fieldsText]
    | cons field' fields => simp [fieldsText, List.intercalate_cons_cons] at ih ⊢; simp [ih]

theorem text_array (items : List (Spaced Node)) (comma : Bool) (tail : List Char) :
    (Node.array items comma tail).text = '[' :: listText spacedText ']' items comma tail := by
  rw [Node.text, itemsText_eq, listText]

theorem text_table (fields : List (Key × Spaced Node)) (comma : Bool) (tail : List Char) :
    (Node.table fields comma tail).text = '{' :: listText fieldText '}' fields comma tail := by
  rw [Node.text, fieldsText_eq, listText]

theorem fieldText_eq (f : Key × Spaced Node) : fieldText f = f.1.text ++ '=' :: spacedText f.2 := by
  obtain ⟨key, value⟩ := f
  rw [fieldText]

/-- A legible value starts like a value. -/
theorem Legible.starts {depth : Nat} {node : Node} (h : Legible layout depth node) :
    Starts isNodeStart node.text := by
  cases node with
  | scalar spelling v =>
    rw [Legible] at h
    obtain ⟨c, text, v', hc, he, -, -⟩ := exists_spells_scalar? (h [] endsValue_nil)
    obtain ⟨rfl, rfl⟩ := Node.scalar.inj he
    exact ⟨c, text, by rw [Node.text], by simp [isNodeStart, hc]⟩
  | array items comma tail => exact ⟨'[', _, text_array items comma tail, by decide⟩
  | table fields comma tail => exact ⟨'{', _, text_table fields comma tail, by decide⟩

theorem text_ne_nil {depth : Nat} {node : Node} (h : Legible layout depth node) :
    node.text ≠ [] := by
  obtain ⟨c, text, htext, -⟩ := h.starts
  simp [htext]

/-- A scalar is legible at every depth. -/
theorem legible_of_scalar? (depth : Nat) {node : Node} (h : scalar? layout cs = some (node, rest)) :
    cs = node.text ++ rest ∧ Legible layout depth node := by
  obtain ⟨c, text, v, -, rfl, hcs, hspells⟩ := exists_spells_scalar? h
  exact ⟨by rw [Node.text]; exact hcs, by rw [Legible]; exact hspells⟩

/-- What the reader of a field takes is the text of the field. -/
theorem of_field? {value : Reader Node} {P : Node → Prop} {f : Key × Spaced Node}
    (hvalue : ∀ {cs node rest}, value cs = some (node, rest) →
      cs = node.text ++ rest ∧ P node ∧ Starts isNodeStart node.text)
    (h : field? layout value cs = some (f, rest)) :
    cs = fieldText f ++ rest ∧ (rest ≠ [] → LegibleField layout P f) ∧
      ∃ g r, layout.gap? cs = some (g, r) ∧ Starts isNameStart r := by
  rw [field?_eq] at h
  obtain ⟨⟨key, left⟩, hkey, h⟩ := Option.bind_eq_some_iff.1 h
  obtain ⟨⟨s, left'⟩, hs, h⟩ := Option.map_eq_some_iff.1 h
  obtain ⟨rfl, rfl⟩ := Prod.mk.inj h
  obtain ⟨rfl, hspells, hgap⟩ := spells_keyed? (gaps_layout layout) hkey
  obtain ⟨rfl, hbordered, -⟩ := of_spaced? gaps_blanks? (gaps_layout layout) hvalue hs
  exact ⟨by simp [fieldText_eq], fun hne => ⟨hspells, hbordered hne⟩, hgap⟩

/-- A field is read back in front of a comma or a closing bracket. -/
theorem LegibleField.spells {value : Reader Node} {P : Node → Prop} {f : Key × Spaced Node}
    (h : LegibleField layout P f) (hvalue : Spells value EndsValue f.2.value.text f.2.value)
    (hstart : Starts isNodeStart f.2.value.text) :
    Spells (field? layout value) Closes (fieldText f) f := by
  intro rest hrest
  have hkey := h.key (spacedText f.2 ++ rest) trivial
  have hs := h.value.spells (gaps_layout layout) hvalue hstart rest hrest
  have htext : fieldText f ++ rest = f.1.text ++ ['='] ++ (spacedText f.2 ++ rest) := by
    simp [fieldText_eq]
  rw [htext, field?_eq, hkey, Option.bind_some, hs]
  rfl

theorem node?_of_isScalarStart {depth : Nat} {c : Char} (hc : isScalarStart c = true) :
    node? layout (depth + 1) (c :: cs) = scalar? layout (c :: cs) := by
  rw [node?]
  dsimp only
  split
  · rename_i heq
    obtain rfl : c = '[' := (List.cons.inj heq).1
    exact absurd hc (by decide)
  · rename_i heq
    obtain rfl : c = '{' := (List.cons.inj heq).1
    exact absurd hc (by decide)
  · rfl

/-- **What is read is legible**, and it is the head of the text. -/
theorem legible_of_node? {depth : Nat} {node : Node}
    (h : node? layout depth cs = some (node, rest)) :
    cs = node.text ++ rest ∧ Legible layout depth node := by
  induction depth generalizing cs node rest with
  | zero => exact legible_of_scalar? 0 h
  | succ depth ih =>
    have hvalue : ∀ {cs node rest}, node? layout depth cs = some (node, rest) →
        cs = node.text ++ rest ∧ Legible layout depth node ∧ Starts isNodeStart node.text :=
      fun h => ⟨(ih h).1, (ih h).2, (ih h).2.starts⟩
    rw [node?] at h
    dsimp only at h
    split at h
    · obtain ⟨⟨⟨items, comma, tail⟩, left⟩, hitems, h⟩ := Option.bind_eq_some_iff.1 h
      obtain ⟨rfl, rfl⟩ := Prod.mk.inj (Option.some.inj h)
      obtain ⟨hlisted, rfl⟩ := listed_of_elements? gaps_gap? (by decide)
        (fun hx hne => by
          obtain ⟨hcs, hbordered, -⟩ := of_spaced? gaps_gap? gaps_gap? hvalue hx
          exact ⟨hcs, hbordered hne⟩) hitems
      exact ⟨by rw [text_array]; rfl, by rw [Legible]; exact hlisted⟩
    · obtain ⟨⟨⟨fields, comma, tail⟩, left⟩, hfields, h⟩ := Option.bind_eq_some_iff.1 h
      dsimp only at h
      split at h
      · simp at h
      · rename_i hcomma
        obtain ⟨rfl, rfl⟩ := Prod.mk.inj (Option.some.inj h)
        obtain ⟨hlisted, rfl⟩ := listed_of_elements? (gaps_layout layout) (by decide)
          (fun hx hne => by
            obtain ⟨hcs, hfield, -⟩ := of_field? hvalue hx
            exact ⟨hcs, hfield hne⟩) hfields
        refine ⟨by rw [text_table]; rfl, ?_⟩
        rw [Legible]
        refine ⟨hlisted, fun hlayout => ?_⟩
        simpa [hlayout] using hcomma
    · exact legible_of_scalar? (depth + 1) h

/-- What can be read starts like a value. -/
theorem starts_of_node? {depth : Nat} {node : Node}
    (h : node? layout depth cs = some (node, rest)) :
    cs = node.text ++ rest ∧ Legible layout depth node ∧ Starts isNodeStart node.text :=
  ⟨(legible_of_node? h).1, (legible_of_node? h).2, (legible_of_node? h).2.starts⟩

/-- In front of an element of an array stands a gap, and behind it no closing bracket. -/
theorem exists_gap_of_item? {depth : Nat} {s : Spaced Node}
    (h : spaced? gap? gap? (node? layout depth) cs = some (s, rest)) :
    ∃ g r, gap? cs = some (g, r) ∧ r.head? ≠ some ']' := by
  obtain ⟨-, -, g, r, hg, c, text, rfl, hc⟩ := of_spaced? gaps_gap? gaps_gap? starts_of_node? h
  refine ⟨g, _, hg, fun h => ?_⟩
  obtain rfl : c = ']' := by simpa using h
  exact absurd hc (by decide)

/-- So it is for a field of an inline table. -/
theorem exists_gap_of_field? {depth : Nat} {f : Key × Spaced Node}
    (h : field? layout (node? layout depth) cs = some (f, rest)) :
    ∃ g r, layout.gap? cs = some (g, r) ∧ r.head? ≠ some '}' := by
  obtain ⟨-, -, g, r, hg, c, text, rfl, hc⟩ := of_field? starts_of_node? h
  refine ⟨g, _, hg, fun h => ?_⟩
  obtain rfl : c = '}' := by simpa using h
  exact absurd hc (by decide)

/-- The elements of a legible array are read back. -/
theorem spells_items {depth n : Nat} {items : List (Spaced Node)} {comma : Bool} {tail : List Char}
    (ih : ∀ {node}, Legible layout depth node →
      Spells (node? layout depth) EndsValue node.text node)
    (h : Listed gap? (Bordered gap? gap? (Legible layout depth)) items comma tail)
    (hn : items.length < n) :
    Spells (elements? ']' gap? (spaced? gap? gap? (node? layout depth)) n) Anything
      (listText spacedText ']' items comma tail) (items, comma, tail) :=
  h.spells (.inl rfl) (fun _ hs => hs.spells gaps_gap? (ih hs.value) hs.value.starts)
    exists_gap_of_item? hn

/-- The fields of a legible inline table are read back. -/
theorem spells_fields {depth n : Nat} {fields : List (Key × Spaced Node)} {comma : Bool}
    {tail : List Char}
    (ih : ∀ {node}, Legible layout depth node →
      Spells (node? layout depth) EndsValue node.text node)
    (h : Listed layout.gap? (LegibleField layout (Legible layout depth)) fields comma tail)
    (hn : fields.length < n) :
    Spells (elements? '}' layout.gap? (field? layout (node? layout depth)) n) Anything
      (listText fieldText '}' fields comma tail) (fields, comma, tail) :=
  h.spells (.inr rfl) (fun _ hf => hf.spells (ih hf.value.value) hf.value.value.starts)
    exists_gap_of_field? hn

/-- **What is legible is read back** in front of what may follow a value. -/
theorem Legible.spells {depth : Nat} {node : Node} (h : Legible layout depth node) :
    Spells (node? layout depth) EndsValue node.text node := by
  induction depth generalizing node with
  | zero =>
    cases node with
    | scalar spelling v =>
      rw [Legible] at h
      rw [Node.text, node?]
      exact h
    | array | table => exact h.elim
  | succ depth ih =>
    cases node with
    | scalar spelling v =>
      rw [Legible] at h
      intro rest hrest
      have hread := h rest hrest
      obtain ⟨c, text, v', hc, he, hcs, -⟩ := exists_spells_scalar? hread
      obtain ⟨rfl, rfl⟩ := Node.scalar.inj he
      rw [Node.text, List.cons_append, node?_of_isScalarStart hc]
      exact hread
    | array items comma tail =>
      rw [Legible] at h
      intro rest _
      have hn : items.length < (listText spacedText ']' items comma tail ++ rest).length := by
        have := h.length_lt ']' fun s hs => show spacedText s ≠ [] by
          simp [spacedText_eq, text_ne_nil hs.value]
        rw [List.length_append]
        omega
      have hread := spells_items ih h hn rest trivial
      rw [text_array, List.cons_append, node?]
      simp only [hread, Option.bind_eq_bind, Option.bind_some]
    | table fields comma tail =>
      rw [Legible] at h
      obtain ⟨h, hcomma⟩ := h
      intro rest _
      have hn : fields.length < (listText fieldText '}' fields comma tail ++ rest).length := by
        have := h.length_lt '}' fun f _ => show fieldText f ≠ [] by
          simp [fieldText_eq]
        rw [List.length_append]
        omega
      have hread := spells_fields ih h hn rest trivial
      have hone : ¬(comma = true ∧ layout = .oneLine) := fun hboth => by
        simp [hcomma hboth.2] at hboth
      rw [text_table, List.cons_append, node?]
      simp only [hread, Option.bind_eq_bind, Option.bind_some, if_neg hone]

end Toml
end LintWorkspace
