/-
# Gaps, keys and scalars are read back

What stands between two tokens is read back in front of anything that cannot belong to it,
and so are the keys and the values that hold no other values.  How a token may end:

| token | may not be followed by |
| --- | --- |
| a gap | a blank, a line break or a comment |
| a name of a key | a blank or a character of a bare name |
| a key | the same, or a dot |
| a scalar | anything but a blank, a line break, a comment, a comma or a closing bracket |

A date and a time are one scalar with a blank between them, so after a scalar no digit may
follow a blank.
-/

import LintWorkspace.Proofs.Literal
import LintWorkspace.Toml.Reader

namespace LintWorkspace
namespace Toml

variable {cs rest g : List Char} {c : Char}

/-! ### Gaps -/

/-- The characters a gap is made of, up to a comment. -/
def isGap (c : Char) : Bool := isSpace c || c = '\n' || c = '\r' || c = '#'

/-- The reader of blanks. -/
abbrev blanks? : Reader (List Char) := fun cs => some (spaces cs)

/-- A text is at its end, or at a comma or a closing bracket. -/
def Closes (rest : List Char) : Prop := ∀ c ∈ rest.head?, c = ',' ∨ c = ']' ∨ c = '}'

/-- What may follow a value that holds no other values. -/
def EndsValue (rest : List Char) : Prop :=
  (∀ c ∈ rest.head?, isGap c = true ∨ c = ',' ∨ c = ']' ∨ c = '}') ∧
    ∀ d cs, rest = ' ' :: d :: cs → d.isDigit = false

/-- What every reader of gaps does: it takes nothing away, stops in front of the next token,
is read back there, and what it takes may follow a value. -/
structure Gaps (gap : Reader (List Char)) : Prop where
  append : ∀ {cs g rest}, gap cs = some (g, rest) → g ++ rest = cs
  stops : ∀ {cs g rest}, gap cs = some (g, rest) → Stops isSpace rest
  spells : ∀ {cs g rest}, gap cs = some (g, rest) → rest ≠ [] → Spells gap (Stops isGap) g g
  endsValue : ∀ {cs g rest}, gap cs = some (g, rest) → Closes rest → EndsValue cs

theorem isGap_cases (h : isGap c = true) :
    c = ' ' ∨ c = '\t' ∨ c = '\n' ∨ c = '\r' ∨ c = '#' := by
  simp only [isGap, isSpace, Bool.or_eq_true, decide_eq_true_eq] at h
  rcases h with (((h | h) | h) | h) | h <;> simp [h]

theorem Stops.mono {p q : Char → Bool} (h : Stops q rest) (hpq : ∀ c, p c = true → q c = true) :
    Stops p rest := fun c hc => by
  have := h c hc
  cases hp : p c with
  | false => rfl
  | true => rw [hpq c hp] at this; exact this

theorem isSpace_of_isGap (h : isGap c = false) : isSpace c = false := by
  simp only [isGap, Bool.or_eq_false_iff] at h
  exact h.1.1.1

theorem Stops.spaces (h : Stops isGap rest) : Stops isSpace rest := fun c hc =>
  isSpace_of_isGap (h c hc)

theorem Closes.stops (h : Closes rest) : Stops isGap rest := fun c hc => by
  rcases h c hc with rfl | rfl | rfl <;> rfl

theorem Closes.endsValue (h : Closes rest) : EndsValue rest := by
  refine ⟨fun c hc => .inr (h c hc), ?_⟩
  rintro d cs rfl
  have := h ' ' rfl
  simp at this

theorem spaces_append (hg : ∀ c ∈ g, isSpace c = true) (hrest : Stops isSpace rest) :
    spaces (g ++ rest) = (g, rest) := by
  obtain ⟨htake, hdrop⟩ := span_append hg hrest
  exact Prod.ext htake hdrop

theorem of_spaces_eq (h : spaces cs = (g, rest)) :
    (∀ c ∈ g, isSpace c = true) ∧ Stops isSpace rest ∧ g ++ rest = cs := by
  obtain ⟨rfl, rfl⟩ := Prod.mk.inj h
  exact ⟨(span_stops isSpace cs).1, (span_stops isSpace cs).2, List.takeWhile_append_dropWhile⟩

theorem endsValue_nil : EndsValue [] :=
  ⟨fun c hc => by simp at hc, fun d cs h => by simp at h⟩

/-- A value may be followed by a gap: what comes after a blank of it is no digit. -/
theorem endsValue_cons (hc : isGap c = true) (h : c = ' ' → EndsValue rest) :
    EndsValue (c :: rest) := by
  refine ⟨fun d hd => .inl ?_, ?_⟩
  · obtain rfl : c = d := by simpa using hd
    exact hc
  · rintro d cs he
    obtain ⟨rfl, rfl⟩ := List.cons.inj he
    cases hd : d.isDigit with
    | false => rfl
    | true =>
      rcases (h rfl).1 d rfl with hgap | rfl | rfl | rfl
      · rcases isGap_cases hgap with rfl | rfl | rfl | rfl | rfl <;> simp at hd
      all_goals simp at hd

theorem endsValue_append (hg : ∀ c ∈ g, isSpace c = true) (h : EndsValue rest) :
    EndsValue (g ++ rest) := by
  induction g with
  | nil => exact h
  | cons c g ih =>
    refine endsValue_cons ?_ fun _ => ih fun d hd => hg d (List.mem_cons_of_mem _ hd)
    simp [isGap, hg c List.mem_cons_self]

/-- Blanks are a gap. -/
theorem gaps_blanks? : Gaps blanks? where
  append h := (of_spaces_eq (Option.some.inj h)).2.2
  stops h := (of_spaces_eq (Option.some.inj h)).2.1
  spells h _ rest' hrest :=
    congrArg some (spaces_append (of_spaces_eq (Option.some.inj h)).1 hrest.spaces)
  endsValue h hrest := by
    obtain ⟨hg, -, rfl⟩ := of_spaces_eq (Option.some.inj h)
    exact endsValue_append hg hrest.endsValue

theorem exists_of_map {read : Reader (List Char)}
    {f : List Char × List Char → List Char × List Char} (hf : ∀ e, f e = (c :: e.1, e.2))
    (h : (read cs).map f = some (g, rest)) :
    ∃ g', g = c :: g' ∧ read cs = some (g', rest) := by
  obtain ⟨⟨g', r⟩, hg, he⟩ := Option.map_eq_some_iff.1 h
  obtain ⟨rfl, rfl⟩ := Prod.mk.inj ((hf _).symm.trans he)
  exact ⟨g', rfl, hg⟩

/-- A character with which a gap goes on, whatever follows, is read back with the gap. -/
theorem spells_gapFrom?_cons {b b' : Bool}
    (hstep : ∀ cs, gapFrom? b (c :: cs) = (gapFrom? b' cs).map fun e => (c :: e.1, e.2))
    (h : (gapFrom? b' cs).map (fun e => (c :: e.1, e.2)) = some (g, rest))
    (ih : ∀ {g}, gapFrom? b' cs = some (g, rest) →
      Stops isGap rest ∧ Spells (gapFrom? b') (Stops isGap) g g) :
    Stops isGap rest ∧ Spells (gapFrom? b) (Stops isGap) g g := by
  obtain ⟨g, rfl, hg⟩ := exists_of_map (fun _ => rfl) h
  obtain ⟨hstops, hspells⟩ := ih hg
  refine ⟨hstops, fun rest' hrest => ?_⟩
  rw [List.cons_append, hstep, hspells rest' hrest]
  rfl

/-- A gap with line breaks and comments that another token follows ends in front of it and
is read back. -/
theorem spells_gapFrom? {b : Bool} (h : gapFrom? b cs = some (g, rest)) (hne : rest ≠ []) :
    Stops isGap rest ∧ Spells (gapFrom? b) (Stops isGap) g g := by
  fun_induction gapFrom? b cs generalizing g with
  | case1 =>
    obtain ⟨rfl, rfl⟩ := Prod.mk.inj (Option.some.inj h)
    exact absurd rfl hne
  | case2 b cs ih => exact spells_gapFrom?_cons (fun cs => by rw [gapFrom?]) h ih
  | case3 b cs ih =>
    -- a carriage return goes with a gap only if a line feed follows
    obtain ⟨g, rfl, hg⟩ := exists_of_map (fun _ => rfl) h
    obtain ⟨hstops, hspells⟩ := ih hg
    refine ⟨hstops, fun rest' hrest => ?_⟩
    obtain ⟨g, rfl, -⟩ : ∃ g', g = '\n' :: g' ∧ _ := by
      rw [gapFrom?] at hg
      exact exists_of_map (fun _ => rfl) hg
    have := hspells rest' hrest
    rw [List.cons_append] at this
    simp [gapFrom?, this]
  | case4 | case6 => simp at h
  | case5 c cs hbreak hreturn hplain ih =>
    refine spells_gapFrom?_cons (fun cs => ?_) h ih
    rw [gapFrom?, if_pos hplain]
    · exact hbreak
    · exact hreturn
  | case7 c cs hbreak hreturn hspace ih =>
    refine spells_gapFrom?_cons (fun cs => ?_) h ih
    rw [gapFrom?, if_pos hspace]
    · exact hbreak
    · exact hreturn
  | case8 cs hbreak hreturn hspace ih =>
    refine spells_gapFrom?_cons (fun cs => ?_) h ih
    rw [gapFrom?, if_neg hspace, if_pos rfl]
    · exact hbreak
    · exact hreturn
  | case9 c cs hbreak hreturn hspace hcomment =>
    obtain ⟨rfl, rfl⟩ := Prod.mk.inj (Option.some.inj h)
    have hstop : isGap c = false := by
      simp only [isGap, Bool.or_eq_false_iff, decide_eq_false_iff_not]
      exact ⟨⟨⟨by simpa using hspace, hbreak⟩, hreturn⟩, hcomment⟩
    refine ⟨fun d hd => ?_, fun rest' hrest => ?_⟩
    · obtain rfl : c = d := by simpa using hd
      exact hstop
    · cases rest' with
      | nil => rfl
      | cons d ds =>
        have hd := hrest d rfl
        simp only [isGap, Bool.or_eq_false_iff, decide_eq_false_iff_not] at hd
        obtain ⟨⟨⟨hspace, hbreak⟩, hreturn⟩, hcomment⟩ := hd
        rw [List.nil_append, gapFrom?]
        · simp [hspace, hcomment]
        · exact hbreak
        · exact hreturn

/-- A value may be followed by a gap with line breaks and comments. -/
theorem endsValue_of_gap? (h : gap? cs = some (g, rest)) (hrest : Closes rest) :
    EndsValue cs := by
  unfold gap? at h
  induction cs generalizing g with
  | nil => exact endsValue_nil
  | cons c cs ih =>
    cases hc : isGap c with
    | true =>
      refine endsValue_cons hc ?_
      rintro rfl
      obtain ⟨g', rfl, hg⟩ := exists_of_map (fun _ => rfl) h
      exact ih hg
    | false =>
      simp only [isGap, Bool.or_eq_false_iff, decide_eq_false_iff_not] at hc
      obtain ⟨⟨⟨hspace, hbreak⟩, hreturn⟩, hcomment⟩ := hc
      rw [gapFrom?] at h
      · simp only [hspace, hcomment, if_false, Bool.false_eq_true] at h
        obtain ⟨rfl, rfl⟩ := Prod.mk.inj (Option.some.inj h)
        exact hrest.endsValue
      · exact hbreak
      · exact hreturn

/-- Blanks, line breaks and comments are a gap. -/
theorem gaps_gap? : Gaps gap? where
  append h := append_of_gap? h
  stops {cs g rest} h := by
    cases rest with
    | nil => exact fun c hc => by simp at hc
    | cons c rest => exact (spells_gapFrom? h (by simp)).1.spaces
  spells h hne := (spells_gapFrom? h hne).2
  endsValue h hrest := endsValue_of_gap? h hrest

/-- So is what either layout allows between the tokens of an inline table. -/
theorem gaps_layout (layout : Layout) : Gaps layout.gap? := by
  cases layout with
  | oneLine => exact gaps_blanks?
  | free => exact gaps_gap?

/-! ### Keys -/

/-- The characters a name of a key may start with. -/
def isNameStart (c : Char) : Bool := isBare c || c = '"' || c = '\''

/-- The characters that a key may not be followed by. -/
def isKey (c : Char) : Bool := isSpace c || isBare c || c = '.'

theorem not_isGap_of_isNameStart (h : isNameStart c = true) : isGap c = false := by
  cases hc : isGap c with
  | false => rfl
  | true =>
    rcases isGap_cases hc with rfl | rfl | rfl | rfl | rfl <;> exact absurd h (by decide)

theorem consumed_append (g rest : List Char) : consumed (g ++ rest) rest = g := by
  simp [consumed]

/-- A bare name goes as far as it can. -/
theorem name?_of_isBare (hc : isBare c = true) : name? (c :: cs) =
    some ((c :: cs).takeWhile isBare, (c :: cs).dropWhile isBare) := by
  have htake : (c :: cs).takeWhile isBare ≠ [] := by simp [hc]
  unfold name?
  split
  · rename_i heq
    obtain ⟨rfl, -⟩ := List.cons.inj heq
    exact absurd hc (by decide)
  · rename_i heq
    obtain ⟨rfl, -⟩ := List.cons.inj heq
    exact absurd hc (by decide)
  · rw [if_neg (by simpa using htake)]

/-- A name of a key is read back. -/
theorem exists_spells_name? {x : List Char} (h : name? cs = some (x, rest)) :
    ∃ c text, isNameStart c = true ∧ cs = c :: text ++ rest ∧
      Spells name? (Stops isBare) (c :: text) x := by
  unfold name? at h
  split at h
  · obtain ⟨q, text, hq, -, -, hcs, hspells⟩ := exists_spells_lineLiteral? h
    obtain rfl : '"' = q := (List.cons.inj hcs).1
    exact ⟨'"', text, by decide, hcs, fun rest' _ => hspells rest' trivial⟩
  · obtain ⟨q, text, hq, -, -, hcs, hspells⟩ := exists_spells_lineLiteral? h
    obtain rfl : '\'' = q := (List.cons.inj hcs).1
    exact ⟨'\'', text, by decide, hcs, fun rest' _ => hspells rest' trivial⟩
  · split at h
    · simp at h
    · rename_i hdouble hsingle hne
      obtain ⟨rfl, rfl⟩ := Prod.mk.inj (Option.some.inj h)
      obtain ⟨hbare, -⟩ := span_stops isBare cs
      cases htext : cs.takeWhile isBare with
      | nil => simp [htext] at hne
      | cons c text =>
        have hc : isBare c = true := hbare c (by simp [htext])
        refine ⟨c, text, by simp [isNameStart, hc], ?_, fun rest' hrest => ?_⟩
        · rw [← htext, List.takeWhile_append_dropWhile]
        · obtain ⟨htake, hdrop⟩ := span_append (htext ▸ hbare) hrest
          rw [List.cons_append] at htake hdrop ⊢
          rw [name?_of_isBare hc, htake, hdrop]

/-- The text of one name of a key. -/
def KeyPart.text (p : KeyPart) : List Char := p.before ++ p.spelling ++ p.after

theorem keyPart?_eq (cs : List Char) : keyPart? cs = (name? (spaces cs).2).map fun e =>
    (⟨(spaces cs).1, consumed (spaces cs).2 e.2, (spaces e.2).1, String.ofList e.1⟩,
      (spaces e.2).2) := by
  rw [keyPart?]
  generalize spaces cs = around
  obtain ⟨before, named⟩ := around
  cases h : name? named <;> simp [h]

/-- One name of a key is read back, with the blanks around it. -/
theorem exists_spells_keyPart? {p : KeyPart} (h : keyPart? cs = some (p, rest)) :
    cs = p.text ++ rest ∧ p.text ≠ [] ∧ Stops isSpace rest ∧
      (Stops isSpace cs → ∃ c text, p.text = c :: text ∧ isNameStart c = true) ∧
      Spells keyPart? (Stops fun c => isSpace c || isBare c) p.text p := by
  rw [keyPart?_eq] at h
  generalize hcs : spaces cs = around at h
  obtain ⟨before, named⟩ := around
  obtain ⟨⟨name, left⟩, hname, h⟩ := Option.map_eq_some_iff.1 h
  generalize hleft : spaces left = around at h
  obtain ⟨after, rest'⟩ := around
  obtain ⟨rfl, rfl⟩ := Prod.mk.inj h
  obtain ⟨c, text, hc, rfl, hspells⟩ := exists_spells_name? hname
  obtain ⟨hbefore, -, rfl⟩ := of_spaces_eq hcs
  obtain ⟨hafter, hstops, rfl⟩ := of_spaces_eq hleft
  rw [consumed_append]
  simp only [KeyPart.text]
  refine ⟨by simp, by simp, hstops, fun hstart => ?_, fun rest' hrest => ?_⟩
  · cases before with
    | nil => exact ⟨c, text ++ after, rfl, hc⟩
    | cons d before =>
      have := hstart d rfl
      rw [hbefore d List.mem_cons_self] at this
      simp at this
  · have hblank : Stops isSpace rest' := hrest.mono fun d hd => by simp [hd]
    have hbare : Stops isBare (after ++ rest') := by
      cases after with
      | nil => exact hrest.mono fun d hd => by simp [hd]
      | cons d after =>
        intro e he
        obtain rfl : d = e := by simpa using he
        have : d = ' ' ∨ d = '\t' := by simpa [isSpace] using hafter d List.mem_cons_self
        rcases this with rfl | rfl <;> decide
    have hstart : Stops isSpace (c :: text ++ (after ++ rest')) := fun d hd => by
      obtain rfl : c = d := by simpa using hd
      exact isSpace_of_isGap (not_isGap_of_isNameStart hc)
    have hname' := hspells _ hbare
    simp only [keyPart?_eq, List.append_assoc, spaces_append hbefore hstart, hname',
      Option.map_some, spaces_append hafter hblank, consumed_append]

/-- The text of a key with another name in front. -/
theorem Key.text_cons {p : KeyPart} {k : Key} (hk : k ≠ []) :
    Key.text (p :: k) = p.text ++ '.' :: Key.text k := by
  cases k with
  | nil => exact absurd rfl hk
  | cons q k => simp [Key.text, KeyPart.text, List.intercalate_cons_cons]

theorem Key.text_singleton (p : KeyPart) : Key.text [p] = p.text := by
  simp [Key.text, KeyPart.text]

/-- A key of at most so many names is read back. -/
theorem exists_spells_keyWithin? {n : Nat} {k : Key} (h : keyWithin? n cs = some (k, rest)) :
    k ≠ [] ∧ cs = k.text ++ rest ∧ k.length ≤ k.text.length ∧
      (Stops isSpace cs → ∃ c text, k.text = c :: text ∧ isNameStart c = true) ∧
      ∀ m, k.length ≤ m → Spells (keyWithin? m) (Stops isKey) k.text k := by
  induction n generalizing cs k with
  | zero => simp [keyWithin?] at h
  | succ n ih =>
    rw [keyWithin?] at h
    obtain ⟨⟨p, left⟩, hpart, hmore⟩ := Option.bind_eq_some_iff.1 h
    obtain ⟨rfl, hne, hstops, hstart, hspells⟩ := exists_spells_keyPart? hpart
    have hlength : 0 < p.text.length := List.length_pos_iff.2 hne
    dsimp only at hmore
    split at hmore
    · rename_i dotted
      obtain ⟨⟨k', rest'⟩, hkey, he⟩ := Option.bind_eq_some_iff.1 hmore
      obtain ⟨rfl, rfl⟩ := Prod.mk.inj (Option.some.inj he)
      obtain ⟨hk, rfl, hlengths, -, hrest⟩ := ih hkey
      rw [Key.text_cons hk]
      refine ⟨by simp, by simp, by simp; omega, fun hcs => ?_, fun m hm rest'' hends => ?_⟩
      · obtain ⟨c, text, htext, hc⟩ := hstart hcs
        exact ⟨c, text ++ '.' :: k'.text, by rw [htext]; rfl, hc⟩
      · obtain ⟨m, rfl⟩ : ∃ m', m = m' + 1 := ⟨m - 1, by simp at hm; omega⟩
        have hp := hspells ('.' :: (k'.text ++ rest'')) fun c hc => by
          obtain rfl : '.' = c := by simpa using hc
          decide
        have hk' := hrest m (by simpa using hm) rest'' hends
        simp only [List.append_assoc, List.cons_append, keyWithin?, hp, hk', Option.bind_eq_bind,
          Option.bind_some]
    · obtain ⟨rfl, rfl⟩ := Prod.mk.inj (Option.some.inj hmore)
      rw [Key.text_singleton]
      refine ⟨by simp, rfl, by simp; omega, hstart, fun m hm rest' hends => ?_⟩
      obtain ⟨m, rfl⟩ : ∃ m', m = m' + 1 := ⟨m - 1, by simp at hm; omega⟩
      have hp := hspells rest' (hends.mono fun c hc => by simp [isKey, hc])
      simp only [keyWithin?, hp, Option.bind_eq_bind, Option.bind_some]
      split
      · exact absurd (hends '.' rfl) (by decide)
      · rfl

/-- **A key is read back** in front of what does not start with a blank, a dot or a bare
name. -/
theorem exists_spells_key? {k : Key} (h : key? cs = some (k, rest)) :
    k ≠ [] ∧ cs = k.text ++ rest ∧
      (Stops isSpace cs → ∃ c text, k.text = c :: text ∧ isNameStart c = true) ∧
      Spells key? (Stops isKey) k.text k := by
  obtain ⟨hk, hcs, hlength, hstart, hspells⟩ := exists_spells_keyWithin? h
  exact ⟨hk, hcs, hstart, fun rest' hrest =>
    hspells (k.text ++ rest').length (by simp; omega) rest' hrest⟩

theorem text_ne_nil_of_key? {k : Key} (h : key? cs = some (k, rest)) : k.text ≠ [] := by
  obtain ⟨hk, -, hlength, -⟩ := exists_spells_keyWithin? h
  have := List.length_pos_iff.2 hk
  exact List.length_pos_iff.1 (by omega)

/-! ### Scalars -/

/-- The characters a value that holds no other values may start with. -/
def isScalarStart (c : Char) : Bool := isRun c || c = '"' || c = '\''

theorem EndsValue.stops (h : EndsValue rest) : Stops isRun rest := fun c hc => by
  rcases h.1 c hc with hgap | rfl | rfl | rfl
  · rcases isGap_cases hgap with rfl | rfl | rfl | rfl | rfl <;> decide
  all_goals decide

theorem EndsValue.noQuote (h : EndsValue rest) : NoQuote rest := by
  have hne : ∀ c ∈ rest.head?, c ≠ '"' ∧ c ≠ '\'' := fun c hc => by
    rcases h.1 c hc with hgap | rfl | rfl | rfl
    · rcases isGap_cases hgap with rfl | rfl | rfl | rfl | rfl <;> decide
    all_goals decide
  exact ⟨fun h => (hne _ h).1 rfl, fun h => (hne _ h).2 rfl⟩

theorem scalarOfRun?_nil (layout : Layout) : scalarOfRun? layout [] = none := by
  cases layout <;> decide

/-- A run is read back, also a date with the time after it. -/
theorem run_append {spelling : List Char} (h : run cs = (spelling, rest)) :
    cs = spelling ++ rest ∧ (∀ c ∈ spelling.head?, isRun c = true) ∧
      ∀ rest', EndsValue rest' → run (spelling ++ rest') = (spelling, rest') := by
  obtain ⟨hrun, hstops⟩ := span_stops isRun cs
  have hall : cs.takeWhile isRun ++ cs.dropWhile isRun = cs := List.takeWhile_append_dropWhile
  have hhead : ∀ c ∈ (cs.takeWhile isRun).head?, isRun c = true := fun c hc =>
    hrun c (List.mem_of_mem_head? hc)
  have hplain : ∀ rest', EndsValue rest' →
      run (cs.takeWhile isRun ++ rest') = (cs.takeWhile isRun, rest') := fun rest' hends => by
    obtain ⟨htake, hdrop⟩ := span_append hrun hends.stops
    unfold run
    rw [htake, hdrop]
    dsimp only
    split
    · rename_i d ds
      rw [if_neg (by simp [hends.2 d ds rfl])]
    · rfl
  unfold run at h
  dsimp only at h
  split at h
  · rename_i d after hrest
    split at h
    · rename_i hdate
      obtain ⟨rfl, rfl⟩ := Prod.mk.inj h
      obtain ⟨hmore, -⟩ := span_stops isRun after
      have hafter : after.takeWhile isRun ++ after.dropWhile isRun = after :=
        List.takeWhile_append_dropWhile
      refine ⟨?_, ?_, fun rest' hends => ?_⟩
      · rw [List.append_assoc, List.cons_append, List.cons_append, hafter, ← hrest, hall]
      · intro c hc
        cases hfirst : cs.takeWhile isRun with
        | nil =>
          rw [hfirst] at hdate
          exact absurd hdate.1 (by decide)
        | cons e es =>
          rw [hfirst] at hc hhead
          exact hhead c hc
      · have hblank : Stops isRun (' ' :: d :: (after.takeWhile isRun ++ rest')) := fun c hc => by
          obtain rfl : ' ' = c := by simpa using hc
          decide
        obtain ⟨htake, hdrop⟩ := span_append hrun hblank
        obtain ⟨htake', hdrop'⟩ := span_append hmore hends.stops
        unfold run
        simp only [List.append_assoc, List.cons_append, htake, hdrop, htake', hdrop']
        rw [if_pos hdate]
    · obtain ⟨rfl, rfl⟩ := Prod.mk.inj h
      exact ⟨by rw [← hrest, hall], hhead, hplain⟩
  · obtain ⟨rfl, rfl⟩ := Prod.mk.inj h
    exact ⟨hall.symm, hhead, hplain⟩

/-- **A value that holds no other values is read back** in front of what may follow one. -/
theorem exists_spells_scalar? {layout : Layout} {node : Node}
    (h : scalar? layout cs = some (node, rest)) :
    ∃ c text v, isScalarStart c = true ∧ node = .scalar (c :: text) v ∧
      cs = c :: text ++ rest ∧ Spells (scalar? layout) EndsValue (c :: text) node := by
  unfold scalar? at h
  split at h
  · obtain ⟨⟨s, left⟩, hread, he⟩ := Option.bind_eq_some_iff.1 h
    obtain ⟨rfl, rfl⟩ := Prod.mk.inj (Option.some.inj he)
    obtain ⟨q, text, -, hcs, hspells⟩ := exists_spells_literal? hread
    obtain rfl : '"' = q := (List.cons.inj hcs).1
    rw [hcs, consumed_append]
    refine ⟨'"', text, _, by decide, rfl, rfl, fun rest' hends => ?_⟩
    have hread' := hspells rest' hends.noQuote
    have hconsumed := consumed_append ('"' :: text) rest'
    rw [List.cons_append] at hread' hconsumed ⊢
    simp only [scalar?, hread', Option.bind_eq_bind, Option.bind_some, hconsumed]
  · obtain ⟨⟨s, left⟩, hread, he⟩ := Option.bind_eq_some_iff.1 h
    obtain ⟨rfl, rfl⟩ := Prod.mk.inj (Option.some.inj he)
    obtain ⟨q, text, -, hcs, hspells⟩ := exists_spells_literal? hread
    obtain rfl : '\'' = q := (List.cons.inj hcs).1
    rw [hcs, consumed_append]
    refine ⟨'\'', text, _, by decide, rfl, rfl, fun rest' hends => ?_⟩
    have hread' := hspells rest' hends.noQuote
    have hconsumed := consumed_append ('\'' :: text) rest'
    rw [List.cons_append] at hread' hconsumed ⊢
    simp only [scalar?, hread', Option.bind_eq_bind, Option.bind_some, hconsumed]
  · generalize hrun : run cs = taken at h
    obtain ⟨spelling, left⟩ := taken
    obtain ⟨v, hv, he⟩ := Option.bind_eq_some_iff.1 h
    obtain ⟨rfl, rfl⟩ := Prod.mk.inj (Option.some.inj he)
    obtain ⟨hcs, hhead, hspells⟩ := run_append hrun
    cases spelling with
    | nil =>
      rw [scalarOfRun?_nil] at hv
      simp at hv
    | cons c text =>
      have hc : isRun c = true := hhead c rfl
      refine ⟨c, text, v, by simp [isScalarStart, hc], rfl, hcs, fun rest' hends => ?_⟩
      have hrun' := hspells rest' hends
      unfold scalar?
      split
      · rename_i heq
        obtain ⟨rfl, -⟩ := List.cons.inj heq
        exact absurd hc (by decide)
      · rename_i heq
        obtain ⟨rfl, -⟩ := List.cons.inj heq
        exact absurd hc (by decide)
      · simp only [hrun', hv, Option.bind_eq_bind, Option.bind_some]

end Toml
end LintWorkspace
