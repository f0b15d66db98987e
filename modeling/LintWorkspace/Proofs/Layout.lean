/-
# The strict layout reads what the free one reads

A document is read in one of two layouts.  The free one accepts more: gaps with line breaks
and comments in an inline table, a comma behind its last field, numbers of more than 64
bits.  What the strict one accepts, the free one reads as the same document
(`ofText?_free`).

For numbers that takes an argument: one that the strict layout refuses may not then be read
as a date or a time.  It never is, because a date and a time start with digits and a dash
or a colon, and no number does (`number?_eq_none`).
-/

import LintWorkspace.Proofs.Legible

namespace LintWorkspace
namespace Toml

variable {cs rest : List Char}

/-! ### Numbers are no moments -/

/-- Whether a character is a decimal digit. -/
def isDecimal (c : Char) : Bool := (digitBelow? 10 c).isSome

theorem digits?_eq_none {value : Char → Option Nat} {c : Char} (hc : c ∈ cs)
    (hvalue : value c = none) (hne : c ≠ '_') : digits? value cs = none := by
  fun_induction digits? value cs with
  | case1 => rfl
  | case2 d =>
    obtain rfl : c = d := by simpa using hc
    simp [hvalue]
  | case3 d cs ih =>
    rcases List.mem_cons.1 hc with rfl | hc
    · simp [hvalue]
    · have hc : c ∈ cs := by simpa [hne] using hc
      simp [ih hc]
  | case4 d cs hne₁ hne₂ ih =>
    rcases List.mem_cons.1 hc with rfl | hc
    · simp [hvalue]
    · simp [ih hc]

theorem cutAt_append {p : Char → Bool} {g : List Char} (hg : ∀ c ∈ g, p c = false) :
    (cutAt p (g ++ rest)).1 = g ++ (cutAt p rest).1 := by
  have hall : ∀ c ∈ g, (!p c) = true := fun c hc => by simp [hg c hc]
  unfold cutAt
  rw [List.dropWhile_append_of_pos hall]
  split
  · rfl
  · rw [List.takeWhile_append_of_pos hall]

theorem wholeDigits?_eq_none {c : Char} (hc : c ∈ cs) (h : c = '-' ∨ c = ':') :
    wholeDigits? cs = none := by
  have : decimals? cs = none := by
    rcases h with rfl | rfl
    · exact digits?_eq_none hc (by decide) (by decide)
    · exact digits?_eq_none hc (by decide) (by decide)
  simp [wholeDigits?, this]

/-- A text that starts with decimal digits and a dash or a colon. -/
structure Dated (cs : List Char) : Prop where
  starts : ∃ d ds c rest, cs = d :: ds ++ c :: rest ∧ isDecimal d = true ∧
    (∀ c ∈ ds, isDecimal c = true) ∧ (c = '-' ∨ c = ':')

theorem Dated.signed_eq (h : Dated cs) : signed cs = (false, cs) := by
  obtain ⟨d, ds, c, rest, rfl, hd, -⟩ := h
  unfold signed
  split
  · rename_i heq
    obtain rfl : d = '-' := (List.cons.inj heq).1
    exact absurd hd (by decide)
  · rename_i heq
    obtain rfl : d = '+' := (List.cons.inj heq).1
    exact absurd hd (by decide)
  · rfl

theorem Dated.integer?_eq_none (h : Dated cs) : integer? cs = none := by
  have hsigned := h.signed_eq
  obtain ⟨d, ds, c, rest, rfl, hd, hds, hc⟩ := h
  have hsecond : ∀ {e : Char} {more : List Char}, d :: ds ++ c :: rest = '0' :: e :: more →
      isDecimal e = true ∨ e = '-' ∨ e = ':' := by
    intro e more heq
    cases ds with
    | nil =>
      obtain rfl : c = e := (List.cons.inj (List.cons.inj heq).2).1
      exact .inr hc
    | cons f ds =>
      obtain rfl : f = e := (List.cons.inj (List.cons.inj heq).2).1
      exact .inl (hds f List.mem_cons_self)
  unfold integer?
  split
  · rename_i heq
    exact absurd (hsecond heq) (by decide)
  · rename_i heq
    exact absurd (hsecond heq) (by decide)
  · rename_i heq
    exact absurd (hsecond heq) (by decide)
  · have hnone : wholeDigits? (d :: ds ++ c :: rest) = none :=
      wholeDigits?_eq_none (by simp) hc
    rw [hsigned]
    dsimp only
    rw [hnone]
    rfl

theorem Dated.float?_eq_none (h : Dated cs) : float? cs = none := by
  have hsigned := h.signed_eq
  obtain ⟨d, ds, c, rest, rfl, hd, hds, hc⟩ := h
  have hall : ∀ e ∈ d :: ds ++ [c], isDecimal e = true ∨ e = '-' ∨ e = ':' := by
    intro e he
    rcases List.mem_append.1 he with he | he
    · rcases List.mem_cons.1 he with rfl | he
      · exact .inl hd
      · exact .inl (hds e he)
    · obtain rfl : e = c := by simpa using he
      exact .inr hc
  have hword : ∀ e : Char, e = 'i' ∨ e = 'n' → ¬(isDecimal e = true) := by
    rintro e (rfl | rfl) <;> decide
  -- neither the exponent nor the fraction starts before the dash or the colon
  have hcut : ∀ p : Char → Bool, (∀ e, isDecimal e = true ∨ e = '-' ∨ e = ':' → p e = false) →
      ∀ more, ∃ more', (cutAt p (d :: ds ++ c :: more)).1 = d :: ds ++ c :: more' := by
    intro p hp more
    have : (cutAt p (d :: ds ++ [c] ++ more)).1 = d :: ds ++ [c] ++ (cutAt p more).1 :=
      cutAt_append fun e he => hp e (hall e he)
    exact ⟨(cutAt p more).1, by simpa using this⟩
  have hpower : ∀ e, isDecimal e = true ∨ e = '-' ∨ e = ':' →
      (decide (e = 'e') || decide (e = 'E')) = false := by
    intro e he
    simp only [Bool.or_eq_false_iff, decide_eq_false_iff_not]
    constructor <;> rintro rfl <;> exact absurd he (by decide)
  have hpoint : ∀ e, isDecimal e = true ∨ e = '-' ∨ e = ':' → decide (e = '.') = false := by
    intro e he
    simp only [decide_eq_false_iff_not]
    rintro rfl
    exact absurd he (by decide)
  have hinf : d :: ds ++ c :: rest ≠ "inf".toList := fun heq =>
    hword d (.inl (List.cons.inj heq).1) hd
  have hnan : d :: ds ++ c :: rest ≠ "nan".toList := fun heq =>
    hword d (.inr (List.cons.inj heq).1) hd
  unfold float?
  rw [hsigned]
  dsimp only
  rw [if_neg hinf, if_neg hnan]
  generalize hmantissa : cutAt (fun c => c = 'e' || c = 'E') (d :: ds ++ c :: rest) = cut
  obtain ⟨mantissa, power⟩ := cut
  obtain ⟨more, hmore⟩ := hcut _ hpower rest
  rw [hmantissa] at hmore
  dsimp only at hmore ⊢
  generalize hwhole : cutAt (· = '.') mantissa = cut
  obtain ⟨whole, fraction⟩ := cut
  obtain ⟨more', hmore'⟩ := hcut _ hpoint more
  rw [← hmore, hwhole] at hmore'
  dsimp only at hmore'
  rw [hmore', wholeDigits?_eq_none (by simp) hc]
  rfl

/-- What starts with digits and a dash or a colon is no number. -/
theorem Dated.number?_eq_none (h : Dated cs) : number? cs = none := by
  rw [number?, h.integer?_eq_none, h.float?_eq_none]

theorem of_mapM_eq_some {α β : Type} {f : α → Option β} {xs : List α} {ys : List β}
    (h : xs.mapM f = some ys) : ys.length = xs.length ∧ ∀ x ∈ xs, (f x).isSome = true := by
  induction xs generalizing ys with
  | nil =>
    obtain rfl : ys = [] := by simpa [eq_comm] using h
    simp
  | cons x xs ih =>
    rw [List.mapM_cons] at h
    obtain ⟨y, hy, h⟩ := Option.bind_eq_some_iff.1 h
    obtain ⟨ys', hys, h⟩ := Option.bind_eq_some_iff.1 h
    obtain rfl := Option.some.inj h
    obtain ⟨hlength, hall⟩ := ih hys
    exact ⟨by simp [hlength], List.forall_mem_cons.2 ⟨by simp [hy], hall⟩⟩

theorem of_fixedDigits? {n x : Nat} (hn : 0 < n) (h : fixedDigits? n cs = some (x, rest)) :
    ∃ d ds, cs = d :: ds ++ rest ∧ isDecimal d = true ∧ ∀ c ∈ ds, isDecimal c = true := by
  obtain ⟨values, hvalues, h⟩ := Option.bind_eq_some_iff.1 h
  obtain ⟨hlength, hall⟩ := of_mapM_eq_some hvalues
  split at h
  · simp at h
  · rename_i hlong
    obtain ⟨rfl, rfl⟩ := Prod.mk.inj (Option.some.inj h)
    cases htake : cs.take n with
    | nil =>
      rw [htake, List.length_nil] at hlength
      omega
    | cons d ds =>
      rw [htake] at hall
      refine ⟨d, ds, ?_, hall d List.mem_cons_self, fun c hc => hall c (List.mem_cons_of_mem _ hc)⟩
      rw [← htake, List.take_append_drop]

theorem dated_of_afterDate? (h : afterDate? cs = some rest) : Dated cs := by
  obtain ⟨⟨year, left⟩, hyear, h⟩ := Option.bind_eq_some_iff.1 h
  obtain ⟨left', hdash, h⟩ := Option.bind_eq_some_iff.1 h
  obtain ⟨d, ds, rfl, hd, hds⟩ := of_fixedDigits? (by decide) hyear
  obtain rfl := eq_of_after? hdash
  exact ⟨d, ds, '-', left', rfl, hd, hds, .inl rfl⟩

theorem dated_of_afterTime? (h : afterTime? cs = some rest) : Dated cs := by
  obtain ⟨left, hminutes, -⟩ := Option.bind_eq_some_iff.1 h
  obtain ⟨⟨hour, left⟩, hhour, h⟩ := Option.bind_eq_some_iff.1 hminutes
  obtain ⟨left', hcolon, -⟩ := Option.bind_eq_some_iff.1 h
  obtain ⟨d, ds, rfl, hd, hds⟩ := of_fixedDigits? (by decide) hhour
  obtain rfl := eq_of_after? hcolon
  exact ⟨d, ds, ':', left', rfl, hd, hds, .inr rfl⟩

/-- A date or a time starts with digits and a dash or a colon. -/
theorem dated_of_isMoment (h : isMoment cs = true) : Dated cs := by
  unfold isMoment at h
  split at h
  · rename_i hdate
    exact dated_of_afterDate? hdate
  · rename_i hdate
    exact dated_of_afterDate? hdate
  · exact dated_of_afterTime? (of_decide_eq_true h)

theorem scalarOfRun?_free {v : Scalar} (h : scalarOfRun? .oneLine cs = some v) :
    scalarOfRun? .free cs = some v := by
  unfold scalarOfRun? at h ⊢
  cases hboolean : boolean? cs with
  | some b => rwa [hboolean] at h
  | none =>
    rw [hboolean] at h
    cases hnumber : number? cs with
    | none => rwa [hnumber] at h
    | some x =>
      rw [hnumber] at h
      have hmoment : isMoment cs = false := by
        cases hm : isMoment cs with
        | false => rfl
        | true =>
          rw [(dated_of_isMoment hm).number?_eq_none] at hnumber
          simp at hnumber
      have haccepts : Layout.accepts .free x = true := by cases x <;> rfl
      cases hx : Layout.accepts .oneLine x <;> simp_all

theorem scalar?_free {node : Node} (h : scalar? .oneLine cs = some (node, rest)) :
    scalar? .free cs = some (node, rest) := by
  unfold scalar? at h ⊢
  split at h
  · exact h
  · exact h
  · generalize run cs = taken at h
    obtain ⟨spelling, left⟩ := taken
    obtain ⟨v, hv, h⟩ := Option.bind_eq_some_iff.1 h
    dsimp only
    rw [scalarOfRun?_free hv]
    exact h

/-! ### Values -/

/-- Blanks in front of another token are a gap in the free layout. -/
theorem gap?_of_blanks? {g : List Char} (h : blanks? cs = some (g, rest))
    (hrest : Stops isGap rest) : gap? cs = some (g, rest) := by
  obtain ⟨hg, -, rfl⟩ := of_spaces_eq (Option.some.inj h)
  clear h
  induction g with
  | nil =>
    cases rest with
    | nil => rfl
    | cons c rest =>
      have hc := hrest c rfl
      simp only [isGap, Bool.or_eq_false_iff, decide_eq_false_iff_not] at hc
      obtain ⟨⟨⟨hspace, hbreak⟩, hreturn⟩, hcomment⟩ := hc
      rw [List.nil_append, gap?, gapFrom?]
      · simp [hspace, hcomment]
      · exact hbreak
      · exact hreturn
  | cons c g ih =>
    have hc := hg c List.mem_cons_self
    have hmore := ih fun d hd => hg d (List.mem_cons_of_mem _ hd)
    rw [gap?] at hmore
    rw [List.cons_append, gap?, gapFrom?]
    · rw [if_pos hc, hmore]
      rfl
    · rintro rfl
      exact absurd hc (by decide)
    · rintro rfl
      exact absurd hc (by decide)

section Elements

variable {α : Type} {gap gap' : Reader (List Char)} {element element' : Reader α} {close : Char}

/-- One reader of elements follows another one that reads fewer lists. -/
theorem elements?_mono
    (hnil : ∀ {cs g rest}, gap cs = some (g, close :: rest) → gap' cs = some (g, close :: rest))
    (hgap : ∀ {cs x rest}, element' cs = some (x, rest) →
      ∃ g r, gap' cs = some (g, r) ∧ r.head? ≠ some close)
    (helement : ∀ {cs x c rest}, element cs = some (x, c :: rest) → c = ',' ∨ c = close →
      element' cs = some (x, c :: rest))
    {n : Nat} {r : (List α × Bool × List Char) × List Char}
    (h : elements? close gap element n cs = some r) :
    elements? close gap' element' n cs = some r := by
  induction n generalizing cs r with
  | zero => simp [elements?] at h
  | succ n ih =>
    rw [elements?] at h ⊢
    obtain ⟨⟨g, left⟩, hg, h⟩ := Option.bind_eq_some_iff.1 h
    dsimp only at h
    split at h
    · rename_i hhead
      obtain ⟨left, rfl⟩ := List.head?_eq_some_iff.1 hhead
      rw [hnil hg]
      simpa using h
    · obtain ⟨⟨x, after⟩, hx, h⟩ := Option.bind_eq_some_iff.1 h
      dsimp only at h
      split at h
      · have hx' := helement hx (.inl rfl)
        obtain ⟨g', left', hg', hr⟩ := hgap hx'
        obtain ⟨⟨ys, rest'⟩, hys, h⟩ := Option.bind_eq_some_iff.1 h
        have hys' := ih hys
        simp only [hg', hr, hx', hys', Option.bind_eq_bind, Option.bind_some, if_false]
        exact h
      · split at h
        · rename_i c behind hc hclose
          have hx' := helement hx (.inr hclose)
          obtain ⟨g', left', hg', hr⟩ := hgap hx'
          simp only [hg', hr, hx', Option.bind_eq_bind, Option.bind_some, if_false]
          rw [if_pos hclose]
          exact h
        · simp at h
      · simp at h

end Elements

theorem spaced?_eq {before after : Reader (List Char)} {value : Reader Node} {s : Spaced Node}
    {left behind : List Char} (hbefore : before cs = some (s.before, left))
    (hvalue : value left = some (s.value, behind)) (hafter : after behind = some (s.after, rest)) :
    spaced? before after value cs = some (s, rest) := by
  rw [spaced?]
  simp only [hbefore, hvalue, hafter, Option.bind_eq_bind, Option.bind_some]

/-- The key of a field is read in the free layout. -/
theorem keyed?_free {k : Key} (h : keyed? blanks? cs = some (k, rest)) :
    keyed? gap? cs = some (k, rest) := by
  obtain ⟨-, -, g, left, hg, c, text, rfl, hc⟩ := spells_keyed? gaps_blanks? h
  have hg' : gap? cs = some (g, c :: text) := gap?_of_blanks? hg fun d hd => by
    obtain rfl : c = d := by simpa using hd
    exact not_isGap_of_isNameStart hc
  have hsame : keyed? gap? cs = keyed? blanks? cs := by
    rw [keyed?, keyed?, hg, hg']
  rw [hsame]
  exact h

variable {depth : Nat}

/-- A field is read in the free layout if a comma or a closing bracket follows. -/
theorem field?_free {f : Key × Spaced Node} {c : Char}
    (ih : ∀ {cs node rest}, node? .oneLine depth cs = some (node, rest) →
      node? .free depth cs = some (node, rest))
    (h : field? .oneLine (node? .oneLine depth) cs = some (f, c :: rest)) (hc : isGap c = false) :
    field? .free (node? .free depth) cs = some (f, c :: rest) := by
  rw [field?_eq] at h ⊢
  obtain ⟨⟨key, left⟩, hkey, h⟩ := Option.bind_eq_some_iff.1 h
  obtain ⟨⟨s, left'⟩, hs, h⟩ := Option.map_eq_some_iff.1 h
  obtain ⟨rfl, rfl⟩ := Prod.mk.inj h
  obtain ⟨left₁, left₂, hb, hnode, ha⟩ := exists_of_spaced? hs
  have ha' : Layout.gap? .free left₂ = some (s.after, c :: rest) :=
    gap?_of_blanks? ha fun d hd => by
      obtain rfl : c = d := by simpa using hd
      exact hc
  have hs' := spaced?_eq hb (ih hnode) ha'
  have hkey' : keyed? (Layout.gap? .free) cs = some (key, left) := keyed?_free hkey
  simp only [hkey', hs', Option.bind_some, Option.map_some]

/-- **The free layout reads every value that the strict one reads.** -/
theorem node?_free {node : Node} (h : node? .oneLine depth cs = some (node, rest)) :
    node? .free depth cs = some (node, rest) := by
  induction depth generalizing cs node rest with
  | zero => exact scalar?_free h
  | succ depth ih =>
    rw [node?] at h ⊢
    dsimp only at h ⊢
    split at h
    · obtain ⟨⟨⟨items, comma, tail⟩, left⟩, hitems, h⟩ := Option.bind_eq_some_iff.1 h
      have hitems' : elements? ']' gap? (spaced? gap? gap? (node? .free depth)) _ _ = _ :=
        elements?_mono id exists_gap_of_item?
          (fun hx _ => by
            obtain ⟨left₁, left₂, hb, hnode, ha⟩ := exists_of_spaced? hx
            exact spaced?_eq hb (ih hnode) ha) hitems
      simp only [hitems', Option.bind_eq_bind, Option.bind_some]
      exact h
    · obtain ⟨⟨⟨fields, comma, tail⟩, left⟩, hfields, h⟩ := Option.bind_eq_some_iff.1 h
      have hfields' :
          elements? '}' (Layout.gap? .free) (field? .free (node? .free depth)) _ _ = _ :=
        elements?_mono
          (fun hg => gap?_of_blanks? hg fun d hd => by
            obtain rfl : '}' = d := by simpa using hd
            decide)
          exists_gap_of_field?
          (fun hx hc => field?_free ih hx (by rcases hc with rfl | rfl <;> decide)) hfields
      simp only [hfields', Option.bind_eq_bind, Option.bind_some]
      dsimp only at h
      split at h
      · simp at h
      · simpa using h
    · exact scalar?_free h

/-! ### Documents -/

theorem entryLine?_free {lead : List Char} {e : Line × List Char}
    (h : entryLine? .oneLine lead cs = some e) : entryLine? .free lead cs = some e := by
  obtain ⟨⟨key, left⟩, hkey, h⟩ := Option.bind_eq_some_iff.1 h
  obtain ⟨left', hequals, h⟩ := Option.bind_eq_some_iff.1 h
  obtain ⟨⟨s, left''⟩, hs, h⟩ := Option.bind_eq_some_iff.1 h
  obtain ⟨left₁, left₂, hb, hnode, ha⟩ := exists_of_spaced? hs
  have hs' : spaced? blanks? lineEnd? (node? .free maxDepth) left' = some (s, left'') :=
    spaced?_eq hb (node?_free hnode) ha
  rw [entryLine?]
  simp only [hkey, hequals, hs', Option.bind_eq_bind, Option.bind_some]
  exact h

theorem lines?_free {n : Nat} {e : List Line × List Char} (h : lines? .oneLine n cs = some e) :
    lines? .free n cs = some e := by
  induction n generalizing cs e with
  | zero => simp [lines?] at h
  | succ n ih =>
    rw [lines?] at h ⊢
    obtain ⟨⟨lead, left⟩, hgap, h⟩ := Option.bind_eq_some_iff.1 h
    simp only [hgap, Option.bind_eq_bind, Option.bind_some]
    dsimp only at h
    split at h
    · exact h
    · obtain ⟨⟨line, left'⟩, hline, h⟩ := Option.bind_eq_some_iff.1 h
      obtain ⟨⟨lines, tail⟩, hlines, h⟩ := Option.bind_eq_some_iff.1 h
      simp only [hline, ih hlines, Option.bind_some]
      exact h
    · obtain ⟨⟨line, left'⟩, hline, h⟩ := Option.bind_eq_some_iff.1 h
      obtain ⟨⟨lines, tail⟩, hlines, h⟩ := Option.bind_eq_some_iff.1 h
      simp only [entryLine?_free hline, ih hlines, Option.bind_some]
      exact h

/-- **The free layout reads every document that the strict one reads**, and as the same one. -/
theorem ofText?_free {d : Document} (h : Document.ofText? .oneLine cs = some d) :
    Document.ofText? .free cs = some d := by
  obtain ⟨⟨lines, tail⟩, hlines, h⟩ := Option.bind_eq_some_iff.1 h
  rw [Document.ofText?]
  simp only [lines?_free hlines, Option.bind_eq_bind, Option.bind_some]
  exact h

end Toml
end LintWorkspace
