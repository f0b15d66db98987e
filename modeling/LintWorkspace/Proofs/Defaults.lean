/-
# Parameters with default values

A parameter `T n = d` is to be found under its name whatever its default is.  The scan does not
know what a default is, and two things in one disturb it:

| default | what happens |
| --- | --- |
| `a > b`, `v => v` | a bracket seems to be closed, and the comma behind the default cuts nothing |
| `"host:port"`, `x ? y : z` | the colon seems to end a name, and `host`, `y` is found |

The first is harmless exactly if as many brackets are opened in each default but the last as are
closed.  The second is harmless exactly if no name stands before the colon.
-/

import LintWorkspace.Proofs.Names
import LintWorkspace.Proofs.Pieces

namespace LintWorkspace
namespace Diagnostic

open Text (isBlank)
open Unicode (isWord)

variable {cs u v rest decl : List Char} {pieces : List (List Char)} {depth : Int}

/-! ### Texts that are not cut -/

/-- A list of pieces with more at the start of the first one. -/
def glue (cs : List Char) : List (List Char) → List (List Char)
  | [] => [cs]
  | piece :: pieces => (cs ++ piece) :: pieces

theorem glue_nil (h : pieces ≠ []) : glue [] pieces = pieces := by
  cases pieces with
  | nil => exact absurd rfl h
  | cons piece pieces => rfl

theorem glue_append (u v : List Char) (pieces : List (List Char)) :
    glue (u ++ v) pieces = glue u (glue v pieces) := by
  cases pieces with
  | nil => rfl
  | cons piece pieces => rw [glue, glue, glue, List.append_assoc]

theorem splitParams_ne_nil (depth : Int) (cs : List Char) : splitParams depth cs ≠ [] :=
  (isSplit_splitParams depth cs).ne_nil

theorem splitParams_cons {c : Char} (hc : ¬(c = ',' ∧ depth = 0)) :
    splitParams depth (c :: cs) = glue [c] (splitParams (height [c] + depth) cs) := by
  obtain ⟨piece, pieces, hpieces⟩ :=
    List.exists_cons_of_ne_nil (splitParams_ne_nil (height [c] + depth) cs)
  rw [splitParams_other hc hpieces, hpieces]
  rfl

/-- A text without commas is not cut. -/
theorem splitParams_of_no_comma (hcs : ∀ c ∈ cs, c ≠ ',') (depth : Int) (rest : List Char) :
    splitParams depth (cs ++ rest) = glue cs (splitParams (height cs + depth) rest) := by
  induction cs generalizing depth with
  | nil => rw [height_nil, Int.zero_add, glue_nil (splitParams_ne_nil depth rest), List.nil_append]
  | cons c cs ih =>
    obtain ⟨hc, hcs⟩ := List.forall_mem_cons.1 hcs
    rw [List.cons_append, splitParams_cons fun h => hc h.1, ih hcs, ← glue_append, height_cons c cs,
      List.singleton_append]
    congr 2
    omega

/-- A text whose brackets `<` and `[` are nested, with commas between them only, or anywhere if
it stands between brackets itself. -/
inductive Nested : Bool → List Char → Prop
  | nil {inside : Bool} : Nested inside []
  | cons {inside : Bool} {c : Char} {cs : List Char} (hc : c ∉ ['<', '>', '[', ']'])
    (hcomma : c = ',' → inside = true) (h : Nested inside cs) : Nested inside (c :: cs)
  | angle {inside : Bool} {u v : List Char} (hu : Nested true u) (hv : Nested inside v) :
    Nested inside ('<' :: (u ++ '>' :: v))
  | square {inside : Bool} {u v : List Char} (hu : Nested true u) (hv : Nested inside v) :
    Nested inside ('[' :: (u ++ ']' :: v))

/-- Before nested brackets any other characters may stand. -/
theorem Nested.append {inside : Bool} (hcs : ∀ c ∈ cs, c ∉ ['<', '>', '[', ']'] ∧
    (c = ',' → inside = true)) (h : Nested inside rest) : Nested inside (cs ++ rest) := by
  induction cs with
  | nil => exact h
  | cons c cs ih =>
    obtain ⟨hc, hcs⟩ := List.forall_mem_cons.1 hcs
    exact .cons hc.1 hc.2 (ih hcs)

theorem nested_of_plain {inside : Bool} (hcs : ∀ c ∈ cs, c ∉ ['<', '>', '[', ']'] ∧
    (c = ',' → inside = true)) : Nested inside cs := by
  rw [← List.append_nil cs]
  exact .append hcs .nil

/-- Brackets around a text that is not cut between them. -/
theorem splitParams_enclosed {left right : Char} (hleft : left ≠ ',') (hright : right ≠ ',')
    (hopen : height [left] = 1) (hclose : height [right] = -1)
    (hu : ∀ rest, splitParams (depth + 1) (u ++ rest) = glue u (splitParams (depth + 1) rest))
    (hv : splitParams depth (v ++ rest) = glue v (splitParams depth rest)) :
    splitParams depth (left :: (u ++ right :: v) ++ rest) =
      glue (left :: (u ++ right :: v)) (splitParams depth rest) := by
  have hin : height [left] + depth = depth + 1 := by omega
  have hout : height [right] + (depth + 1) = depth := by omega
  have htext : left :: (u ++ right :: v) = [left] ++ (u ++ ([right] ++ v)) := rfl
  rw [List.cons_append, List.append_assoc, List.cons_append, splitParams_cons fun h => hleft h.1,
    hin, hu, splitParams_cons fun h => hright h.1, hout, hv, htext]
  simp only [glue_append]

/-- **Nested brackets are not cut into.** -/
theorem Nested.splitParams_append {inside : Bool} (h : Nested inside cs) (hdepth : 0 ≤ depth)
    (hinside : inside = true → depth ≠ 0) (rest : List Char) :
    splitParams depth (cs ++ rest) = glue cs (splitParams depth rest) := by
  induction h generalizing depth rest with
  | nil => rw [List.nil_append, glue_nil (splitParams_ne_nil depth rest)]
  | @cons inside c cs hc hcomma _ ih =>
    simp only [List.mem_cons, List.not_mem_nil, or_false, not_or] at hc
    have hheight : height [c] = 0 := by
      rw [height_singleton, if_neg (by tauto), if_neg (by tauto)]
    have hstay : ¬(c = ',' ∧ depth = 0) := fun h => hinside (hcomma h.1) h.2
    rw [List.cons_append, splitParams_cons hstay, hheight, Int.zero_add, ih hdepth hinside,
      ← glue_append, List.singleton_append]
  | angle _ _ ihu ihv =>
    exact splitParams_enclosed (by decide) (by decide) (by decide) (by decide)
      (ihu (by omega) fun _ => by omega) (ihv hdepth hinside rest)
  | square _ _ ihu ihv =>
    exact splitParams_enclosed (by decide) (by decide) (by decide) (by decide)
      (ihu (by omega) fun _ => by omega) (ihv hdepth hinside rest)

/-! ### Parameters -/

/-- A parameter as it is written: its type, its name, and perhaps a default behind an `=`, which
stands a few blanks behind the name. -/
structure Param where
  type : List Char
  name : List Char
  gap : List Char
  default? : Option (List Char)

namespace Param

/-- What stands behind the name. -/
def assigned (p : Param) : List Char :=
  match p.default? with
  | none => []
  | some d => p.gap ++ '=' :: d

/-- The text of a parameter. -/
def text (p : Param) : List Char := p.type ++ (p.name ++ p.assigned)

/-- The name where it is declared. -/
def hit (p : Param) : Hit := ⟨p.type.length, p.name⟩

/-- A parameter list of types, ASCII names and defaults without commas and parentheses. -/
structure WellFormed (p : Param) : Prop where
  type : ∀ c ∈ p.type, c ≠ ':' ∧ c ≠ '='
  nested : Nested false p.type
  boundary : p.type.getLast?.any isWord = false
  name : ∃ c tail, p.name = c :: tail ∧ isNameStart c = true ∧
    ∀ d ∈ tail, isNameStart d = true ∨ d.isDigit = true
  gap : ∀ c ∈ p.gap, isBlank c = true
  default : ∀ d ∈ p.default?, ∀ c ∈ d, c ≠ ',' ∧ c ≠ '(' ∧ c ≠ ')'

/-- How many more brackets are opened in the default than closed. -/
def excess (p : Param) : Int :=
  match p.default? with
  | none => 0
  | some d => height d

/-- The default has no colon that stands alone; or no name but `mut` and `ref` stands before its
first one, and the declared name is none of these. -/
def Harmless (p : Param) : Prop := ∀ d ∈ p.default?, ∀ decl, IsDecl d decl →
  (∀ h ∈ names decl, h.text = "mut".toList ∨ h.text = "ref".toList) ∧
    ¬(p.name = "mut".toList ∨ p.name = "ref".toList)

end Param

/-- The text of a parameter list. -/
def paramsText (ps : List Param) : List Char := [','].intercalate (ps.map Param.text)

/-! ### Characters of names and gaps -/

/-- The characters that the scan of a parameter list looks at. -/
def marks : List Char := [',', '<', '>', '[', ']', ':', '=']

theorem not_mem_of_holds {p : Char → Bool} {l : List Char} {c : Char}
    (hl : l.all (fun c => !p c) = true) (hc : p c = true) : c ∉ l := fun hmem => by
  have := List.all_eq_true.1 hl c hmem
  simp [hc] at this

theorem forall_mem_of_all {P : Char → Prop} [DecidablePred P]
    (h : (cs.all fun c => decide (P c)) = true) : ∀ c ∈ cs, P c := fun c hc =>
  of_decide_eq_true (List.all_eq_true.1 h c hc)

theorem isWord_of_isDigit {c : Char} (h : c.isDigit = true) : isWord c = true := by
  have hall : ∀ n < 10, isWord (Char.ofNat (48 + n)) = true := by decide +kernel
  simp only [Char.isDigit, Bool.and_eq_true, decide_eq_true_eq, UInt32.le_iff_toNat_le,
    ge_iff_le] at h
  have hlow : 48 ≤ c.toNat := h.1
  have hhigh : c.toNat ≤ 57 := h.2
  have := hall (c.toNat - 48) (by omega)
  rwa [Nat.add_sub_cancel' hlow, Char.ofNat_toNat] at this

theorem height_eq_zero (hcs : ∀ c ∈ cs, c ∉ marks) : height cs = 0 := by
  induction cs with
  | nil => rfl
  | cons c cs ih =>
    obtain ⟨hc, hcs⟩ := List.forall_mem_cons.1 hcs
    simp only [marks, List.mem_cons, List.not_mem_nil, or_false, not_or] at hc
    rw [height_cons, ih hcs, height_singleton, if_neg (by tauto), if_neg (by tauto), Int.add_zero]

namespace Param

variable {p : Param}

theorem WellFormed.name_not_mem (hp : p.WellFormed) : ∀ c ∈ p.name, c ∉ marks := by
  obtain ⟨c, tail, hname, hstart, htail⟩ := hp.name
  have hchar : ∀ d : Char, isNameStart d = true ∨ d.isDigit = true → d ∉ marks := fun d hd =>
    hd.elim (not_mem_of_holds (by decide)) (not_mem_of_holds (by decide))
  rw [hname]
  exact List.forall_mem_cons.2 ⟨hchar c (.inl hstart), fun d hd => hchar d (htail d hd)⟩

theorem WellFormed.gap_not_mem (hp : p.WellFormed) : ∀ c ∈ p.gap, c ∉ marks := fun c hc =>
  not_mem_of_holds (by decide) (hp.gap c hc)

/-- No comma stands behind the type. -/
theorem WellFormed.no_comma (hp : p.WellFormed) : ∀ c ∈ p.name ++ p.assigned, c ≠ ',' := by
  have hmarks : ∀ c : Char, c ∉ marks → c ≠ ',' := fun c hc heq => hc (heq ▸ by decide)
  rintro c hc
  rcases List.mem_append.1 hc with hc | hc
  · exact hmarks c (hp.name_not_mem c hc)
  · rw [assigned] at hc
    split at hc
    · simp at hc
    · rename_i d hd
      rcases List.mem_append.1 hc with hc | hc
      · exact hmarks c (hp.gap_not_mem c hc)
      · rcases List.mem_cons.1 hc with rfl | hc
        · decide
        · exact (hp.default d hd c hc).1

/-- Brackets are opened and closed behind the type in the default only. -/
theorem WellFormed.height_eq (hp : p.WellFormed) : height (p.name ++ p.assigned) = p.excess := by
  have hequals : height ['='] = 0 := by decide
  rw [height_append, height_eq_zero hp.name_not_mem, assigned, excess]
  split
  · rfl
  · rw [height_append, height_eq_zero hp.gap_not_mem, height_cons, hequals]
    omega

/-- A parameter is not cut, and only its default opens or closes what follows. -/
theorem WellFormed.splitParams_append (hp : p.WellFormed) (rest : List Char) :
    splitParams 0 (p.text ++ rest) = glue p.text (splitParams p.excess rest) := by
  rw [text, List.append_assoc,
    hp.nested.splitParams_append (Int.le_refl 0) (fun h => absurd h Bool.false_ne_true),
    splitParams_of_no_comma hp.no_comma, hp.height_eq, Int.add_zero, ← glue_append]

end Param

/-- **A list is cut into its parameters** exactly if every default but the last closes as many
brackets as it opens. -/
theorem splitParams_paramsText_iff {ps : List Param} (hne : ps ≠ [])
    (hps : ∀ p ∈ ps, p.WellFormed) :
    splitParams 0 (paramsText ps) = ps.map Param.text ↔ ∀ p ∈ ps.dropLast, p.excess = 0 := by
  induction ps with
  | nil => exact absurd rfl hne
  | cons p ps ih =>
    obtain ⟨hp, hps⟩ := List.forall_mem_cons.1 hps
    cases ps with
    | nil =>
      have htext : paramsText [p] = p.text ++ [] := by
        rw [List.append_nil]
        exact List.intercalate_singleton
      rw [htext, hp.splitParams_append]
      simp [splitParams, glue]
    | cons q ps =>
      have htext : paramsText (p :: q :: ps) = p.text ++ ',' :: paramsText (q :: ps) := rfl
      rw [htext, hp.splitParams_append, List.dropLast_cons_cons, List.forall_mem_cons,
        List.map_cons, ← ih (List.cons_ne_nil q ps) hps]
      by_cases hexcess : p.excess = 0
      · rw [hexcess, splitParams_comma, glue, List.append_nil, List.cons.injEq]
        simp
      · refine iff_of_false (fun heq => ?_) fun h => hexcess h.1
        rw [splitParams_cons fun h => hexcess h.2, ← glue_append] at heq
        obtain ⟨piece, pieces, hpieces⟩ := List.exists_cons_of_ne_nil
          (splitParams_ne_nil (height [','] + p.excess) (paramsText (q :: ps)))
        rw [hpieces] at heq
        -- the first piece goes on behind the comma
        have hlength := congrArg List.length (List.cons.inj heq).1
        simp only [List.length_append, List.length_singleton] at hlength
        omega

/-! ### The declared name -/

/-- What has no colon does not change where the first one stands. -/
theorem beforeColon?_append (hu : ∀ c ∈ u, c ≠ ':') (v : List Char) :
    beforeColon? false (u ++ v) = (beforeColon? false v).map (u ++ ·) := by
  induction u with
  | nil => simp
  | cons c u ih =>
    obtain ⟨hc, hu⟩ := List.forall_mem_cons.1 hu
    rw [List.cons_append, beforeColon?, if_neg fun h => hc h.1, decide_eq_false hc, ih hu,
      Option.map_map]
    rfl

/-- An element is the last one kept exactly if it is kept and none behind it is. -/
theorem getLast?_filter_iff {α : Type} {p : α → Bool} {front back : List α} {a : α}
    (hback : a ∉ back) :
    ((front ++ a :: back).filter p).getLast? = some a ↔
      (∀ b ∈ back, p b = false) ∧ p a = true := by
  constructor
  · intro hlast
    have hkept : p a = true := (List.mem_filter.1 (List.mem_of_getLast? hlast)).2
    refine ⟨fun b hb => Bool.eq_false_iff.2 fun hpb => ?_, hkept⟩
    -- the last one kept would be one behind
    rcases List.eq_nil_or_concat' (back.filter p) with hnil | ⟨init, last, hconcat⟩
    · exact List.filter_eq_nil_iff.1 hnil b hb hpb
    · have hmem : last ∈ back.filter p := by simp [hconcat]
      rw [List.filter_append, List.filter_cons_of_pos hkept, hconcat, ← List.cons_append,
        ← List.append_assoc, List.getLast?_concat] at hlast
      exact hback (Option.some.inj hlast ▸ (List.mem_filter.1 hmem).1)
  · rintro ⟨hnone, hkept⟩
    have hnil : back.filter p = [] := List.filter_eq_nil_iff.2 fun b hb => by simp [hnone b hb]
    rw [List.filter_append, List.filter_cons_of_pos hkept, hnil, List.getLast?_concat]

namespace Param

variable {p : Param}

/-- The names in a parameter are those of its type, its own, and those behind it. -/
theorem WellFormed.names_eq (hp : p.WellFormed) (hrest : rest.head?.any isWord = false) :
    names (p.type ++ (p.name ++ rest)) = names p.type ++ p.hit :: (names rest).map fun h =>
      ⟨p.type.length + (p.name.length + h.offset), h.text⟩ := by
  obtain ⟨c, tail, hname, hstart, htail⟩ := hp.name
  have hword : ∀ d ∈ tail, isWord d = true := fun d hd =>
    (htail d hd).elim isWord_of_isNameStart isWord_of_isDigit
  have hown : names p.name = [⟨0, p.name⟩] := by
    rw [hname]
    exact names_word hstart hword
  rw [names_append (.inl hp.boundary), names_append (.inr hrest), hown, List.singleton_append,
    List.map_cons, List.map_map]
  rfl

theorem WellFormed.not_isNameStart_of_mem_gap (hp : p.WellFormed) :
    ∀ c ∈ p.gap, isNameStart c = false := by
  refine fun c hc => Bool.eq_false_iff.2 fun hstart => ?_
  have := not_isWord_of_isBlank (hp.gap c hc)
  rw [isWord_of_isNameStart hstart] at this
  simp at this

/-- No name stands between the name and the default. -/
theorem WellFormed.names_gap (hp : p.WellFormed) (cs : List Char) :
    (names (p.gap ++ '=' :: cs)).map Hit.text = (names cs).map Hit.text := by
  have hequals : isWord '=' = false := by decide +kernel
  have hplain : ∀ c ∈ p.gap ++ ['='], isNameStart c = false := by
    intro c hc
    rcases List.mem_append.1 hc with hc | hc
    · exact hp.not_isNameStart_of_mem_gap c hc
    · rw [List.mem_singleton.1 hc]
      decide
  have hlast : (p.gap ++ ['=']).getLast?.any isWord = false := by
    rw [List.getLast?_concat]
    exact hequals
  rw [← List.singleton_append, ← List.append_assoc, names_append (.inl hlast), names_eq_nil hplain,
    List.nil_append, List.map_map]
  rfl

/-- No word goes on behind the name. -/
theorem WellFormed.head?_gap (hp : p.WellFormed) (hcs : cs.head?.any isWord = false) :
    (p.gap ++ cs).head?.any isWord = false := by
  cases hgap : p.gap with
  | nil => exact hcs
  | cons b gap => exact not_isWord_of_isBlank (hp.gap b (by simp [hgap]))

/-- Up to its default a parameter has neither a colon nor an `=`. -/
theorem WellFormed.plain (hp : p.WellFormed) :
    ∀ c ∈ p.type ++ (p.name ++ p.gap), c ≠ ':' ∧ c ≠ '=' := by
  have hmarks : ∀ c : Char, c ∉ marks → c ≠ ':' ∧ c ≠ '=' := fun c hc =>
    ⟨fun heq => hc (heq ▸ by decide), fun heq => hc (heq ▸ by decide)⟩
  intro c hc
  simp only [List.mem_append] at hc
  rcases hc with hc | hc | hc
  · exact hp.type c hc
  · exact hmarks c (hp.name_not_mem c hc)
  · exact hmarks c (hp.gap_not_mem c hc)

/-- Without a colon that stands alone the name is found. -/
theorem WellFormed.declaredName?_of_none (hp : p.WellFormed)
    (hnone : beforeColon? false p.text = none) : declaredName? p.text = some p.hit := by
  have hname : ∀ rest, names rest = [] → rest.head?.any isWord = false →
      (names (p.type ++ (p.name ++ rest))).getLast? = some p.hit := fun rest hnil hrest => by
    rw [hp.names_eq hrest, hnil]
    exact List.getLast?_concat
  have hequals : ∀ c ∈ p.type ++ (p.name ++ p.gap), decide (c ≠ '=') = true := fun c hc =>
    decide_eq_true (hp.plain c hc).2
  simp only [declaredName?, hnone]
  rw [text, assigned]
  split
  · have htake : (p.type ++ (p.name ++ [])).takeWhile (fun c => decide (c ≠ '=')) =
        p.type ++ (p.name ++ []) := by
      refine List.takeWhile_eq_self_iff.2 fun c hc => hequals c ?_
      rw [List.append_nil] at hc
      rw [← List.append_assoc]
      exact List.mem_append_left _ hc
    rw [htake]
    exact hname [] rfl rfl
  · rename_i d _
    have htake : (p.type ++ (p.name ++ (p.gap ++ '=' :: d))).takeWhile
        (fun c => decide (c ≠ '=')) = p.type ++ (p.name ++ p.gap) := by
      rw [← List.append_assoc p.name, ← List.append_assoc p.type]
      exact takeWhile_run hequals rfl
    rw [htake]
    have hhead : p.gap.head?.any isWord = false := by
      rw [← List.append_nil p.gap]
      exact hp.head?_gap rfl
    exact hname p.gap (names_eq_nil hp.not_isNameStart_of_mem_gap) hhead

theorem WellFormed.beforeColon?_of_none (hp : p.WellFormed) (hd : p.default? = none) :
    beforeColon? false p.text = none := by
  have hcolon : ∀ c ∈ p.text, c ≠ ':' := fun c hc => (hp.plain c (by
    simp only [text, assigned, hd, List.append_nil] at hc
    rw [← List.append_assoc]
    exact List.mem_append_left _ hc)).1
  have := beforeColon?_append hcolon []
  rwa [List.append_nil] at this

/-- The first colon of a parameter that stands alone is the one of its default. -/
theorem WellFormed.beforeColon?_of_some (hp : p.WellFormed) {d : List Char}
    (hd : p.default? = some d) : beforeColon? false p.text =
      (beforeColon? false d).map (p.type ++ (p.name ++ p.gap) ++ ['='] ++ ·) := by
  have hlead : ∀ c ∈ p.type ++ (p.name ++ p.gap) ++ ['='], c ≠ ':' := by
    intro c hc
    rcases List.mem_append.1 hc with hc | hc
    · exact (hp.plain c hc).1
    · rw [List.mem_singleton.1 hc]
      decide
  have htext : p.text = p.type ++ (p.name ++ p.gap) ++ ['='] ++ d := by
    simp [text, assigned, hd]
  rw [htext]
  exact beforeColon?_append hlead d

/-- With such a colon the name is found exactly if no name before the colon takes its place. -/
theorem WellFormed.declaredName?_of_some (hp : p.WellFormed) {decl : List Char}
    (hsome : beforeColon? false p.text =
      some (p.type ++ (p.name ++ p.gap) ++ ['='] ++ decl)) :
    declaredName? p.text = some p.hit ↔
      (∀ h ∈ names decl, h.text = "mut".toList ∨ h.text = "ref".toList) ∧
        ¬(p.name = "mut".toList ∨ p.name = "ref".toList) := by
  have hassoc : p.type ++ (p.name ++ p.gap) ++ ['='] ++ decl =
      p.type ++ (p.name ++ (p.gap ++ '=' :: decl)) := by simp
  have hequals : isWord '=' = false := by decide +kernel
  have hrest : (p.gap ++ '=' :: decl).head?.any isWord = false := hp.head?_gap hequals
  have htexts : ∀ P : List Char → Prop, (∀ h ∈ names (p.gap ++ '=' :: decl), P h.text) ↔
      ∀ h ∈ names decl, P h.text := fun P => by
    rw [← List.forall_mem_map (f := Hit.text) (P := P), hp.names_gap, List.forall_mem_map]
  rw [← htexts fun name => name = "mut".toList ∨ name = "ref".toList]
  simp only [declaredName?, hsome]
  rw [hassoc, hp.names_eq hrest, getLast?_filter_iff]
  · change _ ↔ _ ∧ ¬(p.hit.text = _ ∨ p.hit.text = _)
    simp only [List.forall_mem_map, Bool.and_eq_false_iff, Bool.and_eq_true,
      decide_eq_false_iff_not, decide_eq_true_iff, ne_eq, not_or, Decidable.not_not]
  · intro hmem
    obtain ⟨h, -, heq⟩ := List.mem_map.1 hmem
    obtain ⟨c, tail, hname, -⟩ := hp.name
    have := congrArg Hit.offset heq
    simp only [hit, hname, List.length_cons] at this
    omega

/-- Only what stands before the first colon of the default can harm. -/
theorem harmless_iff {d decl : List Char} (hd : p.default? = some d) (hdecl : IsDecl d decl) :
    p.Harmless ↔ (∀ h ∈ names decl, h.text = "mut".toList ∨ h.text = "ref".toList) ∧
      ¬(p.name = "mut".toList ∨ p.name = "ref".toList) := by
  constructor
  · exact fun h => h d hd decl hdecl
  · rintro h d' hd' decl' hdecl'
    obtain rfl : d = d' := Option.some.inj (hd.symm.trans hd')
    rwa [← hdecl.eq hdecl']

/-- **The declared name is the one before the default exactly if the default is harmless.** -/
theorem WellFormed.declaredName?_iff (hp : p.WellFormed) :
    declaredName? p.text = some p.hit ↔ p.Harmless := by
  cases hd : p.default? with
  | none =>
    exact iff_of_true (hp.declaredName?_of_none (hp.beforeColon?_of_none hd)) fun d hmem => by
      simp [hd] at hmem
  | some d =>
    have hcolon := hp.beforeColon?_of_some hd
    cases hdecl : beforeColon? false d with
    | none =>
      rw [hdecl] at hcolon
      refine iff_of_true (hp.declaredName?_of_none hcolon) fun d' hd' decl hin => ?_
      obtain rfl : d = d' := Option.some.inj (hd.symm.trans hd')
      rw [beforeColon?_eq_some_iff.2 hin] at hdecl
      simp at hdecl
    | some decl =>
      rw [hdecl, Option.map_some] at hcolon
      rw [hp.declaredName?_of_some hcolon, harmless_iff hd (beforeColon?_eq_some_iff.1 hdecl)]

end Param

/-- The names found in a parameter list are the declared ones, each at its place. -/
def FindsNames (ps : List Param) : Prop :=
  (splitParams 0 (paramsText ps)).map declaredName? = ps.map fun p => some p.hit

instance : DecidablePred FindsNames := fun _ => inferInstanceAs (Decidable (_ = _))

/-- **Defaults are ignored exactly as far as they hide no bracket and no name.**  A list is cut
into its parameters exactly if every default but the last closes as many brackets as it opens;
and then the names found are the declared ones exactly if no default has a name before its first
colon that stands alone. -/
theorem defaults_ignored_iff {ps : List Param} (hne : ps ≠ []) (hps : ∀ p ∈ ps, p.WellFormed) :
    (splitParams 0 (paramsText ps) = ps.map Param.text ↔ ∀ p ∈ ps.dropLast, p.excess = 0) ∧
      ((∀ p ∈ ps.dropLast, p.excess = 0) → (FindsNames ps ↔ ∀ p ∈ ps, p.Harmless)) := by
  have hpieces := splitParams_paramsText_iff hne hps
  refine ⟨hpieces, fun hexcess => ?_⟩
  rw [FindsNames, hpieces.2 hexcess, List.map_map, List.map_inj_left]
  exact forall₂_congr fun p hp => (hps p hp).declaredName?_iff

namespace Param

/-- `string url = "host:port"`. -/
def url : Param := ⟨"string ".toList, "url".toList, " ".toList, some " \"host:port\"".toList⟩

/-- `int max = a > b`. -/
def bound : Param := ⟨"int ".toList, "max".toList, " ".toList, some " a > b".toList⟩

/-- `Map<K, V> map`, behind another parameter. -/
def dictionary : Param := ⟨" Map<K, V> ".toList, "map".toList, [], none⟩

theorem url_wellFormed : url.WellFormed where
  type := forall_mem_of_all (by decide)
  nested := nested_of_plain (forall_mem_of_all (by decide))
  boundary := by decide +kernel
  name := ⟨'u', "rl".toList, rfl, by decide, forall_mem_of_all (by decide)⟩
  gap := forall_mem_of_all (by decide)
  default := by
    rintro d ⟨⟩
    exact forall_mem_of_all (by decide)

theorem bound_wellFormed : bound.WellFormed where
  type := forall_mem_of_all (by decide)
  nested := nested_of_plain (forall_mem_of_all (by decide))
  boundary := by decide +kernel
  name := ⟨'m', "ax".toList, rfl, by decide, forall_mem_of_all (by decide)⟩
  gap := forall_mem_of_all (by decide)
  default := by
    rintro d ⟨⟩
    exact forall_mem_of_all (by decide)

theorem dictionary_wellFormed : dictionary.WellFormed where
  type := forall_mem_of_all (by decide)
  nested := by
    have hinner : Nested true "K, V".toList :=
      nested_of_plain (forall_mem_of_all (by decide))
    have hlast : Nested false " ".toList := nested_of_plain (forall_mem_of_all (by decide))
    have hfirst : ∀ c ∈ " Map".toList, c ∉ ['<', '>', '[', ']'] ∧ (c = ',' → false = true) :=
      forall_mem_of_all (by decide)
    exact .append hfirst (.angle hinner hlast)
  boundary := by decide +kernel
  name := ⟨'m', "ap".toList, rfl, by decide, forall_mem_of_all (by decide)⟩
  gap := forall_mem_of_all (by decide)
  default := by rintro d ⟨⟩

end Param

theorem defaults_ignored_iff_url :
    ([Param.dictionary, .url] ≠ [] ∧ ∀ p ∈ [Param.dictionary, .url], p.WellFormed) ∧
      (splitParams 0 (paramsText [.dictionary, .url]) = [Param.dictionary, .url].map Param.text ↔
        ∀ p ∈ [Param.dictionary, .url].dropLast, p.excess = 0) ∧
      ((∀ p ∈ [Param.dictionary, .url].dropLast, p.excess = 0) →
        (FindsNames [.dictionary, .url] ↔ ∀ p ∈ [Param.dictionary, .url], p.Harmless)) := by
  have hps : ∀ p ∈ [Param.dictionary, .url], p.WellFormed := List.forall_mem_cons.2
    ⟨Param.dictionary_wellFormed, List.forall_mem_singleton.2 Param.url_wellFormed⟩
  exact ⟨⟨by simp, hps⟩, defaults_ignored_iff (by simp) hps⟩

/-- **A default is not ignored** if a colon in it seems to end a name, or a bracket in it seems to
close one. -/
theorem not_ignoresDefaults :
    ((∀ p ∈ [Param.url], p.WellFormed) ∧ ¬ FindsNames [.url]) ∧
      (∀ p ∈ [Param.bound, .dictionary], p.WellFormed) ∧ ¬ FindsNames [.bound, .dictionary] := by
  refine ⟨⟨List.forall_mem_singleton.2 Param.url_wellFormed, by decide +kernel⟩, ?_,
    by decide +kernel⟩
  exact List.forall_mem_cons.2
    ⟨Param.bound_wellFormed, List.forall_mem_singleton.2 Param.dictionary_wellFormed⟩

end Diagnostic
end LintWorkspace
