/-
# The heads of functions in a text

The pattern of a function head, part by part:

| part | text |
| --- | --- |
| name | an ASCII letter or underscore at the start of a word, and the rest of the word |
| gap | blanks |
| parameters | between parentheses, no parenthesis among them |
| result | blanks, or blanks, an arrow and a type without `{` and `;` |
| body | from the brace on |

A text can be cut by a head at a given place in one way at most, so what is found at a place is
the match of the pattern there.  The heads of a text are then the leftmost match, the leftmost
one behind its brace, and so on.
-/

import LintWorkspace.Diagnostic.Parameter
import Mathlib.Data.List.Basic
import Mathlib.Data.List.TakeWhile

namespace LintWorkspace
namespace Diagnostic

open Text (isBlank)
open Unicode (isWord)

variable {cs rest : List Char} {here n : Nat}

/-! ### Characters -/

/-- A name starts with a character of ASCII. -/
theorem toNat_lt_of_isNameStart {c : Char} (h : isNameStart c = true) : c.toNat < 128 := by
  have hranges : (decide ('A'.val ≤ c.val ∧ c.val ≤ 'Z'.val) ||
      (decide ('a'.val ≤ c.val) && decide (c.val ≤ 'z'.val)) || decide (c = '_')) = true := h
  simp only [Bool.or_eq_true, Bool.and_eq_true, decide_eq_true_eq,
    UInt32.le_iff_toNat_le] at hranges
  change c.val.toNat < 128
  rcases hranges with (⟨-, h⟩ | ⟨-, h⟩) | rfl
  · exact Nat.lt_of_le_of_lt h (by decide)
  · exact Nat.lt_of_le_of_lt h (by decide)
  · decide

/-- What holds of all codes of ASCII holds of its characters. -/
theorem of_ascii {P : Char → Prop} (hall : ∀ n < 128, P (Char.ofNat n)) {c : Char}
    (hc : c.toNat < 128) : P c := by
  have := hall c.toNat hc
  rwa [Char.ofNat_toNat] at this

/-- The letters and the underscore of ASCII are characters of words. -/
theorem isWord_of_isNameStart {c : Char} (h : isNameStart c = true) : isWord c = true := by
  refine of_ascii (P := fun c => isNameStart c = true → isWord c = true) ?_
    (toNat_lt_of_isNameStart h) h
  decide +kernel

/-- No blank is a character of words. -/
theorem not_isWord_of_isBlank {c : Char} (h : isBlank c = true) : isWord c = false := by
  have hall : ∀ n ∈ [9, 10, 11, 12, 13, 0x20, 0x85, 0xA0, 0x1680, 0x2000, 0x2001, 0x2002, 0x2003,
      0x2004, 0x2005, 0x2006, 0x2007, 0x2008, 0x2009, 0x200A, 0x2028, 0x2029, 0x202F, 0x205F,
      0x3000], Unicode.word.holds n = false := by decide +kernel
  refine hall c.toNat ?_
  simp only [isBlank, Bool.or_eq_true, Bool.and_eq_true, decide_eq_true_eq, beq_iff_eq] at h
  simp only [List.mem_cons, List.not_mem_nil, or_false]
  omega

/-- A text is a run of characters of a class, and what follows the run. -/
theorem exists_run (p : Char → Bool) (cs : List Char) : ∃ run rest, cs = run ++ rest ∧
    (∀ c ∈ run, p c = true) ∧ rest.head?.any p = false := by
  refine ⟨cs.takeWhile p, cs.dropWhile p, List.takeWhile_append_dropWhile.symm,
    fun c hc => List.mem_takeWhile_imp hc, ?_⟩
  cases h : (cs.dropWhile p).head? with
  | none => rfl
  | some c =>
    have := List.head?_dropWhile_not p cs
    rw [h] at this
    simpa using this

theorem takeWhile_run {t : List Char} {p : Char → Bool} (h : ∀ c ∈ cs, p c = true)
    (ht : t.head?.any p = false) : (cs ++ t).takeWhile p = cs := by
  rw [List.takeWhile_append_of_pos h]
  cases t with
  | nil => simp
  | cons c t => rw [List.takeWhile_cons_of_neg (by simpa using ht), List.append_nil]

theorem dropWhile_run {t : List Char} {p : Char → Bool} (h : ∀ c ∈ cs, p c = true)
    (ht : t.head?.any p = false) : (cs ++ t).dropWhile p = t := by
  rw [List.dropWhile_append_of_pos h]
  cases t with
  | nil => rfl
  | cons c t => rw [List.dropWhile_cons_of_neg (by simpa using ht)]

/-! ### What a head is -/

/-- What may stand between the parameters of a head and its brace: blanks, and a result type
behind an arrow if one is written. -/
inductive IsResult : List Char → Prop
  | blank {blanks : List Char} (hblanks : ∀ c ∈ blanks, isBlank c = true) : IsResult blanks
  | typed {blanks more type : List Char} (hblanks : ∀ c ∈ blanks, isBlank c = true)
    (hmore : ∀ c ∈ more, isBlank c = true) (hne : type ≠ [])
    (htype : ∀ c ∈ type, c ≠ '{' ∧ c ≠ ';') :
    IsResult (blanks ++ '-' :: '>' :: (more ++ type))

/-- A text cut at a function head: what stands before it, its parts, and what follows its
opening brace. -/
structure Site where
  before : List Char
  name : List Char
  gap : List Char
  params : List Char
  result : List Char
  rest : List Char

namespace Site

/-- The text up to the parameters of a head. -/
def opened (s : Site) : List Char := s.before ++ s.name ++ s.gap ++ ['(']

/-- The text up to the body behind a head. -/
def entered (s : Site) : List Char := s.opened ++ s.params ++ ')' :: s.result ++ ['{']

/-- The text that is cut. -/
def text (s : Site) : List Char := s.entered ++ s.rest

/-- The parts of a head are what its pattern asks for. -/
structure Matches (s : Site) : Prop where
  /-- the name starts a word -/
  boundary : s.before.getLast?.any isWord = false
  name : ∃ c tail, s.name = c :: tail ∧ isNameStart c = true ∧ ∀ d ∈ tail, isWord d = true
  gap : ∀ c ∈ s.gap, isBlank c = true
  params : ∀ c ∈ s.params, c ≠ '(' ∧ c ≠ ')'
  result : IsResult s.result

/-- The head that is found at a site. -/
def head (s : Site) : Head := ⟨s.name, s.opened.length, s.params, s.entered.length, s.rest⟩

/-- The text from a head on. -/
def tail (s : Site) : List Char :=
  s.name ++ (s.gap ++ '(' :: (s.params ++ ')' :: (s.result ++ '{' :: s.rest)))

theorem text_eq (s : Site) : s.text = s.before ++ s.tail := by
  simp [text, entered, opened, tail]

end Site

/-! ### One head -/

/-- The characters of a result type. -/
def isTypeChar (c : Char) : Bool := c ≠ '{' && c ≠ ';'

theorem isTypeChar_iff {c : Char} : isTypeChar c = true ↔ c ≠ '{' ∧ c ≠ ';' := by
  simp [isTypeChar]

theorem isTypeChar_of_isBlank {c : Char} (h : isBlank c = true) : isTypeChar c = true := by
  rw [isTypeChar_iff]
  constructor
  · rintro rfl
    exact absurd h (by decide)
  · rintro rfl
    exact absurd h (by decide)

/-- A brace at once, or behind an arrow and a type, with its distance. -/
def braceAt? (distance : Nat) : List Char → Option (Nat × List Char)
  | '{' :: rest => some (distance + 1, rest)
  | '-' :: '>' :: cs =>
    match cs.dropWhile isTypeChar with
    | '{' :: rest =>
      if (cs.takeWhile isTypeChar).length = 0 then none
      else some (distance + 2 + (cs.takeWhile isTypeChar).length + 1, rest)
    | _ => none
  | _ => none

theorem afterBrace?_append {blanks after : List Char} (hblanks : ∀ c ∈ blanks, isBlank c = true)
    (hafter : after.head?.any isBlank = false) :
    afterBrace? (blanks ++ after) = braceAt? blanks.length after := by
  rw [afterBrace?, skipBlanks, takeWhile_run hblanks hafter, dropWhile_run hblanks hafter]
  rfl

/-- Behind an arrow a brace is found exactly behind a type. -/
theorem braceAt?_arrow {type : List Char} (htype : ∀ c ∈ type, isTypeChar c = true)
    (hne : type ≠ []) (distance : Nat) (rest : List Char) :
    braceAt? distance ('-' :: '>' :: (type ++ '{' :: rest)) =
      some (distance + 2 + type.length + 1, rest) := by
  have hlength : type.length ≠ 0 := by simpa using hne
  simp only [braceAt?, takeWhile_run (t := '{' :: rest) htype rfl,
    dropWhile_run (t := '{' :: rest) htype rfl, if_neg hlength]

/-- Behind parameters a brace is found exactly behind a result. -/
theorem afterBrace?_eq_some_iff : afterBrace? cs = some (n, rest) ↔
    ∃ result, IsResult result ∧ cs = result ++ '{' :: rest ∧ n = result.length + 1 := by
  constructor
  · intro h
    obtain ⟨blanks, after, rfl, hblanks, hafter⟩ := exists_run isBlank cs
    rw [afterBrace?_append hblanks hafter] at h
    unfold braceAt? at h
    split at h
    · obtain ⟨rfl, rfl⟩ := Prod.mk.inj (Option.some.inj h)
      exact ⟨blanks, .blank hblanks, rfl, rfl⟩
    · rename_i behind
      obtain ⟨type, after, rfl, htype, hstop⟩ := exists_run isTypeChar behind
      rw [takeWhile_run htype hstop, dropWhile_run htype hstop] at h
      split at h
      · split at h
        · simp at h
        · rename_i hlength
          obtain ⟨rfl, rfl⟩ := Prod.mk.inj (Option.some.inj h)
          have hne : type ≠ [] := fun hnil => hlength (by rw [hnil, List.length_nil])
          refine ⟨_, @IsResult.typed blanks [] type hblanks (by simp) hne
            fun c hc => isTypeChar_iff.1 (htype c hc), by simp, ?_⟩
          simp only [List.nil_append, List.length_append, List.length_cons]
          omega
      · simp at h
    · simp at h
  · rintro ⟨result, hresult, rfl, rfl⟩
    cases hresult with
    | blank hblanks => rw [afterBrace?_append hblanks rfl, braceAt?]
    | @typed blanks more type hblanks hmore hne htype =>
      have hin : ∀ c ∈ more ++ type, isTypeChar c = true := fun c hc =>
        (List.mem_append.1 hc).elim (fun hc => isTypeChar_of_isBlank (hmore c hc))
          fun hc => isTypeChar_iff.2 (htype c hc)
      rw [List.append_assoc, List.cons_append, List.cons_append, afterBrace?_append hblanks rfl,
        braceAt?_arrow hin (by simp [hne])]
      simp only [List.length_append, List.length_cons, Option.some.injEq, Prod.mk.injEq, and_true]
      omega

/-- **A head is found where its pattern matches.** -/
theorem Site.Matches.head?_tail {s : Site} (h : s.Matches) :
    head? s.before.length s.tail = some s.head := by
  obtain ⟨before, name, gap, params, result, rest⟩ := s
  obtain ⟨-, ⟨c, tail, rfl, hstart, htail⟩, hgap, hparams, hresult⟩ := h
  dsimp only at htail hgap hparams hresult ⊢
  -- behind the name no character of a word follows, and behind the gap no blank
  have hafter : ((gap ++ '(' :: (params ++ ')' :: (result ++ '{' :: rest))).head?.any isWord)
      = false := by
    cases gap with
    | nil =>
      have hparen : isWord '(' = false := by decide +kernel
      simpa using hparen
    | cons b gap => simpa using not_isWord_of_isBlank (hgap b List.mem_cons_self)
  have hparam : ∀ c ∈ params, (decide (c ≠ '(') && decide (c ≠ ')')) = true := fun c hc => by
    simpa using hparams c hc
  have hbrace : afterBrace? (result ++ '{' :: rest) = some (result.length + 1, rest) :=
    afterBrace?_eq_some_iff.2 ⟨result, hresult, rfl, rfl⟩
  rw [Site.tail, List.cons_append, head?, if_neg (by simp [hstart])]
  simp only [takeWhile_run htail hafter, dropWhile_run htail hafter, skipBlanks,
    takeWhile_run (t := '(' :: (params ++ ')' :: (result ++ '{' :: rest))) hgap rfl,
    dropWhile_run (t := '(' :: (params ++ ')' :: (result ++ '{' :: rest))) hgap rfl,
    takeWhile_run (t := ')' :: (result ++ '{' :: rest)) hparam rfl,
    dropWhile_run (t := ')' :: (result ++ '{' :: rest)) hparam rfl, hbrace, Option.map_some,
    Site.head, Site.opened, Site.entered, List.length_append, List.length_cons, List.length_nil]
  congr 2
  omega

/-- **Its pattern matches where a head is found** at the start of a word. -/
theorem exists_site_of_head? {before : List Char} {found : Head}
    (hbefore : before.getLast?.any isWord = false) (h : head? before.length cs = some found) :
    ∃ s : Site, s.Matches ∧ s.before = before ∧ s.tail = cs ∧ s.head = found := by
  cases cs with
  | nil => simp [head?] at h
  | cons c tail =>
    rw [head?] at h
    split at h
    · simp at h
    · rename_i hstart
      obtain ⟨word, behind, rfl, hword, hstop⟩ := exists_run isWord tail
      obtain ⟨gap, open', rfl, hgap, hstop'⟩ := exists_run isBlank behind
      simp only [takeWhile_run hword hstop, dropWhile_run hword hstop, skipBlanks,
        takeWhile_run hgap hstop', dropWhile_run hgap hstop'] at h
      split at h
      · rename_i inner
        obtain ⟨params, close, rfl, hparams, hstop''⟩ :=
          exists_run (fun c => decide (c ≠ '(') && decide (c ≠ ')')) inner
        rw [takeWhile_run hparams hstop'', dropWhile_run hparams hstop''] at h
        split at h
        · rename_i behind
          obtain ⟨⟨n, rest⟩, hbrace, rfl⟩ := Option.map_eq_some_iff.1 h
          obtain ⟨result, hresult, rfl, rfl⟩ := afterBrace?_eq_some_iff.1 hbrace
          refine ⟨⟨before, c :: word, gap, params, result, rest⟩,
            ⟨hbefore, ⟨c, word, rfl, by simpa using hstart, hword⟩, hgap,
              fun c hc => by simpa using hparams c hc, hresult⟩, rfl, ?_, ?_⟩
          · simp [Site.tail]
          · simp only [Site.head, Site.opened, Site.entered, List.length_append, List.length_cons,
              List.length_nil, Head.mk.injEq, true_and, and_true]
            omega
        · simp at h
      · simp at h

/-- A text is cut in one way at most by a head at a place. -/
theorem Site.Matches.eq_of_before {s t : Site} (hs : s.Matches) (ht : t.Matches)
    (htext : s.text = t.text) (hbefore : s.before.length = t.before.length) : s = t := by
  rw [s.text_eq, t.text_eq] at htext
  obtain ⟨hb, htail⟩ := List.append_inj htext hbefore
  have hhead : s.head = t.head := by
    have := hs.head?_tail
    rw [hbefore, htail, ht.head?_tail] at this
    exact (Option.some.inj this).symm
  obtain ⟨before, name, gap, params, result, rest⟩ := s
  obtain ⟨before', name', gap', params', result', rest'⟩ := t
  simp only [Site.head, Head.mk.injEq, Site.opened, Site.entered, List.length_append,
    List.length_cons, List.length_nil] at hhead
  obtain ⟨rfl, hopened, rfl, hentered, rfl⟩ := hhead
  obtain rfl : before = before' := hb
  simp only [Site.tail, List.append_cancel_left_eq] at htail
  obtain ⟨rfl, htail⟩ := List.append_inj htail (by omega)
  simp only [List.cons.injEq, true_and, List.append_cancel_left_eq,
    List.append_cancel_right_eq] at htail
  rw [htail]

/-! ### One head after the other -/

/-- The heads in a text from a place on: the first one, then those behind its brace. -/
inductive Scan (cs : List Char) : Nat → List Site → Prop
  | none {place : Nat} (hnone : ∀ s : Site, s.Matches → s.text = cs → s.before.length < place) :
    Scan cs place []
  | next {place : Nat} {s : Site} {sites : List Site} (hs : s.Matches) (htext : s.text = cs)
    (hplace : place ≤ s.before.length)
    (hfirst : ∀ t : Site, t.Matches → t.text = cs → place ≤ t.before.length →
      s.before.length ≤ t.before.length)
    (hrest : Scan cs s.entered.length sites) : Scan cs place (s :: sites)

/-- **There is one way only to go through the heads of a text.** -/
theorem Scan.unique {place : Nat} {sites sites' : List Site} (h : Scan cs place sites)
    (h' : Scan cs place sites') : sites = sites' := by
  induction h generalizing sites' with
  | none hnone =>
    cases h' with
    | none => rfl
    | next hs htext hplace =>
      have := hnone _ hs htext
      omega
  | @next place s sites hs htext hplace hfirst _ ih =>
    cases h' with
    | none hnone =>
      have := hnone _ hs htext
      omega
    | @next _ t sites' ht htext' hplace' hfirst' hrest' =>
      have hle := hfirst t ht htext' hplace'
      have hge := hfirst' s hs htext hplace
      obtain rfl : s = t := hs.eq_of_before ht (htext.trans htext'.symm) (by omega)
      rw [ih hrest']

theorem Scan.of_mem {place : Nat} {sites : List Site} (h : Scan cs place sites) :
    ∀ s ∈ sites, s.Matches ∧ s.text = cs := by
  induction h with
  | none => simp
  | next hs htext _ _ _ ih =>
    intro t ht
    rcases List.mem_cons.1 ht with rfl | ht
    · exact ⟨hs, htext⟩
    · exact ih t ht

theorem Site.length_rest_lt (s : Site) : s.rest.length < s.tail.length := by
  simp only [Site.tail, List.length_append, List.length_cons]
  omega

/-- No head starts at the end of a text. -/
theorem scan_length (cs : List Char) : Scan cs cs.length [] := by
  refine .none fun s _ htext => ?_
  rw [← htext, s.text_eq, List.length_append]
  have := s.length_rest_lt
  omega

/-- A place where no head starts is passed over. -/
theorem Scan.of_succ {place : Nat} {sites : List Site} (h : Scan cs (place + 1) sites)
    (hno : ∀ s : Site, s.Matches → s.text = cs → s.before.length ≠ place) :
    Scan cs place sites := by
  cases h with
  | none hnone =>
    refine .none fun s hs htext => ?_
    have := hnone s hs htext
    have := hno s hs htext
    omega
  | next hs htext hplace hfirst hrest =>
    refine .next hs htext (by omega) (fun t ht htext' hplace' => ?_) hrest
    have := hno t ht htext'
    exact hfirst t ht htext' (by omega)

/-- From every place of a text the heads are found, one behind the other. -/
theorem exists_scan_headsFrom {before behind : List Char} (hcs : cs = before ++ behind)
    (hn : behind.length ≤ n) : ∃ sites, Scan cs before.length sites ∧
      headsFrom n before.getLast? before.length behind = sites.map Site.head := by
  induction n generalizing before behind with
  | zero =>
    obtain rfl : behind = [] := by simpa using hn
    rw [List.append_nil] at hcs
    exact ⟨[], hcs ▸ scan_length cs, rfl⟩
  | succ n ih =>
    cases behind with
    | nil =>
      rw [List.append_nil] at hcs
      exact ⟨[], hcs ▸ scan_length cs, rfl⟩
    | cons c behind =>
      rw [headsFrom]
      rcases hfound : (if before.getLast?.any isWord = true then none
        else head? before.length (c :: behind)) with _ | found
      · -- a head that starts here would have been found
        obtain ⟨sites, hscan, hsites⟩ :=
          @ih (before ++ [c]) behind (by simp [hcs]) (by simpa using hn)
        rw [List.length_append, List.length_singleton] at hscan hsites
        rw [List.getLast?_concat] at hsites
        refine ⟨sites, hscan.of_succ fun s hs htext hplace => ?_, hsites⟩
        rw [s.text_eq, hcs] at htext
        obtain ⟨rfl, htail⟩ := List.append_inj htext hplace
        rw [if_neg (by simp [hs.boundary]), ← htail, hs.head?_tail] at hfound
        simp at hfound
      · have hboundary : before.getLast?.any isWord = false := by
          by_contra hword
          rw [if_pos (by simpa using hword)] at hfound
          simp at hfound
        rw [if_neg (by simp [hboundary])] at hfound
        obtain ⟨s, hs, rfl, htail, rfl⟩ := exists_site_of_head? hboundary hfound
        have htext : s.text = cs := by rw [s.text_eq, htail, hcs]
        have hlength := s.length_rest_lt
        rw [htail] at hlength
        obtain ⟨sites, hscan, hsites⟩ := @ih s.entered s.rest htext.symm
          (by simp only [List.length_cons] at hlength hn; omega)
        have hlast : s.entered.getLast? = some '{' := List.getLast?_concat
        rw [hlast] at hsites
        exact ⟨s :: sites, .next hs htext (Nat.le_refl _) (fun _ _ _ h => h) hscan,
          congrArg (s.head :: ·) hsites⟩

/-- **The heads in a text are the matches of their pattern,** one behind the other from the
left. -/
theorem exists_scan_heads (cs : List Char) :
    ∃ sites, Scan cs 0 sites ∧ heads cs = sites.map Site.head :=
  @exists_scan_headsFrom cs cs.length [] cs rfl (Nat.le_refl _)

end Diagnostic
end LintWorkspace
