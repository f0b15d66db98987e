/-
# A pattern and its components

A pattern is read twice.  A walk reads it component by component; to match a text it is
read as a whole.  Where the components are patterns by themselves, the whole has their
tokens with slashes between them (`tokens?_components`), but for `**`: it takes the slash
behind it, and several of them are one.

| components | tokens of the whole |
| --- | --- |
| `a`, `*.c` | `a`, `/`, `*`, `.`, `c` |
| `**`, `*.c` | `**`, `*`, `.`, `c` |
| `**`, `**`, `x` | `**`, `x` |

So a text is matched if its pieces are matched by the components (`matchTokens_append`,
`matchTokens_recursive_append`).
-/

import LintWorkspace.Glob.Walk
import LintWorkspace.Proofs.Fallible

namespace LintWorkspace
namespace Glob

variable {cs ds tail : List Char} {ts us : List Token} {n m : Nat} {before : Option Char}
  {done : List Token}

/-! ### Matching a text piece by piece -/

/-- A test that some rest of a text passes is passed by some rest of a longer text. -/
theorem someRest_append {test : List Char → Bool} (h : someRest test ds = true) (cs : List Char) :
    someRest test (cs ++ ds) = true := by
  induction cs with
  | nil => exact h
  | cons c cs ih =>
    rw [List.cons_append, someRest, ih]
    exact Bool.or_true _

theorem someRest_of_rest {test : List Char → Bool} (h : test ds = true) (cs : List Char) :
    someRest test (cs ++ ds) = true := by
  refine someRest_append ?_ cs
  cases ds with
  | nil => exact h
  | cons d ds =>
    rw [someRest, h]
    exact Bool.true_or _

/-- A rest that passes a test can be extended. -/
theorem someRest_append_right {test test' : List Char → Bool}
    (h : ∀ cs, test cs = true → test' (cs ++ ds) = true) (hcs : someRest test cs = true) :
    someRest test' (cs ++ ds) = true := by
  induction cs with
  | nil => exact someRest_of_rest (h [] hcs) []
  | cons c cs ih =>
    rw [someRest, Bool.or_eq_true] at hcs
    rcases hcs with hcs | hcs
    · exact someRest_of_rest (h _ hcs) []
    · exact someRest_append (ih hcs) [c]

theorem someRestAfterSlash_append {test : List Char → Bool}
    (h : someRestAfterSlash test ds = true) (cs : List Char) :
    someRestAfterSlash test (cs ++ ds) = true := by
  induction cs with
  | nil => exact h
  | cons c cs ih =>
    rw [List.cons_append, someRestAfterSlash, ih]
    exact Bool.or_true _

theorem someRestAfterSlash_of_rest {test : List Char → Bool} (h : test ds = true)
    (cs : List Char) : someRestAfterSlash test (cs ++ '/' :: ds) = true := by
  refine someRestAfterSlash_append ?_ cs
  simp [someRestAfterSlash, h]

/-- Tokens without `**` in a row match what they match one after the other. -/
theorem matchTokens_append (hrec : Token.recursive ∉ ts) (hts : matchTokens ts cs = true)
    (hus : matchTokens us ds = true) : matchTokens (ts ++ us) (cs ++ ds) = true := by
  induction ts generalizing cs with
  | nil =>
    obtain rfl : cs = [] := by simpa [matchTokens] using hts
    exact hus
  | cons t ts ih =>
    rw [List.mem_cons, not_or] at hrec
    have hone : ∀ (c : Char) (cs : List Char), (t.accepts c && matchTokens ts cs) = true →
        (t.accepts c && matchTokens (ts ++ us) (cs ++ ds)) = true := by
      intro c cs h
      rw [Bool.and_eq_true] at h ⊢
      exact ⟨h.1, ih hrec.2 h.2⟩
    cases t with
    | recursive => exact absurd rfl hrec.1
    | sequence => exact someRest_append_right (fun cs => ih hrec.2) hts
    | char _ | anyChar | anyOf _ | noneOf _ =>
      cases cs with
      | nil => simp [matchTokens] at hts
      | cons c cs => exact hone c cs hts

/-- What `**` and more matches is matched below any directory. -/
theorem matchTokens_recursive_append (h : matchTokens (.recursive :: us) ds = true)
    (cs : List Char) : matchTokens (.recursive :: us) (cs ++ '/' :: ds) = true := by
  rw [matchTokens, Bool.or_eq_true] at h ⊢
  right
  rcases h with h | h
  · exact someRestAfterSlash_of_rest h cs
  · have := someRestAfterSlash_append h (cs ++ ['/'])
    rwa [List.append_assoc] at this

/-- `**` matches nothing as well. -/
theorem matchTokens_recursive (h : matchTokens us cs = true) :
    matchTokens (.recursive :: us) cs = true := by
  rw [matchTokens, h, Bool.true_or]

/-! ### Reading a pattern -/

/-- The end of a component: the end of the pattern, or a slash. -/
def EndsPiece : List Char → Prop
  | [] => True
  | c :: _ => c = '/'

/-- A `**` may not follow a character, unless that is a slash. -/
def blocks (before : Option Char) : Bool := before.isSome && before ≠ some '/'

theorem classBody?_append {body rest : List Char} (h : classBody? cs = some (body, rest))
    (tail : List Char) : classBody? (cs ++ tail) = some (body, rest ++ tail) ∧
      rest.length < cs.length ∧ rest ⊆ cs := by
  cases cs with
  | nil => simp [classBody?] at h
  | cons c cs =>
    cases hdrop : cs.dropWhile (· ≠ ']') with
    | nil =>
      rw [classBody?, hdrop] at h
      simp at h
    | cons d rest' =>
      rw [classBody?, hdrop] at h
      obtain ⟨rfl, rfl⟩ := Prod.mk.inj (Option.some.inj h)
      have hsuffix : d :: rest' <:+ cs := hdrop ▸ List.dropWhile_suffix _
      have htake : (cs ++ tail).takeWhile (· ≠ ']') = cs.takeWhile (· ≠ ']') := by
        rw [List.takeWhile_append, if_neg]
        intro hall
        have := congrArg List.length (List.takeWhile_append_dropWhile (p := (· ≠ ']')) (l := cs))
        rw [List.length_append, hall, hdrop, List.length_cons] at this
        omega
      have hrest : (cs ++ tail).dropWhile (· ≠ ']') = d :: (rest' ++ tail) := by
        rw [List.dropWhile_append, hdrop]
        rfl
      refine ⟨?_, ?_, fun x hx => List.mem_cons_of_mem _ (hsuffix.subset (.tail d hx))⟩
      · rw [List.cons_append, classBody?, hrest, htake]
      · have := hsuffix.length_le
        simp only [List.length_cons] at this ⊢
        omega

/-- A class reads alike whatever comes after the component. -/
theorem class?_append {t : Token} {rest : List Char} (h : class? cs = some (t, rest))
    (tail : List Char) : class? (cs ++ tail) = some (t, rest ++ tail) ∧
      rest.length < cs.length ∧ rest ⊆ cs ∧ t ≠ .recursive := by
  have hbody : ∀ {xs : List Char} (f : List Range → Token), (∀ rs, f rs ≠ .recursive) →
      ((classBody? xs).map fun e => (f (ranges e.1), e.2)) = some (t, rest) →
      ((classBody? (xs ++ tail)).map fun e => (f (ranges e.1), e.2)) =
        some (t, rest ++ tail) ∧ rest.length < xs.length ∧ rest ⊆ xs ∧ t ≠ .recursive := by
    intro xs f hf h
    obtain ⟨⟨body, rest'⟩, hxs, he⟩ := Option.map_eq_some_iff.1 h
    obtain ⟨rfl, rfl⟩ := Prod.mk.inj he
    obtain ⟨happend, hlength, hsubset⟩ := classBody?_append hxs tail
    exact ⟨by rw [happend]; rfl, hlength, hsubset, hf _⟩
  unfold class? at h ⊢
  split at h
  · rename_i cs
    obtain ⟨happend, hlength, hsubset, ht⟩ := hbody Token.noneOf (by simp) h
    exact ⟨happend, by simp only [List.length_cons]; omega, List.Subset.trans hsubset (by simp), ht⟩
  · rename_i hfirst
    obtain ⟨happend, hrest⟩ := hbody Token.anyOf (by simp) h
    refine ⟨?_, hrest⟩
    cases cs with
    | nil => simp [classBody?] at h
    | cons c cs =>
      split
      · rename_i heq
        obtain ⟨rfl, rfl⟩ := List.cons.inj heq
        exact absurd rfl (hfirst cs)
      · exact happend

/-- The tokens read so far with a `**`, the last one first: one is enough. -/
def withRecursive (done : List Token) : List Token :=
  match done with
  | .recursive :: _ :: _ => done
  | _ => .recursive :: done

/-- How stars are read. -/
theorem tokens?_stars (n : Nat) (before : Option Char) (done : List Token) (cs : List Char) :
    tokens? (n + 1) before done ('*' :: cs) =
      if 2 < (cs.takeWhile (· = '*')).length + 1 then .error .wildcards
      else if (cs.takeWhile (· = '*')).length + 1 = 1 then
        tokens? n (some '*') (.sequence :: done) (cs.dropWhile (· = '*'))
      else if blocks before then .error .recursiveWildcards
      else match cs.dropWhile (· = '*') with
        | [] => .ok (withRecursive done).reverse
        | '/' :: rest => tokens? n (some '/') (withRecursive done) rest
        | _ => .error .recursiveWildcards := by
  rfl

/-- One token other than `**` is read off the front of a text.  The last character of it is
remembered. -/
inductive Reads : List Char → Token → Char → List Char → Prop
  | star {xs : List Char} (h : ∀ rest, xs ≠ '*' :: rest) : Reads ('*' :: xs) .sequence '*' xs
  | bracket {xs rest : List Char} {t : Token} (h : class? xs = some (t, rest)) :
    Reads ('[' :: xs) t ']' rest
  | mark {xs : List Char} : Reads ('?' :: xs) .anyChar '?' xs
  | plain {c : Char} {xs : List Char} (hstar : c ≠ '*') (hbracket : c ≠ '[') (hmark : c ≠ '?') :
    Reads (c :: xs) (.char c) c xs

namespace Reads

variable {t : Token} {c : Char} {rest : List Char}

theorem ne_recursive (h : Reads cs t c rest) : t ≠ .recursive := by
  cases h with
  | bracket h => exact (class?_append h []).2.2.2
  | star | mark | plain => simp

theorem length_lt (h : Reads cs t c rest) : rest.length < cs.length := by
  cases h with
  | bracket h =>
    have := (class?_append h []).2.1
    rw [List.length_cons]
    omega
  | star | mark | plain => simp

theorem subset (h : Reads cs t c rest) : rest ⊆ cs := by
  cases h with
  | bracket h => exact List.Subset.trans (class?_append h []).2.2.1 (by simp)
  | star | mark | plain => simp

/-- Behind a token of a component there is no room for `**`. -/
theorem blocks_eq (h : Reads cs t c rest) (hslash : '/' ∉ cs) : blocks (some c) = true := by
  cases h with
  | star | bracket | mark => rfl
  | @plain c cs =>
    have hne : c ≠ '/' := fun e => hslash (e ▸ List.mem_cons_self)
    simp [blocks, hne]

/-- A token for a character stands for one of the text. -/
theorem mem_of_eq_char {d : Char} (h : Reads cs t c rest) (ht : t = .char d) : d ∈ cs := by
  cases h with
  | star | mark => simp at ht
  | plain =>
    obtain rfl := Token.char.inj ht
    exact List.mem_cons_self
  | bracket h =>
    subst ht
    obtain ⟨f, body, hf, he⟩ : ∃ (f : List Range → Token) (body : List Char),
        (∀ rs, f rs ≠ .char d) ∧ f (ranges body) = .char d := by
      unfold class? at h
      split at h <;> obtain ⟨e, -, he⟩ := Option.map_eq_some_iff.1 h
      · exact ⟨.noneOf, e.1, by simp, (Prod.mk.inj he).1⟩
      · exact ⟨.anyOf, e.1, by simp, (Prod.mk.inj he).1⟩
    exact absurd he (hf _)

/-- A token reads alike whatever comes after the component. -/
theorem append (h : Reads cs t c rest) (htail : EndsPiece tail) :
    Reads (cs ++ tail) t c (rest ++ tail) := by
  cases h with
  | star h =>
    refine .star fun more he => ?_
    cases rest with
    | nil =>
      obtain rfl : tail = '*' :: more := he
      exact absurd htail (by simp [EndsPiece])
    | cons d ds => exact h ds (by rw [(List.cons.inj he).1])
  | bracket h => exact .bracket (class?_append h tail).1
  | mark => exact .mark
  | plain hstar hbracket hmark => exact .plain hstar hbracket hmark

theorem tokens?_eq (h : Reads cs t c rest) (n : Nat) (before : Option Char) (done : List Token) :
    tokens? (n + 1) before done cs = tokens? n (some c) (t :: done) rest := by
  cases h with
  | star h =>
    have hne : ∀ d ds, rest = d :: ds → d ≠ '*' := fun d ds he e => h ds (by rw [he, e])
    have htake : rest.takeWhile (· = '*') = [] := by
      cases rest with
      | nil => rfl
      | cons d ds => simp [hne d ds rfl]
    have hdrop : rest.dropWhile (· = '*') = rest := by
      cases rest with
      | nil => rfl
      | cons d ds => simp [hne d ds rfl]
    rw [tokens?_stars, htake, hdrop]
    rfl
  | bracket h => simp [tokens?, h]
  | mark => simp [tokens?]
  | plain hstar hbracket hmark => rw [tokens?] <;> simp [*]

end Reads

/-- What a pattern starts with: a token, or a `**` that ends with the pattern or with a
slash. -/
theorem tokens?_eq_ok {res : List Token} (h : tokens? (n + 1) before done cs = .ok res) :
    (cs = [] ∧ res = done.reverse) ∨
      (∃ t c rest, Reads cs t c rest ∧ tokens? n (some c) (t :: done) rest = .ok res) ∨
      blocks before = false ∧ (cs = ['*', '*'] ∧ res = (withRecursive done).reverse ∨
        ∃ rest, cs = '*' :: '*' :: '/' :: rest ∧
          tokens? n (some '/') (withRecursive done) rest = .ok res) := by
  have hreads : ∀ {t c rest}, Reads cs t c rest →
      ∃ t c rest, Reads cs t c rest ∧ tokens? n (some c) (t :: done) rest = .ok res :=
    fun hread => ⟨_, _, _, hread, hread.tokens?_eq n before done ▸ h⟩
  cases cs with
  | nil =>
    rw [tokens?] at h
    exact .inl ⟨rfl, (Except.ok.inj h).symm⟩
  | cons c cs =>
    by_cases hstar : c = '*'
    · subst hstar
      by_cases hone : ∃ rest, cs = '*' :: rest
      · obtain ⟨rest, rfl⟩ := hone
        rw [tokens?_stars] at h
        cases hblocks : blocks before with
        | true =>
          simp only [hblocks, if_true] at h
          split at h <;> simp at h
        | false =>
          refine .inr (.inr ⟨rfl, ?_⟩)
          cases rest with
          | nil => exact .inl ⟨rfl, by simpa [hblocks, eq_comm] using h⟩
          | cons d rest =>
            by_cases hd : d = '*'
            · simp [hd] at h
            · by_cases hslash : d = '/'
              · subst hslash
                exact .inr ⟨rest, rfl, by simpa [hblocks] using h⟩
              · simp [hblocks, hd, hslash] at h
      · exact .inr (.inl (hreads (.star fun rest he => hone ⟨rest, he⟩)))
    · by_cases hbracket : c = '['
      · subst hbracket
        cases hclass : class? cs with
        | none => simp [tokens?, hclass] at h
        | some e => exact .inr (.inl (hreads (.bracket hclass)))
      · by_cases hmark : c = '?'
        · subst hmark
          exact .inr (.inl (hreads .mark))
        · exact .inr (.inl (hreads (.plain hstar hbracket hmark)))

/-- A `**` is read wherever a component may start. -/
theorem tokens?_recursive (n : Nat) (done : List Token) (h : blocks before = false)
    (cs : List Char) : tokens? (n + 1) before done ('*' :: '*' :: '/' :: cs) =
      tokens? n (some '/') (withRecursive done) cs := by
  rw [tokens?_stars]
  simp [h]

/-- A bound on the steps does not matter as long as there is one for each character. -/
theorem tokens?_of_lt {res : List Token} (h : tokens? n before done cs = .ok res)
    (hn : cs.length < n) (hm : cs.length < m) : tokens? m before done cs = .ok res := by
  induction n generalizing m before done cs with
  | zero => omega
  | succ n ih =>
    obtain ⟨m, rfl⟩ : ∃ k, m = k + 1 := ⟨m - 1, by omega⟩
    rcases tokens?_eq_ok h with ⟨rfl, rfl⟩ | ⟨t, c, rest, hread, hrest⟩ |
        ⟨hblocks, ⟨rfl, rfl⟩ | ⟨rest, rfl, hrest⟩⟩
    · rw [tokens?]
    · have hlt := hread.length_lt
      rw [hread.tokens?_eq]
      exact ih hrest (by omega) (by omega)
    · rw [tokens?_stars]
      simp [hblocks]
    · simp only [List.length_cons] at hn hm
      rw [tokens?_recursive m done hblocks]
      exact ih hrest (by omega) (by omega)

/-- The characters that a pattern stands for are characters of its text. -/
theorem mem_of_char_mem {res : List Token} {c : Char} (h : tokens? n before done cs = .ok res)
    (hc : .char c ∈ res) : .char c ∈ done ∨ c ∈ cs := by
  have hwith : ∀ {done}, .char c ∈ withRecursive done → .char c ∈ done := by
    intro done
    unfold withRecursive
    split <;> simp
  induction n generalizing before done cs with
  | zero =>
    obtain rfl := Except.ok.inj h
    exact .inl (List.mem_reverse.1 hc)
  | succ n ih =>
    rcases tokens?_eq_ok h with ⟨rfl, rfl⟩ | ⟨t, d, rest, hread, hrest⟩ |
        ⟨-, ⟨rfl, rfl⟩ | ⟨rest, rfl, hrest⟩⟩
    · exact .inl (List.mem_reverse.1 hc)
    · rcases ih hrest with h | h
      · rcases List.mem_cons.1 h with h | h
        · exact .inr (hread.mem_of_eq_char h.symm)
        · exact .inl h
      · exact .inr (hread.subset h)
    · exact .inl (hwith (List.mem_reverse.1 hc))
    · rcases ih hrest with h | h
      · exact .inl (hwith h)
      · exact .inr (by simp [h])

/-- **A component reads as it does by itself wherever it stands,** unless it is `**`: what
comes behind it is read with its tokens in front. -/
theorem tokens?_component {res : List Token} (hslash : '/' ∉ cs)
    (h : tokens? n before done cs = .ok res) (hn : cs.length < n) :
    (blocks before = false ∧ cs = ['*', '*'] ∧ res = (withRecursive done).reverse) ∨
      ∃ ts, res = done.reverse ++ ts ∧ Token.recursive ∉ ts ∧
        ∀ {tail before' done' res' m}, EndsPiece tail → (cs ++ tail).length < m →
          (∀ c, tokens? (tail.length + 1) c (ts.reverse ++ done') tail = .ok res') →
          tokens? m before' done' (cs ++ tail) = .ok res' := by
  induction n generalizing before done cs with
  | zero => omega
  | succ n ih =>
    rcases tokens?_eq_ok h with ⟨rfl, rfl⟩ | ⟨t, c, rest, hread, hrest⟩ |
        ⟨hblocks, ⟨rfl, rfl⟩ | ⟨rest, rfl, hrest⟩⟩
    · refine .inr ⟨[], by simp, by simp, fun {tail before' done' res' m} _ hm hgo => ?_⟩
      exact tokens?_of_lt (hgo before') (by simp) hm
    · have hlt := hread.length_lt
      rcases ih (fun h => hslash (hread.subset h)) hrest (by omega) with
        ⟨hnot, -⟩ | ⟨ts, rfl, hrec, hgo⟩
      · simp [hread.blocks_eq hslash] at hnot
      · refine .inr ⟨t :: ts, by simp, ?_, fun {tail before' done' res' m} htail hm hts => ?_⟩
        · rw [List.mem_cons, not_or]
          exact ⟨hread.ne_recursive.symm, hrec⟩
        · rw [List.length_append] at hm
          obtain ⟨m, rfl⟩ : ∃ k, m = k + 1 := ⟨m - 1, by omega⟩
          rw [(hread.append htail).tokens?_eq]
          refine hgo htail (by rw [List.length_append]; omega) fun c => ?_
          simpa using hts c
    · exact .inl ⟨hblocks, rfl, rfl⟩
    · simp at hslash

/-! ### The whole pattern -/

/-- The tokens of a pattern with the components given.  `after` says that a `**` comes right
before them. -/
def joined (after : Bool) : List Pattern → List Token
  | [] => []
  | p :: rest =>
    if p.isRecursive then (if after then [] else [.recursive]) ++ joined true rest
    else p.tokens ++ if rest.isEmpty then [] else .char '/' :: joined false rest

/-- The tokens read so far end with a `**` that one more does not add to. -/
def follows : List Token → Bool
  | .recursive :: _ :: _ => true
  | _ => false

theorem reverse_withRecursive (done : List Token) :
    (withRecursive done).reverse = done.reverse ++ if follows done then [] else [.recursive] := by
  unfold withRecursive follows
  split <;> simp

theorem follows_withRecursive (hdone : done ≠ []) : follows (withRecursive done) = true := by
  unfold withRecursive
  split
  · rfl
  · cases done with
    | nil => exact absurd rfl hdone
    | cons t ts => rfl

/-- A pattern keeps its text and the tokens that are read from it. -/
theorem ofText_eq_ok_iff {p : Pattern} {text : String} : Pattern.ofText text = .ok p ↔
    tokens? (text.toList.length + 1) none [] text.toList = .ok p.tokens ∧ p.text = text := by
  obtain ⟨text', tokens'⟩ := p
  unfold Pattern.ofText
  split
  · rename_i tokens htokens
    simp [htokens, and_comm, eq_comm]
  · rename_i fault hfault
    simp [hfault]

/-- A component is `**`, or it has no `**` and reads the same in a pattern. -/
theorem component_cases {p : Pattern} (hslash : '/' ∉ cs)
    (hp : Pattern.ofText (String.ofList cs) = .ok p) :
    (cs = ['*', '*'] ∧ p.isRecursive = true) ∨
      p.isRecursive = false ∧ ∀ {tail before' done' res' m}, EndsPiece tail →
        (cs ++ tail).length < m →
        (∀ c, tokens? (tail.length + 1) c (p.tokens.reverse ++ done') tail = .ok res') →
        tokens? m before' done' (cs ++ tail) = .ok res' := by
  obtain ⟨text, tokens⟩ := p
  obtain ⟨htokens, -⟩ := ofText_eq_ok_iff.1 hp
  rw [String.toList_ofList] at htokens
  rcases tokens?_component hslash htokens (by omega) with ⟨-, hcs, rfl⟩ | ⟨ts, rfl, hrec, hgo⟩
  · exact .inl ⟨hcs, rfl⟩
  · exact .inr ⟨by simpa [Pattern.isRecursive] using hrec, hgo⟩

/-- **A pattern has the tokens of its components.** -/
theorem tokens?_components {pieces : List (List Char)} {ps : List Pattern}
    (hps : (pieces.mapM fun cs => Pattern.ofText (String.ofList cs)) = .ok ps)
    (hslash : ∀ cs ∈ pieces, '/' ∉ cs) (hne : pieces ≠ []) (hdone : done ≠ [])
    (hblocks : blocks before = false) (hn : (['/'].intercalate pieces).length < n) :
    tokens? n before done (['/'].intercalate pieces) =
      .ok (done.reverse ++ joined (follows done) ps) := by
  induction pieces generalizing ps before done n with
  | nil => exact absurd rfl hne
  | cons piece pieces ih =>
    obtain ⟨p, qs, hp, hqs, rfl⟩ := mapM_cons_eq_ok_iff.1 hps
    obtain ⟨hpiece, hpieces⟩ := List.forall_mem_cons.1 hslash
    have hcomponent := component_cases hpiece hp
    cases pieces with
    | nil =>
      obtain rfl : qs = [] := (Except.ok.inj hqs).symm
      rw [List.intercalate_singleton] at hn ⊢
      rcases hcomponent with ⟨rfl, hrec⟩ | ⟨hflat, hgo⟩
      · obtain ⟨n, rfl⟩ : ∃ k, n = k + 1 := ⟨n - 1, by omega⟩
        rw [tokens?_stars]
        simp [hblocks, reverse_withRecursive, joined, hrec]
      · have := @hgo [] before done (done.reverse ++ p.tokens) n trivial (by simpa using hn)
          fun c => by simp [tokens?]
        simpa [joined, hflat] using this
    | cons piece' pieces =>
      rw [List.intercalate_cons_cons] at hn ⊢
      generalize hrest : ['/'].intercalate (piece' :: pieces) = rest at hn ih ⊢
      simp only [List.length_append, List.length_cons, List.length_nil] at hn
      rw [List.append_assoc]
      rcases hcomponent with ⟨rfl, hrec⟩ | ⟨hflat, hgo⟩
      · obtain ⟨n, rfl⟩ : ∃ k, n = k + 1 := ⟨n - 1, by omega⟩
        have hnext : withRecursive done ≠ [] := fun h => by
          simpa [h, follows] using follows_withRecursive hdone
        have hrest' := @ih n (some '/') _ qs hqs hpieces (by simp) hnext rfl
          (by simp at hn; omega)
        rw [reverse_withRecursive, follows_withRecursive hdone] at hrest'
        have := tokens?_recursive n done hblocks rest
        simp only [List.cons_append, List.nil_append, this, hrest', joined, hrec, if_true,
          List.append_assoc]
      · refine @hgo ('/' :: rest) _ _ _ _ rfl (by simp; omega) fun c => ?_
        rw [List.length_cons, (Reads.plain (by decide) (by decide) (by decide)).tokens?_eq]
        have hsome : qs.isEmpty = false := by
          obtain ⟨_, _, _, _, rfl⟩ := mapM_cons_eq_ok_iff.1 hqs
          rfl
        rw [@ih (rest.length + 1) (some '/') (.char '/' :: (p.tokens.reverse ++ done)) qs hqs
          hpieces (by simp) (by simp) rfl (by omega)]
        simp [joined, hflat, hsome, follows]

end Glob
end LintWorkspace
