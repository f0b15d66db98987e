/-
# The parameters by slices

The scan again, on places in bytes.  Every part of the text it looks at is a slice, and a slice
that is out of range or splits a character is `none`:

| slice | from | to |
| --- | --- | --- |
| body | behind the brace of a head | the byte that closes it |
| piece | behind a comma | the next comma, or the end of the list |
| declaration | the start of a piece | the first byte that is a colon and stands alone |
| name | where it starts in its declaration | where it ends |
| beside a word | the start of the body, or the end of the word | the word, or the end of the body |

All these places lie at bytes below 128, or were counted in whole characters.  So no slice is
`none`, and each function here gives what its counterpart on characters gives.
-/

import LintWorkspace.Proofs.Reports
import LintWorkspace.Proofs.Bytes

namespace LintWorkspace
namespace Diagnostic

open Text (byteLength byteLength_append byteLength_cons byteOf bytes bytes_cons cutAt? slice?)

variable {cs rest body params piece word u v : List Char} {pieces : List (List Char)} {h : Hit}

/-- How many bytes a text takes up to a character. -/
def byteAt (cs : List Char) (n : Nat) : Nat := byteLength (cs.take n)

theorem byteAt_append (u v : List Char) : byteAt (u ++ v) u.length = byteLength u := by
  rw [byteAt, List.take_left]

/-! ### The brace that closes a body -/

/-- The place of the byte that closes a number of braces, from a place on. -/
def closingFrom? : Nat → Nat → List UInt8 → Option Nat
  | _, _, [] => none
  | depth, i, b :: bs =>
    if b = byteOf '{' then closingFrom? (depth + 1) (i + 1) bs
    else if b = byteOf '}' then
      if depth - 1 = 0 then some i else closingFrom? (depth - 1) (i + 1) bs
    else closingFrom? depth (i + 1) bs

/-- The place of the brace that closes the one before a place: `none` if the text ends before
the place. -/
def matchingBrace? (cs : List Char) (start : Nat) : Option (Option Nat) :=
  if start ≤ byteLength cs then some (closingFrom? 1 start ((bytes cs).drop start)) else none

/-- Bytes that are no braces are passed over. -/
theorem closingFrom?_append {bs : List UInt8} (hopen : byteOf '{' ∉ bs) (hclose : byteOf '}' ∉ bs)
    (depth i : Nat) (more : List UInt8) :
    closingFrom? depth i (bs ++ more) = closingFrom? depth (i + bs.length) more := by
  induction bs generalizing i with
  | nil => rfl
  | cons b bs ih =>
    rw [List.mem_cons, not_or] at hopen hclose
    rw [List.cons_append, closingFrom?, if_neg (Ne.symm hopen.1), if_neg (Ne.symm hclose.1),
      ih hopen.2 hclose.2, List.length_cons, Nat.add_assoc, Nat.add_comm 1]

/-- **The closing byte stands where the body ends.** -/
theorem closingFrom?_bytes (depth i : Nat) (cs : List Char) :
    closingFrom? (depth + 1) i (bytes cs) =
      (body? depth cs).map fun body => i + byteLength body := by
  induction cs generalizing depth i with
  | nil => rfl
  | cons c cs ih =>
    rw [bytes_cons]
    by_cases hopen : c = '{'
    · subst hopen
      rw [Text.encode_ascii (by decide), List.singleton_append, closingFrom?, if_pos rfl, ih,
        body?_open, Option.map_map]
      congr 1
      funext body
      rw [Function.comp_apply, byteLength_cons, ← Nat.add_assoc]
      rfl
    · by_cases hclose : c = '}'
      · subst hclose
        rw [Text.encode_ascii (by decide), List.singleton_append, closingFrom?,
          if_neg (by decide), if_pos rfl]
        cases depth with
        | zero => rfl
        | succ depth =>
          rw [if_neg (by omega), Nat.add_sub_cancel, ih, body?_close, Option.map_map]
          congr 1
          funext body
          rw [Function.comp_apply, byteLength_cons, ← Nat.add_assoc]
          rfl
      · have hbytes : ∀ a : Char, a.toNat < 128 → c ≠ a → byteOf a ∉ String.utf8EncodeChar c :=
          fun a ha hne hmem => hne ((Text.mem_encode_iff ha).1 hmem)
        rw [closingFrom?_append (hbytes '{' (by decide) hopen) (hbytes '}' (by decide) hclose), ih,
          body?_other hopen hclose, Option.map_map, String.length_utf8EncodeChar]
        congr 1
        funext body
        rw [Function.comp_apply, byteLength_cons, ← Nat.add_assoc]

/-- The bytes behind a place of a text are those of what follows it. -/
theorem matchingBrace?_append (u rest : List Char) : matchingBrace? (u ++ rest) (byteLength u) =
    some ((body? 0 rest).map fun body => byteLength u + byteLength body) := by
  have hdrop : (bytes (u ++ rest)).drop (byteLength u) = bytes rest := by
    rw [Text.bytes_append, byteLength, List.drop_left]
  rw [matchingBrace?, if_pos (by rw [byteLength_append]; omega), hdrop, closingFrom?_bytes]

/-! ### The pieces of a parameter list -/

/-- The pieces of a parameter list, cut from a place on by where the last one ended. -/
def slicesFrom? (params : List Char) : Int → Nat → Nat → List Char → Option (List (List Char))
  | _, last, _, [] => (slice? params last (byteLength params)).map fun piece => [piece]
  | depth, last, i, c :: cs =>
    if c = '<' ∨ c = '[' then slicesFrom? params (depth + 1) last (i + c.utf8Size) cs
    else if c = '>' ∨ c = ']' then slicesFrom? params (depth - 1) last (i + c.utf8Size) cs
    else if c = ',' ∧ depth = 0 then
      (slice? params last i).bind fun piece =>
        (slicesFrom? params depth (i + 1) (i + c.utf8Size) cs).map (piece :: ·)
    else slicesFrom? params depth last (i + c.utf8Size) cs

/-- **The slices between the commas are the pieces:** the one that is open goes from the last
comma to where the scan is. -/
theorem slicesFrom?_eq {depth : Int} {open' : List Char} (hparams : params = u ++ open' ++ cs)
    (hpieces : splitParams depth cs = piece :: pieces) :
    slicesFrom? params depth (byteLength u) (byteLength (u ++ open')) cs =
      some ((open' ++ piece) :: pieces) := by
  induction cs generalizing depth u open' piece pieces with
  | nil =>
    obtain ⟨rfl, rfl⟩ := List.cons.inj hpieces
    rw [List.append_nil] at hparams ⊢
    rw [slicesFrom?, hparams, Text.slice?_back]
    rfl
  | cons c cs ih =>
    have hmove : byteLength (u ++ open') + c.utf8Size = byteLength (u ++ (open' ++ [c])) := by
      rw [← List.append_assoc, byteLength_append (u ++ open'), byteLength_cons]
      rfl
    have hparams' : params = u ++ (open' ++ [c]) ++ cs := by simp [hparams]
    by_cases hc : c = ',' ∧ depth = 0
    · obtain ⟨rfl, rfl⟩ := hc
      rw [splitParams_comma] at hpieces
      obtain ⟨rfl, rfl⟩ := List.cons.inj hpieces
      obtain ⟨piece, pieces, hmore⟩ := List.exists_cons_of_ne_nil (isSplit_splitParams 0 cs).ne_nil
      have hslice : slice? params (byteLength u) (byteLength (u ++ open')) = some open' := by
        rw [hparams]
        exact Text.slice?_eq_some_iff.2 ⟨u, ',' :: cs, rfl, rfl, rfl⟩
      have hbehind : byteLength (u ++ open') + 1 = byteLength (u ++ (open' ++ [','])) := hmove
      rw [slicesFrom?, if_neg (by decide), if_neg (by decide), if_pos ⟨rfl, rfl⟩, hslice,
        Option.bind_some, hmore, hmove, hbehind]
      have hih := @ih _ (u ++ (open' ++ [','])) _ 0 [] (by simpa using hparams') hmore
      rw [List.append_nil] at hih ⊢
      rw [hih]
      rfl
    · have hne := (isSplit_splitParams (height [c] + depth) cs).ne_nil
      obtain ⟨piece', pieces', hmore⟩ := List.exists_cons_of_ne_nil hne
      rw [splitParams_other hc hmore] at hpieces
      obtain ⟨rfl, rfl⟩ := List.cons.inj hpieces
      have hih := ih hparams' hmore
      rw [List.append_assoc, List.singleton_append] at hih
      rw [slicesFrom?, hmove, ← hih]
      rw [height_singleton]
      split
      · rw [Int.add_comm]
      · split
        · rw [Int.add_comm, Int.sub_eq_add_neg]
        · rw [Int.zero_add]

/-! ### The name of a parameter -/

/-- Whether the byte at a place is a colon with none beside it. -/
def colonAt (bs : List UInt8) (i : Nat) : Bool :=
  bs[i]? = some (byteOf ':') && bs[i + 1]? ≠ some (byteOf ':') &&
    (i = 0 || bs[i - 1]? ≠ some (byteOf ':'))

/-- The place of the first colon that stands alone. -/
def singleColon? (cs : List Char) : Option Nat :=
  (List.range (byteLength cs)).find? (colonAt (bytes cs))

/-- Two ways to cut a text behind the same number of bytes are one. -/
theorem append_inj_byteLength {u' v' : List Char} (h : u ++ v = u' ++ v')
    (hlength : byteLength u = byteLength u') : u = u' ∧ v = v' := by
  have hcut : cutAt? (byteLength u) (u ++ v) = some (u', v') :=
    Text.cutAt?_eq_some_iff.2 ⟨h, hlength.symm⟩
  rw [Text.cutAt?_eq_some_iff.2 ⟨rfl, rfl⟩] at hcut
  exact Prod.mk.inj (Option.some.inj hcut)

/-- A byte is a colon that stands alone exactly where a character is. -/
theorem colonAt_iff {i : Nat} : colonAt (bytes cs) i = true ↔
    ∃ u v, cs = u ++ ':' :: v ∧ Alone u v ∧ byteLength u = i := by
  have hcolon : ∀ j, (bytes cs)[j]? = some (byteOf ':') ↔
      ∃ u v, cs = u ++ ':' :: v ∧ byteLength u = j := fun j => Text.bytes_getElem?_iff (by decide)
  have hsize : ∀ u : List Char, byteLength (u ++ [':']) = byteLength u + 1 := fun u =>
    byteLength_append u [':']
  simp only [colonAt, Bool.and_eq_true, Bool.or_eq_true, decide_eq_true_eq, and_assoc]
  constructor
  · rintro ⟨hat, hafter, hbefore⟩
    obtain ⟨u, v, rfl, rfl⟩ := (hcolon _).1 hat
    refine ⟨u, v, rfl, ⟨fun hlast => ?_, fun hhead => ?_⟩, rfl⟩
    · obtain ⟨u, rfl⟩ := List.getLast?_eq_some_iff.1 hlast
      rw [hsize, Nat.add_sub_cancel] at hbefore
      exact (hbefore.resolve_left (Nat.succ_ne_zero _)) ((hcolon _).2 ⟨u, ':' :: v, by simp, rfl⟩)
    · obtain ⟨v, rfl⟩ := List.head?_eq_some_iff.1 hhead
      exact hafter ((hcolon _).2 ⟨u ++ [':'], v, by simp, hsize u⟩)
  · rintro ⟨u, v, rfl, ⟨hlast, hhead⟩, rfl⟩
    refine ⟨(hcolon _).2 ⟨u, v, rfl, rfl⟩, fun hafter => ?_, ?_⟩
    · obtain ⟨u', v', heq, hlength⟩ := (hcolon _).1 hafter
      rw [← List.singleton_append, ← List.append_assoc] at heq
      obtain ⟨-, rfl⟩ := append_inj_byteLength heq ((hsize u).trans hlength.symm)
      exact hhead rfl
    · rcases Nat.eq_zero_or_pos (byteLength u) with hzero | hpos
      · exact .inl hzero
      · refine .inr fun hbefore => ?_
        obtain ⟨u', v', heq, hlength⟩ := (hcolon _).1 hbefore
        rw [← List.singleton_append (l := v'), ← List.append_assoc] at heq
        obtain ⟨rfl, -⟩ := append_inj_byteLength heq (by rw [hsize]; omega)
        exact hlast List.getLast?_concat

/-- **The first byte that is a colon and stands alone is where the declaration ends.** -/
theorem singleColon?_eq (piece : List Char) :
    singleColon? piece = (beforeColon? false piece).map byteLength := by
  cases hdecl : beforeColon? false piece with
  | none =>
    rw [beforeColon?_eq_none_iff] at hdecl
    refine List.find?_eq_none.2 fun i _ hi => ?_
    obtain ⟨u, v, heq, halone, -⟩ := colonAt_iff.1 hi
    exact hdecl u v heq halone
  | some decl =>
    rw [beforeColon?_eq_some_iff] at hdecl
    obtain ⟨after, rfl, halone⟩ := hdecl.colon
    refine List.find?_range_eq_some.2 ⟨colonAt_iff.2 ⟨decl, after, rfl, halone, rfl⟩, ?_, ?_⟩
    · rw [List.mem_range, byteLength_append, byteLength_cons]
      have := ':'.utf8Size_pos
      omega
    · intro j hj
      rw [Bool.not_eq_true', Bool.eq_false_iff]
      intro hcolon
      obtain ⟨u, v, heq, halone', rfl⟩ := colonAt_iff.1 hcolon
      have hle := hdecl.first u v heq halone'
      obtain ⟨more, rfl⟩ : decl <+: u :=
        List.prefix_of_prefix_length_le ⟨_, rfl⟩ ⟨_, heq.symm⟩ hle
      rw [byteLength_append] at hj
      omega

/-- The name a parameter declares, sliced out of its piece, with its place there. -/
def slicedName? (piece : List Char) : Option (Option (Nat × List Char)) :=
  let decl? := match singleColon? piece with
    | some i => slice? piece 0 i
    | none => some (piece.takeWhile (· ≠ '='))
  decl?.bind fun decl =>
    let found := if (singleColon? piece).isSome then
        (names decl).filter fun h => h.text ≠ "mut".toList && h.text ≠ "ref".toList
      else names decl
    match found.getLast? with
    | none => some none
    | some h =>
      let start := byteAt decl h.offset
      (slice? piece start (start + byteLength h.text)).map fun name => some (start, name)

/-- A name is sliced out at its place, also when the text goes on. -/
theorem NameAt.slice?_append (hh : NameAt cs h) (rest : List Char) :
    slice? (cs ++ rest) (byteAt cs h.offset) (byteAt cs h.offset + byteLength h.text) =
      some h.text := by
  obtain ⟨front, pre, back, rfl, hoffset, -⟩ := hh
  have hat : byteAt (front ++ pre ++ h.text ++ back) h.offset = byteLength (front ++ pre) := by
    rw [hoffset, List.append_assoc, byteAt_append]
  rw [hat, List.append_assoc _ back]
  exact Text.slice?_append (front ++ pre) h.text (back ++ rest)

/-- The place of a name does not depend on what follows. -/
theorem NameAt.byteAt_append (hh : NameAt cs h) (rest : List Char) :
    byteAt (cs ++ rest) h.offset = byteAt cs h.offset := by
  obtain ⟨front, pre, back, rfl, hoffset, -⟩ := hh
  rw [byteAt, byteAt, List.take_append_of_le_length]
  simp only [hoffset, List.length_append]
  omega

/-- **The sliced name is the declared one.** -/
theorem slicedName?_eq (piece : List Char) : slicedName? piece =
    some ((declaredName? piece).map fun h => (byteAt piece h.offset, h.text)) := by
  obtain ⟨after, heq, -⟩ := exists_declaration piece
  -- both declarations are searched in the same way
  have hsliced : ∀ found : Option Hit, (∀ h, found = some h → h ∈ names (declaration piece)) →
      (match found with
        | none => some none
        | some h => (slice? piece (byteAt (declaration piece) h.offset)
            (byteAt (declaration piece) h.offset + byteLength h.text)).map fun name =>
              some (byteAt (declaration piece) h.offset, name)) =
      some (found.map fun h => (byteAt piece h.offset, h.text)) := fun found hfound => by
    cases found with
    | none => rfl
    | some h =>
      have hname := nameAt_of_mem_names (hfound h rfl)
      have hslice := hname.slice?_append after
      have hat := hname.byteAt_append after
      rw [← heq] at hslice hat
      simp only [hslice, hat, Option.map_some]
  have hmem : ∀ h, declaredName? piece = some h → h ∈ names (declaration piece) := fun h =>
    mem_names_of_declaredName?
  rw [← hsliced _ hmem]
  cases hdecl : beforeColon? false piece with
  | none =>
    simp only [slicedName?, singleColon?_eq, declaredName?, declaration, hdecl, Option.map_none,
      Option.bind_some, Option.isSome_none, Bool.false_eq_true, if_false, Option.getD_none]
  | some decl =>
    have hfront : slice? piece 0 (byteLength decl) = some decl := by
      rw [declaration, hdecl, Option.getD_some] at heq
      rw [heq]
      exact Text.slice?_front decl after
    simp only [slicedName?, singleColon?_eq, declaredName?, declaration, hdecl, Option.map_some,
      hfront, Option.bind_some, Option.isSome_some, if_true, Option.getD_some]

/-! ### Words -/

/-- The places at which a word occurs, from a place on and without overlap. -/
def placesFrom (word : List Char) : Nat → Nat → List Char → List Nat
  | 0, _, _ => []
  | _ + 1, _, [] => []
  | n + 1, i, c :: cs =>
    if word.isPrefixOf (c :: cs) then
      i :: placesFrom word n (i + byteLength word) ((c :: cs).drop word.length)
    else placesFrom word n (i + c.utf8Size) cs

/-- Whether the characters beside an occurrence of a word belong to no word. -/
def apartAt? (cs word : List Char) (i : Nat) : Option Bool :=
  (slice? cs 0 i).bind fun before =>
    (slice? cs (i + byteLength word) (byteLength cs)).map fun after =>
      !before.getLast?.any joins && !after.head?.any joins

/-- Whether a word occurs in a text as a word of its own, by slices beside its occurrences. -/
def slicedMention? (cs word : List Char) : Option Bool :=
  ((placesFrom word (cs.length + 1) 0 cs).mapM (apartAt? cs word)).map (·.any id)

theorem mapM_placesFrom (hword : word ≠ []) (n : Nat) (u : List Char) :
    ∃ found, (placesFrom word n (byteLength u) rest).mapM (apartAt? (u ++ rest) word) =
      some found ∧ found.any id = mentionsFrom word n u.getLast? rest := by
  induction n generalizing u rest with
  | zero => exact ⟨[], rfl, rfl⟩
  | succ n ih =>
    cases rest with
    | nil => exact ⟨[], rfl, rfl⟩
    | cons c cs =>
      rw [placesFrom, mentionsFrom]
      split
      · rename_i hprefix
        obtain ⟨after, hafter⟩ := List.isPrefixOf_iff_prefix.1 hprefix
        rw [← hafter, List.drop_left, List.mapM_cons]
        obtain ⟨found, hfound, hany⟩ := @ih after (u ++ word)
        have hlast : (u ++ word).getLast? = word.getLast? := by
          obtain ⟨last, hlast⟩ := Option.ne_none_iff_exists'.1
            (mt List.getLast?_eq_none_iff.1 hword)
          rw [List.getLast?_append, hlast, Option.some_or]
        have happart : apartAt? (u ++ (word ++ after)) word (byteLength u) =
            some (!u.getLast?.any joins && !after.head?.any joins) := by
          rw [apartAt?, Text.slice?_front, Option.bind_some, ← byteLength_append,
            ← List.append_assoc, Text.slice?_back]
          rfl
        rw [byteLength_append, List.append_assoc] at hfound
        rw [hlast] at hany
        refine ⟨_, by rw [happart, hfound]; rfl, ?_⟩
        rw [List.any_cons, hany]
        dsimp only
        cases !u.getLast?.any joins && !after.head?.any joins <;> rfl
      · obtain ⟨found, hfound, hany⟩ := @ih cs (u ++ [c])
        rw [byteLength_append, byteLength_cons, Text.byteLength_nil, Nat.add_zero,
          List.append_assoc, List.singleton_append] at hfound
        rw [List.getLast?_concat] at hany
        exact ⟨found, hfound, hany⟩

/-- **A word is found by slices where it is mentioned.** -/
theorem slicedMention?_eq (hword : word ≠ []) :
    slicedMention? cs word = some (mentions cs word) := by
  obtain ⟨found, hfound, hany⟩ := @mapM_placesFrom cs word hword (cs.length + 1) []
  rw [slicedMention?, mentions]
  rw [List.nil_append, Text.byteLength_nil] at hfound
  rw [hfound, Option.map_some, hany]
  rfl

/-! ### The whole scan -/

/-- The parameters among the pieces of a list at a place that a body does not use. -/
def slicedUnusedIn? (body : List Char) : Nat → List (List Char) → Option (List (Nat × List Char))
  | _, [] => some []
  | start, piece :: pieces =>
    (slicedName? piece).bind fun declared =>
      (slicedUnusedIn? body (start + byteLength piece + 1) pieces).bind fun rest =>
        match declared with
        | none => some rest
        | some (at', name) =>
          if isExempt name then some rest
          else (slicedMention? body name).map fun used =>
            if used then rest else (start + at', name) :: rest

/-- The parameters of a function in a text that its body does not use. -/
def Head.slicedUnused? (cs : List Char) (h : Head) : Option (List (Nat × List Char)) :=
  if controlWords.contains h.name then some []
  else (matchingBrace? cs (byteAt cs h.bodyAt)).bind fun closing =>
    match closing with
    | none => some []
    | some close =>
      (slice? cs (byteAt cs h.bodyAt) close).bind fun body =>
        (slicesFrom? h.params 0 0 0 h.params).bind fun pieces =>
          slicedUnusedIn? body (byteAt cs h.paramsAt) pieces

/-- The parameters in a text that their functions do not use, with their places in bytes:
`none` if a slice is out of range or splits a character. -/
def slicedUnusedHits? (cs : List Char) : Option (List (Nat × List Char)) :=
  ((heads cs).mapM (Head.slicedUnused? cs)).map List.flatten

/-- An occurrence by its place in bytes. -/
def Occurrence.inBytes (o : Occurrence) : Nat × List Char := (byteLength o.before, o.name)

/-- The names sliced out of the pieces of a list are those of its occurrences. -/
theorem slicedUnusedIn?_eq (body before : List Char) (pieces : List (List Char)) :
    slicedUnusedIn? body (byteLength before) pieces =
      some (((located before pieces).filterMap fun p => unused? body p.1 p.2).map
        Occurrence.inBytes) := by
  induction pieces generalizing before with
  | nil => rfl
  | cons piece pieces ih =>
    have hrest := ih (before ++ piece ++ [','])
    have hcomma : byteLength [','] = 1 := rfl
    rw [byteLength_append, byteLength_append, hcomma] at hrest
    rw [slicedUnusedIn?, located, List.filterMap_cons, slicedName?_eq, Option.bind_some, hrest,
      Option.bind_some, unused?]
    cases hh : declaredName? piece with
    | none => rfl
    | some h =>
      have hne : h.text ≠ [] := by
        obtain ⟨front, pre, back, -, -, hname⟩ := nameAt_of_declaredName? hh
        obtain ⟨c, tail, htext, -⟩ := hname.name
        rw [htext]
        exact List.cons_ne_nil c tail
      simp only [Option.map_some, isExempt_iff, slicedMention?_eq hne, Option.bind_some]
      by_cases hexempt : h.text = "self".toList ∨ h.text = "this".toList ∨ h.text.head? = some '_'
      · rw [if_pos hexempt, if_pos (by tauto)]
      · rw [if_neg hexempt]
        cases hused : mentions body h.text with
        | true => rw [if_pos rfl, if_pos (by tauto)]
        | false =>
          rw [if_neg Bool.false_ne_true, if_neg (by simpa using hexempt), List.map_cons,
            Occurrence.inBytes, byteLength_append]
          rfl

/-- The names sliced out at a head are its unused parameters. -/
theorem Site.slicedUnused?_head (s : Site) :
    s.head.slicedUnused? s.text = some (s.unused.map Occurrence.inBytes) := by
  have hbody : byteAt s.text s.head.bodyAt = byteLength s.entered := byteAt_append s.entered s.rest
  have hparams : byteAt s.text s.head.paramsAt = byteLength s.opened := by
    rw [Site.text, Site.entered, List.append_assoc, List.append_assoc, List.append_assoc]
    exact byteAt_append s.opened _
  have hbrace : matchingBrace? s.text (byteLength s.entered) = some ((body? 0 s.rest).map
      fun body => byteLength s.entered + byteLength body) := matchingBrace?_append _ _
  have hpieces : slicesFrom? s.params 0 0 0 s.params = some (splitParams 0 s.params) := by
    obtain ⟨piece, pieces, heq⟩ :=
      List.exists_cons_of_ne_nil (isSplit_splitParams 0 s.params).ne_nil
    rw [heq]
    exact @slicesFrom?_eq s.params s.params piece [] pieces 0 [] rfl heq
  rw [Head.slicedUnused?, Site.unused, hbody, hparams, hbrace, Option.bind_some]
  change (if controlWords.contains s.name then _ else _) = _
  split
  · rfl
  · cases hfound : body? 0 s.rest with
    | none => rfl
    | some body =>
      obtain ⟨after, hrest⟩ := (body?_eq_some_iff.1 hfound).closing
      have hslice : slice? s.text (byteLength s.entered) (byteLength s.entered + byteLength body) =
          some body := by
        rw [Site.text, hrest, ← List.append_assoc]
        exact Text.slice?_append s.entered body _
      simp only [Option.map_some, hslice, Option.bind_some]
      change (slicesFrom? s.params 0 0 0 s.params).bind _ = _
      rw [hpieces, Option.bind_some]
      exact slicedUnusedIn?_eq body s.opened _

/-- A parameter inside the parentheses of a head is sliced out of the text at its place. -/
theorem Occurrence.Within.slice? {o : Occurrence} {s : Site} (h : o.Within s) :
    Text.slice? s.text (byteLength o.before) (byteLength o.before + byteLength o.name) =
      some o.name := by
  obtain ⟨u, v, hparams, hbefore⟩ := h
  have htext : s.text = o.before ++ o.name ++ (v ++ ')' :: s.result ++ ['{'] ++ s.rest) := by
    simp [Site.text, Site.entered, hparams, hbefore]
  rw [htext]
  exact Text.slice?_append o.before o.name _

/-- **The unused parameters of a text are exactly those of its function heads.**  The heads are
gone through from the left; of each one the parameters to be reported are found in order, every
one with its offset, inside the parentheses of the head.  The scan that takes every part of the
text as a slice between two numbers of bytes meets no slice that is out of range or splits a
character, and gives the same names with their places in bytes. -/
theorem unusedHits_exact (cs : List Char) : ∃ sites found,
    Scan cs 0 sites ∧ (∀ sites', Scan cs 0 sites' → sites' = sites) ∧
    List.Forall₂ (fun s os => Reported s os ∧ (∀ os', Reported s os' → os' = os) ∧
      ∀ o ∈ os, o.Within s) sites found ∧
    unusedHits cs = found.flatten.map Occurrence.hit ∧
    slicedUnusedHits? cs = some (found.flatten.map Occurrence.inBytes) ∧
    ∀ o ∈ found.flatten, slice? cs (byteLength o.before)
      (byteLength o.before + byteLength o.name) = some o.name := by
  obtain ⟨sites, hscan, hheads⟩ := exists_scan_heads cs
  have hsites := hscan.of_mem
  have hsliced : ∀ ss : List Site, (∀ s ∈ ss, s.text = cs) →
      (ss.map Site.head).mapM (Head.slicedUnused? cs) =
        some (ss.map fun s => s.unused.map Occurrence.inBytes) := by
    intro ss hss
    induction ss with
    | nil => rfl
    | cons s ss ih =>
      have hs : s.head.slicedUnused? cs = some (s.unused.map Occurrence.inBytes) := by
        rw [← hss s List.mem_cons_self]
        exact s.slicedUnused?_head
      rw [List.map_cons, List.mapM_cons, hs, ih fun t ht => hss t (List.mem_cons_of_mem s ht)]
      rfl
  refine ⟨sites, sites.map Site.unused, hscan, fun sites' h => h.unique hscan, ?_, ?_, ?_, ?_⟩
  · rw [List.forall₂_map_right_iff, List.forall₂_same]
    intro s _
    exact ⟨s.reported_unused, fun os h => h.eq_unused, fun o ho => Site.within_of_mem_unused ho⟩
  · rw [unusedHits, hheads, List.flatMap_map, List.map_flatten, List.map_map, ← List.flatMap_def]
    exact List.flatMap_congr fun s _ => s.unused_head
  · rw [slicedUnusedHits?, hheads, hsliced sites fun s hs => (hsites s hs).2, Option.map_some,
      List.map_flatten, List.map_map]
    rfl
  · intro o ho
    obtain ⟨os, hos, ho⟩ := List.mem_flatten.1 ho
    obtain ⟨s, hs, rfl⟩ := List.mem_map.1 hos
    rw [← (hsites s hs).2]
    exact (Site.within_of_mem_unused ho).slice?

/-- The letter of two bytes before the name moves its place in bytes. -/
example : slicedUnusedHits? "ñ f(u8 a, u8 b) { a }".toList = some [(14, ['b'])] := by
  decide +kernel

end Diagnostic
end LintWorkspace
