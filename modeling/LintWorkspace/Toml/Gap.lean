/-
# What stands between the tokens of a TOML document

A reader takes the head of a text and answers what it read together with the
rest of the text, or nothing.  Between tokens stand blanks (space and tab), line
breaks (`\n` or `\r\n`) and comments, from `#` to the end of the line.

A gap is read without loss: what was read, followed by the rest, is the text
(`append_of_gap?`).
-/

namespace LintWorkspace
namespace Toml

/-- Takes the head of a text: the value read and what follows it. -/
abbrev Reader (α : Type) := List Char → Option (α × List Char)

/-- Space and tab. -/
def isSpace (c : Char) : Bool := c = ' ' || c = '\t'

/-- The characters that may stand in a comment or a string: all but the control
characters, of which tab alone may. -/
def isPlain (c : Char) : Bool := c = '\t' || (0x20 ≤ c.toNat && c.toNat ≠ 0x7F)

/-- What follows a line break at the head of a text, if there is one. -/
def afterBreak? : List Char → Option (List Char)
  | '\n' :: cs => some cs
  | '\r' :: '\n' :: cs => some cs
  | _ => none

/-- The blanks at the head of a text and the rest. -/
def spaces (cs : List Char) : List Char × List Char := (cs.takeWhile isSpace, cs.dropWhile isSpace)

/-- Reads a gap: blanks, line breaks and comments, as far as they go.  The flag says
whether the text starts inside a comment. -/
def gapFrom? : Bool → Reader (List Char)
  | _, [] => some ([], [])
  | _, '\n' :: cs => (gapFrom? false cs).map fun (g, rest) => ('\n' :: g, rest)
  | inComment, '\r' :: cs =>
    match cs with
    | '\n' :: _ => (gapFrom? inComment cs).map fun (g, rest) => ('\r' :: g, rest)
    | _ => none
  | true, c :: cs =>
    if isPlain c then (gapFrom? true cs).map fun (g, rest) => (c :: g, rest) else none
  | false, c :: cs =>
    if isSpace c then (gapFrom? false cs).map fun (g, rest) => (c :: g, rest)
    else if c = '#' then (gapFrom? true cs).map fun (g, rest) => (c :: g, rest)
    else some ([], c :: cs)

/-- Reads a gap that starts outside comments. -/
def gap? : Reader (List Char) := gapFrom? false

/-- Reads the end of a line: blanks, a comment if there is one, and the line break,
which the last line may lack.  The line break is no part of what is read. -/
def lineEnd? (cs : List Char) : Option (List Char × List Char) :=
  let (blank, rest) := spaces cs
  let (comment, rest) := match rest with
    | '#' :: rest => ('#' :: rest.takeWhile isPlain, rest.dropWhile isPlain)
    | rest => ([], rest)
  match rest with
  | [] => some (blank ++ comment, [])
  | _ => (afterBreak? rest).map fun rest => (blank ++ comment, rest)

theorem append_of_gapFrom? {b : Bool} {cs g rest : List Char} (h : gapFrom? b cs = some (g, rest)) :
    g ++ rest = cs := by
  fun_induction gapFrom? b cs generalizing g rest with
  | case1 => simp_all
  | case2 b cs ih =>
    obtain ⟨⟨g', r⟩, hg, he⟩ := Option.map_eq_some_iff.1 h
    cases he
    simp [ih hg]
  | case3 b cs ih =>
    obtain ⟨⟨g', r⟩, hg, he⟩ := Option.map_eq_some_iff.1 h
    cases he
    simp [ih hg]
  | case4 => simp at h
  | case5 c cs _ _ hc ih =>
    obtain ⟨⟨g', r⟩, hg, he⟩ := Option.map_eq_some_iff.1 h
    cases he
    simp [ih hg]
  | case6 => simp at h
  | case7 c cs _ _ hc ih =>
    obtain ⟨⟨g', r⟩, hg, he⟩ := Option.map_eq_some_iff.1 h
    cases he
    simp [ih hg]
  | case8 cs _ _ hc ih =>
    obtain ⟨⟨g', r⟩, hg, he⟩ := Option.map_eq_some_iff.1 h
    cases he
    simp [ih hg]
  | case9 => simp_all

/-- A gap and what follows it are the text. -/
theorem append_of_gap? {cs g rest : List Char} (h : gap? cs = some (g, rest)) : g ++ rest = cs :=
  append_of_gapFrom? h

end Toml
end LintWorkspace
