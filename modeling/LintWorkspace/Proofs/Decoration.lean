/-
# Colour is decoration

A style is switched on and off by escape sequences around a text.  What is left of a report when
they are deleted (`unstyled`) does not depend on whether it is coloured: every part of a report
leaves the same text either way (`Leaves`), whatever its styles.

A report on a ruleset that is not coloured is that text.  A report on a check is not, as soon as
it lists a finding, for the mark at the head of a finding always has its colour
(`decorates_iff`, `not_decorates`).
-/

import Mathlib.Data.List.Forall2
import LintWorkspace.Proofs.Agreement
import LintWorkspace.Report.Ruleset

namespace LintWorkspace

namespace Report

/-! ### Texts without styles -/

/-- The character that starts an escape sequence. -/
def escape : Char := '\x1b'

/-- Whether a character can stand between the numbers of a sequence. -/
def isParameter (c : Char) : Bool := c.isDigit || c = ';'

/-- The number of characters after the escape character in a sequence that sets a style. -/
def sequenceLength? : List Char → Option Nat
  | '[' :: cs =>
    let n := (cs.takeWhile isParameter).length
    if cs[n]? = some 'm' then some (n + 2) else none
  | _ => none

/-- What is left of a text without the sequences that set styles.  The number says how many
characters of the last one are to come. -/
def withoutStyles : Nat → List Char → List Char
  | _, [] => []
  | n + 1, _ :: cs => withoutStyles n cs
  | 0, c :: cs =>
    match if c = escape then sequenceLength? cs else none with
    | some n => withoutStyles n cs
    | none => c :: withoutStyles 0 cs

/-- A text without the sequences that set styles. -/
def unstyled (s : String) : String := String.ofList (withoutStyles 0 s.toList)

/-- A text without escape characters. -/
def Plain (s : String) : Prop := escape ∉ s.toList

instance : DecidablePred Plain := fun s => inferInstanceAs (Decidable (escape ∉ s.toList))

/-- A coloured text that is a plain one and styles. -/
def Decorates (plain coloured : String) : Prop := Plain plain ∧ unstyled coloured = plain

instance (s t : String) : Decidable (Decorates s t) := inferInstanceAs (Decidable (_ ∧ _))

/-- What is left of `s` without styles is `t`, whatever follows. -/
def Leaves (s t : String) : Prop := ∀ rest,
  withoutStyles 0 (s.toList ++ rest) = t.toList ++ withoutStyles 0 rest

variable {s t u v : String} {style : Style} {color : Bool} {cs rest : List Char}

theorem withoutStyles_plain (h : escape ∉ cs) (rest : List Char) :
    withoutStyles 0 (cs ++ rest) = cs ++ withoutStyles 0 rest := by
  induction cs with
  | nil => rfl
  | cons c cs ih =>
    rw [List.mem_cons, not_or] at h
    rw [List.cons_append, withoutStyles, if_neg (Ne.symm h.1), ih h.2]
    rfl

theorem withoutStyles_skip (cs rest : List Char) :
    withoutStyles cs.length (cs ++ rest) = withoutStyles 0 rest := by
  induction cs with
  | nil => rfl
  | cons c cs ih => exact ih

theorem sequenceLength?_switch {code : List Char} (h : ∀ c ∈ code, isParameter c = true)
    (rest : List Char) :
    sequenceLength? ('[' :: (code ++ 'm' :: rest)) = some (code.length + 2) := by
  have htake : (code ++ 'm' :: rest).takeWhile isParameter = code := by
    rw [List.takeWhile_append_of_pos h, List.takeWhile_cons_of_neg (by decide), List.append_nil]
  simp [sequenceLength?, htake]

/-- A sequence that sets a style leaves nothing. -/
theorem withoutStyles_switch {code : List Char} (h : ∀ c ∈ code, isParameter c = true)
    (rest : List Char) :
    withoutStyles 0 (escape :: '[' :: (code ++ 'm' :: rest)) = withoutStyles 0 rest := by
  have hskip := withoutStyles_skip ('[' :: (code ++ ['m'])) rest
  simp only [List.length_cons, List.length_append, List.length_nil, List.cons_append,
    List.append_assoc, List.nil_append] at hskip
  rw [withoutStyles, if_pos rfl, sequenceLength?_switch h]
  exact hskip

/-! ### What is left of a text -/

theorem leaves_of_plain (h : Plain s) : Leaves s s := withoutStyles_plain h

theorem Leaves.append (hs : Leaves s t) (hu : Leaves u v) : Leaves (s ++ u) (t ++ v) :=
  fun rest => by rw [String.toList_append, List.append_assoc, hs, hu, String.toList_append,
    List.append_assoc]

theorem Leaves.unstyled_eq (h : Leaves s t) : unstyled s = t := by
  have hall := h []
  rw [List.append_nil, withoutStyles, List.append_nil] at hall
  rw [unstyled, hall, String.ofList_toList]

theorem toList_paint (style : Style) (s : String) : (style.paint s).toList =
    escape :: '[' :: (style.onCode.toList ++ 'm' ::
      (s.toList ++ escape :: '[' :: (style.offCode.toList ++ ['m']))) := by
  have hopen : "\x1b[".toList = [escape, '['] := rfl
  have hclose : "m".toList = ['m'] := rfl
  simp only [Style.paint, String.toList_append, hopen, hclose, List.append_assoc,
    List.cons_append, List.nil_append]

theorem isParameter_onCode (style : Style) : ∀ c ∈ style.onCode.toList, isParameter c = true :=
  List.all_eq_true.1 (by cases style <;> decide)

theorem isParameter_offCode (style : Style) : ∀ c ∈ style.offCode.toList, isParameter c = true :=
  List.all_eq_true.1 (by cases style <;> decide)

/-- A style leaves nothing of its own. -/
theorem Leaves.paint (h : Leaves s t) (style : Style) : Leaves (style.paint s) t := fun rest => by
  simp only [toList_paint, List.cons_append, List.append_assoc, List.nil_append]
  rw [withoutStyles_switch (isParameter_onCode style), h,
    withoutStyles_switch (isParameter_offCode style)]

theorem Leaves.styled (h : Leaves s t) (color : Bool) (styles : List Style) :
    Leaves (styled color styles s) t := by
  rw [Report.styled]
  split
  · induction styles generalizing s with
    | nil => exact h
    | cons style styles ih => exact ih (h.paint style)
  · exact h

/-- What is left of lines is what is left of each line. -/
theorem Leaves.lines {ls bare : List String} (h : List.Forall₂ Leaves ls bare) :
    Leaves (String.join (ls.map (· ++ "\n"))) (String.join (bare.map (· ++ "\n"))) := by
  induction h with
  | nil => exact fun _ => rfl
  | cons hline _ ih =>
    rw [List.map_cons, List.map_cons, String.join_cons, String.join_cons]
    exact (hline.append (leaves_of_plain (by decide))).append ih

/-! ### Texts without escape characters -/

theorem plain_append : Plain (s ++ t) ↔ Plain s ∧ Plain t := by
  rw [Plain, String.toList_append, List.mem_append, not_or]
  rfl

theorem plain_toString (n : Nat) : Plain (toString n) := by
  have hdigits : (toString n).toList = Nat.toDigits 10 n := by simp
  rw [Plain, hdigits]
  exact fun h => absurd (Nat.isDigit_of_mem_toDigits (by decide) (by decide) h) (by decide)

theorem plain_lines {ls : List String} (h : ∀ line ∈ ls, Plain line) :
    Plain (String.join (ls.map (· ++ "\n"))) := by
  rw [Plain, String.toList_join, List.mem_flatMap]
  rintro ⟨ended, hended, hmem⟩
  obtain ⟨line, hline, rfl⟩ := List.mem_map.1 hended
  exact plain_append.2 ⟨h line hline, by decide⟩ hmem

theorem plain_intercalate {texts : List String} (h : ∀ t ∈ texts, Plain t) :
    Plain ("/".intercalate texts) := by
  rw [Plain, String.toList_intercalate]
  refine (Text.not_mem_intercalate (d := '/') (by decide) _).2 ?_
  simpa [Plain] using h

/-- A component is the sign of where the path starts, or is read from a segment. -/
theorem of_mem_components {p : Path} {c : Component} (hc : c ∈ p.components) :
    c = .root ∨ c = .here ∨ ∃ segment ∈ p.segments, Component.ofSegment? segment = some c := by
  have hsegments : ∀ {segments : List String}, segments ⊆ p.segments →
      c ∈ segments.filterMap Component.ofSegment? →
      ∃ segment ∈ p.segments, Component.ofSegment? segment = some c := fun hsub hc => by
    obtain ⟨segment, hsegment, hof⟩ := List.mem_filterMap.1 hc
    exact ⟨segment, hsub hsegment, hof⟩
  unfold Path.components at hc
  split at hc
  · rename_i hp
    refine (List.mem_cons.1 hc).imp_right fun hc => .inr (hsegments ?_ hc)
    exact hp ▸ List.subset_cons_self _ _
  · rename_i hp
    refine .inr ((List.mem_cons.1 hc).imp_right (hsegments ?_))
    exact hp ▸ List.subset_cons_self _ _
  · exact .inr (.inr (hsegments (List.Subset.refl _) hc))

/-- A component is written as one of the segments it is read from, or as a sign of its own. -/
theorem plain_component {p : Path} (h : ∀ segment ∈ p.segments, Plain segment) :
    ∀ c ∈ p.components, Plain c.text := by
  intro c hc
  rcases of_mem_components hc with rfl | rfl | ⟨segment, hsegment, hof⟩
  · decide
  · decide
  · unfold Component.ofSegment? at hof
    split at hof
    · exact Option.some.inj hof ▸ (by decide : Plain "..")
    · split at hof
      · exact Option.some.inj hof ▸ h segment hsegment
      · simp at hof

/-- What is shown of a path is made of its segments. -/
theorem plain_shownFrom {p : Path} (h : ∀ segment ∈ p.segments, Plain segment) (cwd : Location) :
    Plain (p.shownFrom cwd) := by
  have htext : Plain p.text := plain_intercalate h
  unfold Path.shownFrom
  split
  · rename_i c rest hafter
    split
    · exact htext
    · refine plain_intercalate (List.forall_mem_map.2 fun c' hc' => plain_component h c' ?_)
      rw [Path.eq_append_of_afterPart? hafter]
      exact List.mem_append_right _ hc'
  · exact htext

theorem plain_of_mem_segments_ofText (h : Plain s) :
    ∀ segment ∈ (Path.ofText s).segments, Plain segment := by
  refine List.forall_mem_map.2 fun piece hpiece hmem => h ?_
  rw [String.toList_ofList] at hmem
  exact Text.mem_of_mem_splitOn hpiece hmem

/-! ### The report on a check -/

/-- The mark of a severity, without its colour. -/
def severityIcon : Severity → String
  | .error => "✖"
  | .warn => "▲"
  | .info => "◆"
  | .hidden => "·"

theorem leaves_severityMark (s : Severity) : Leaves (severityMark s) (severityIcon s) := by
  cases s <;> exact Leaves.paint (leaves_of_plain (by decide)) _

theorem leaves_bracketed (color : Bool) (s : Severity) :
    Leaves (bracketed color s) (bracketed false s) :=
  Leaves.styled (leaves_of_plain (by cases s <;> decide)) _ _

namespace Check

/-- A report whose strings hold no escape character. -/
structure EscapeFree (c : Check) : Prop where
  project : Plain c.project
  code : ∀ d ∈ c.diagnostics, Plain d.code
  file : ∀ d ∈ c.diagnostics, Plain d.file
  message : ∀ d ∈ c.diagnostics, Plain d.message

/-- The place of a finding, as it is shown. -/
def shownPlace (cwd : Location) (d : Diagnostic) : String :=
  s!"{(Path.ofText d.file).shownFrom cwd}:{d.line}:{d.column}"

/-- What follows the mark on the line of a finding. -/
def afterMark (cwd : Location) (color : Bool) (d : Diagnostic) : String :=
  " " ++ bracketed color d.severity ++ " " ++ styled color [.bold] (shownPlace cwd d) ++ " ❲" ++
    d.code ++ "❳ — " ++ d.message

theorem diagnosticLine_eq (cwd : Location) (color : Bool) (d : Diagnostic) :
    diagnosticLine cwd color d = severityMark d.severity ++ afterMark cwd color d := by
  simp only [diagnosticLine, afterMark, shownPlace, String.append_assoc]

/-- The line of a finding without its styles. -/
def bareLine (cwd : Location) (d : Diagnostic) : String :=
  severityIcon d.severity ++ afterMark cwd false d

/-- The report for people without its styles. -/
def bare (cwd : Location) (showHidden : Bool) (c : Check) : String :=
  String.join (((c.listed showHidden).map (bareLine cwd) ++ [summaryLine false c]).map (· ++ "\n"))

variable {c : Check} {d : Diagnostic} {showHidden : Bool}

theorem plain_shownPlace (hfile : Plain d.file) (cwd : Location) : Plain (shownPlace cwd d) := by
  have hshown := plain_shownFrom (plain_of_mem_segments_ofText hfile) cwd
  simp only [shownPlace, plain_append]
  exact ⟨⟨⟨⟨hshown, by decide⟩, plain_toString _⟩, by decide⟩, plain_toString _⟩

theorem plain_summaryLine (hc : c.EscapeFree) : Plain (summaryLine false c) := by
  simp only [summaryLine, styled, Bool.false_eq_true, if_false, plain_append, and_assoc]
  exact ⟨by decide, hc.project, by decide, plain_toString _, by decide, plain_toString _,
    by decide, by decide, plain_toString _, by decide, plain_toString _, by decide,
    plain_toString _⟩

theorem plain_afterMark (hc : c.EscapeFree) (hd : d ∈ c.diagnostics) (cwd : Location) :
    Plain (afterMark cwd false d) := by
  have htag : Plain (bracketed false d.severity) := by cases d.severity <;> decide
  simp only [afterMark, styled, Bool.false_eq_true, if_false, plain_append, and_assoc]
  exact ⟨by decide, htag, by decide, plain_shownPlace (hc.file d hd) cwd, by decide,
    hc.code d hd, by decide, hc.message d hd⟩

theorem leaves_diagnosticLine (hc : c.EscapeFree) (hd : d ∈ c.diagnostics) (cwd : Location)
    (color : Bool) : Leaves (diagnosticLine cwd color d) (bareLine cwd d) := by
  have hplace := Leaves.styled (leaves_of_plain (plain_shownPlace (hc.file d hd) cwd)) color [.bold]
  have hblank : Leaves " " " " := leaves_of_plain (by decide)
  have hopen : Leaves " ❲" " ❲" := leaves_of_plain (by decide)
  have hclose : Leaves "❳ — " "❳ — " := leaves_of_plain (by decide)
  rw [diagnosticLine_eq]
  refine (leaves_severityMark d.severity).append ?_
  refine Leaves.append ?_ (leaves_of_plain (hc.message d hd))
  refine Leaves.append ?_ hclose
  refine Leaves.append ?_ (leaves_of_plain (hc.code d hd))
  refine Leaves.append ?_ hopen
  refine Leaves.append ?_ hplace
  exact (hblank.append (leaves_bracketed color d.severity)).append hblank

theorem plain_bareLine (hc : c.EscapeFree) (hd : d ∈ c.diagnostics) (cwd : Location) :
    Plain (bareLine cwd d) :=
  plain_append.2 ⟨by cases d.severity <;> decide, plain_afterMark hc hd cwd⟩

theorem plain_bare (hc : c.EscapeFree) (cwd : Location) (showHidden : Bool) :
    Plain (c.bare cwd showHidden) := by
  refine plain_lines (List.forall_mem_append.2 ⟨List.forall_mem_map.2 fun d hd => ?_, ?_⟩)
  · exact plain_bareLine hc (List.mem_of_mem_filter hd) cwd
  · exact List.forall_mem_singleton.2 (plain_summaryLine hc)

theorem leaves_summaryLine (hc : c.EscapeFree) (color : Bool) :
    Leaves (summaryLine color c) (summaryLine false c) :=
  Leaves.styled (leaves_of_plain (plain_summaryLine hc)) color [.bold]

/-- **What is left of a report does not depend on its colour.** -/
theorem leaves_text (hc : c.EscapeFree) (cwd : Location) (color showHidden : Bool) :
    Leaves (c.text cwd color .human showHidden) (c.bare cwd showHidden) := by
  rw [text, lines, diagnosticLines_eq]
  refine Leaves.lines (List.rel_append ?_ (.cons (leaves_summaryLine hc color) .nil))
  rw [List.forall₂_map_left_iff, List.forall₂_map_right_iff, List.forall₂_same]
  exact fun d hd => leaves_diagnosticLine hc (List.mem_of_mem_filter hd) cwd color

/-- Without colour there are the two sequences of every mark. -/
theorem count_diagnosticLine (hc : c.EscapeFree) (hd : d ∈ c.diagnostics) (cwd : Location) :
    (diagnosticLine cwd false d ++ "\n").toList.count escape = 2 := by
  have hmark : (severityMark d.severity).toList.count escape = 2 := by
    cases d.severity <;> decide
  have hrest : (afterMark cwd false d).toList.count escape = 0 :=
    List.count_eq_zero.2 (plain_afterMark hc hd cwd)
  rw [diagnosticLine_eq, String.toList_append, String.toList_append, List.count_append,
    List.count_append, hmark, hrest]
  rfl

/-- A report without colour has two escape characters for each finding that it lists. -/
theorem count_text (hc : c.EscapeFree) (cwd : Location) (showHidden : Bool) :
    (c.text cwd false .human showHidden).toList.count escape =
      2 * (c.listed showHidden).length := by
  have hsummary : (summaryLine false c ++ "\n").toList.count escape = 0 :=
    List.count_eq_zero.2 (plain_append.2 ⟨plain_summaryLine hc, by decide⟩)
  have hlines : (c.listed showHidden).map
      (fun d => (diagnosticLine cwd false d ++ "\n").toList.count escape) =
        (c.listed showHidden).map fun _ => 2 :=
    List.map_congr_left fun d hd => count_diagnosticLine hc (List.mem_of_mem_filter hd) cwd
  simp only [text, lines, diagnosticLines_eq, String.toList_join, List.count_flatMap,
    List.map_append, List.map_map, List.sum_append, List.map_cons, List.map_nil, List.sum_cons,
    List.sum_nil, Function.comp_def, hsummary, hlines]
  simp [Nat.mul_comm]

/-- **A report without colour is plain if it lists nothing.** -/
theorem decorates_iff (hc : c.EscapeFree) (cwd : Location) (showHidden : Bool) :
    Decorates (c.text cwd false .human showHidden) (c.text cwd true .human showHidden) ↔
      c.listed showHidden = [] := by
  have hcount := count_text hc cwd showHidden
  constructor
  · rintro ⟨hplain, -⟩
    rw [List.count_eq_zero.2 hplain] at hcount
    exact List.length_eq_zero_iff.1 (by omega)
  · intro hnone
    refine ⟨List.count_eq_zero.1 (by rw [hcount, hnone]; rfl), ?_⟩
    rw [(leaves_text hc cwd true showHidden).unstyled_eq]
    simp only [bare, text, lines, diagnosticLines_eq, hnone, List.map_nil]

end Check

end Report

/-! ### The report on a ruleset -/

namespace Ruleset
namespace Resolved

open Report

variable {r : Resolved}

/-- A report whose strings hold no escape character. -/
structure EscapeFree (r : Resolved) : Prop where
  code : ∀ e ∈ r.severities.entries, Plain e.1
  document : ∀ l ∈ r.documents, ∀ n ∈ l.names, Plain n.text

theorem plain_shownDocument (hr : r.EscapeFree) {l : Location} (hl : l ∈ r.documents)
    (cwd : Location) : Plain ("document: " ++ l.toPath.shownFrom cwd) := by
  refine plain_append.2 ⟨by decide, plain_shownFrom (fun segment hsegment => ?_) cwd⟩
  unfold Location.toPath at hsegment
  split at hsegment
  · simp only [List.mem_cons, List.not_mem_nil, or_false, or_self] at hsegment
    exact hsegment ▸ (by decide : Plain "")
  · rcases List.mem_cons.1 hsegment with rfl | hname
    · decide
    · obtain ⟨n, hn, rfl⟩ := List.mem_map.1 hname
      exact hr.document l hl n hn

theorem plain_code (hr : r.EscapeFree) {e : String × Severity} (he : e ∈ r.severities.entries) :
    Plain (bracketed false e.2 ++ " " ++ e.1) := by
  have htag : Plain (bracketed false e.2) := by cases e.2 <;> decide
  exact plain_append.2 ⟨plain_append.2 ⟨htag, by decide⟩, hr.code e he⟩

/-- **Without colour a report on a ruleset is plain.** -/
theorem decorates_text (hr : r.EscapeFree) (cwd : Location) :
    Decorates (r.text cwd false .human) (r.text cwd true .human) := by
  constructor
  · refine plain_lines (List.forall_mem_append.2
      ⟨List.forall_mem_map.2 fun e he => plain_code hr he, List.forall_mem_map.2 fun l hl => ?_⟩)
    exact plain_shownDocument hr hl cwd
  · refine Leaves.unstyled_eq (Leaves.lines (List.rel_append ?_ ?_))
    · rw [List.forall₂_map_left_iff, List.forall₂_map_right_iff, List.forall₂_same]
      exact fun e he => ((leaves_bracketed true e.2).append (leaves_of_plain (by decide))).append
        (leaves_of_plain (hr.code e he))
    · rw [List.forall₂_map_left_iff, List.forall₂_map_right_iff, List.forall₂_same]
      exact fun l hl => Leaves.styled (leaves_of_plain (plain_shownDocument hr hl cwd)) true [.gray]

end Resolved
end Ruleset

namespace Report

open Ruleset (Resolved)

/-- **Colour is only decoration, but for the marks of findings.** Whether a report for people is
coloured, it is the same plain text without its styles.

Without colour a report on a check has the two sequences of the mark of each finding that it
lists, so it is that plain text only if it lists none; a report on a ruleset always is. -/
theorem colour_decorates (cwd : Location) {output : String} (houtput : output ≠ "json") :
    (∀ (c : Check) (showHidden : Bool), c.EscapeFree →
      Plain (c.bare cwd showHidden) ∧
      (∀ color, unstyled (c.text cwd color (.ofText output) showHidden) = c.bare cwd showHidden) ∧
      (c.text cwd false (.ofText output) showHidden).toList.count escape =
        2 * (c.listed showHidden).length ∧
      (Decorates (c.text cwd false (.ofText output) showHidden)
          (c.text cwd true (.ofText output) showHidden) ↔
        c.listed showHidden = [])) ∧
    ∀ r : Resolved, r.EscapeFree →
      Decorates (r.text cwd false (.ofText output)) (r.text cwd true (.ofText output)) := by
  have hhuman : Format.ofText output = .human := if_neg houtput
  rw [hhuman]
  refine ⟨fun c showHidden hc => ⟨?_, fun color => ?_, ?_, ?_⟩, fun r hr => ?_⟩
  · exact Check.plain_bare hc cwd showHidden
  · exact (Check.leaves_text hc cwd color showHidden).unstyled_eq
  · exact Check.count_text hc cwd showHidden
  · exact Check.decorates_iff hc cwd showHidden
  · exact Ruleset.Resolved.decorates_text hr cwd

/-- A report on a check with one finding. -/
def broken : Check :=
  { project := "p"
    diagnostics := [⟨"A", .error, "f.cs", 1, 2, "m"⟩]
    files := 1 }

theorem escapeFree_broken : broken.EscapeFree :=
  ⟨by decide, by decide, by decide, by decide⟩

/-- A ruleset with one code, from one document. -/
def strict : Resolved :=
  { severities := ⟨[("A", .error)], List.pairwise_singleton _ _⟩
    documents := [⟨[⟨"r.toml", by decide⟩]⟩] }

theorem escapeFree_strict : strict.EscapeFree := ⟨by decide, by decide⟩

/-- Two reports in colour, and what is left of them. -/
theorem colour_decorates_broken :
    "human" ≠ "json" ∧ broken.EscapeFree ∧ strict.EscapeFree ∧
      unstyled (broken.text .root true .human false) = "✖ ⟦error⟧ f.cs:1:2 ❲A❳ — m\n" ++
        "— Summary — project=p errors=1 warnings=0 infos=0 hidden=0 files=1\n" ∧
      unstyled (strict.text .root true .human) = "⟦error⟧ A\ndocument: r.toml\n" := by
  have hhuman : "human" ≠ "json" := by decide
  obtain ⟨hcheck, hruleset⟩ := colour_decorates .root hhuman
  obtain ⟨-, hbare, -, -⟩ := hcheck broken false escapeFree_broken
  obtain ⟨-, hplain⟩ := hruleset strict escapeFree_strict
  exact ⟨hhuman, escapeFree_broken, escapeFree_strict, (hbare true).trans (by decide +kernel),
    hplain.trans (by decide +kernel)⟩

/-- **A report without colour need not be plain:** the mark of a finding has its colour. -/
theorem not_decorates : broken.EscapeFree ∧
    ¬ Decorates (broken.text .root false .human false) (broken.text .root true .human false) ∧
    broken.text .root false .human false = "\x1b[31m✖\x1b[39m ⟦error⟧ f.cs:1:2 ❲A❳ — m\n" ++
      "— Summary — project=p errors=1 warnings=0 infos=0 hidden=0 files=1\n" :=
  ⟨escapeFree_broken, by decide +kernel, by decide +kernel⟩

end Report
end LintWorkspace
