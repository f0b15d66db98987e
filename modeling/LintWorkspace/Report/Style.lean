/-
# Styled text for terminals

A style is switched on and off again by an escape sequence around a text.  A
report that is not to be coloured leaves the styles out, with one exception: the
mark at the head of a finding always has its colour.
-/

import LintWorkspace.Severity

namespace LintWorkspace
namespace Report

/-- A way to set off a text. -/
inductive Style where
  | bold
  | red
  | yellow
  | blue
  | gray
deriving DecidableEq, Repr

namespace Style

/-- The number that switches a style on. -/
def onCode : Style → String
  | bold => "1"
  | red => "31"
  | yellow => "33"
  | blue => "34"
  | gray => "90"

/-- The number that switches a style off. -/
def offCode : Style → String
  | bold => "0"
  | _ => "39"

/-- A text in a style. -/
def paint (style : Style) (text : String) : String :=
  "\x1b[" ++ style.onCode ++ "m" ++ text ++ "\x1b[" ++ style.offCode ++ "m"

end Style

/-- A text in several styles, the innermost first, if styles are wanted. -/
def styled (color : Bool) (styles : List Style) (text : String) : String :=
  if color then styles.foldl (fun t s => s.paint t) text else text

/-- The word in front of an error. -/
def errorLabel (color : Bool) : String := styled color [.red, .bold] "error:"

/-- The word in front of a note. -/
def noteLabel (color : Bool) : String := styled color [.gray, .bold] "note:"

/-- The styles of a severity. -/
def severityStyles : Severity → List Style
  | .error => [.red, .bold]
  | .warn => [.yellow, .bold]
  | .info => [.blue, .bold]
  | .hidden => [.gray]

/-- A severity between brackets. -/
def bracketed (color : Bool) (s : Severity) : String :=
  styled color (severityStyles s) ("⟦" ++ s.text ++ "⟧")

/-- The mark of a severity, always in its colour. -/
def severityMark : Severity → String
  | .error => Style.red.paint "✖"
  | .warn => Style.yellow.paint "▲"
  | .info => Style.blue.paint "◆"
  | .hidden => Style.gray.paint "·"

/-- How a report is written. -/
inductive Format where
  | human
  | json
deriving DecidableEq, Repr

/-- The format a word names; every word but `json` names the one for people. -/
def Format.ofText (s : String) : Format := if s = "json" then .json else .human

end Report
end LintWorkspace
