/-
# Named classes of characters

| written | names |
| --- | --- |
| `\d`, `\s`, `\w` | digits, blanks, characters of words |
| `[:alpha:]` and the like | classes of ASCII characters |
| `\pL`, `\p{Greek}`, `\p{gc=Lu}` | categories, scripts and properties |

Names after `\p` are read without regard to case, blanks, `_`, `-` and a leading
`is`.
-/

import LintWorkspace.Unicode.CaseFolding
import LintWorkspace.Unicode.Category
import LintWorkspace.Unicode.Property
import LintWorkspace.Unicode.Script
import LintWorkspace.Unicode.Word

namespace LintWorkspace
namespace Regex

/-- The ASCII characters. -/
def ascii : CharSet := .range 0 0x7F

/-- The digits. -/
def digits (unicode : Bool) : CharSet :=
  if unicode then Unicode.Category.decimalNumber else .range '0'.toNat '9'.toNat

/-- The blanks. -/
def blanks (unicode : Bool) : CharSet :=
  if unicode then Unicode.Property.whiteSpace else .ofRanges [(0x09, 0x0D), (0x20, 0x20)]

/-- The characters of words. -/
def wordChars (unicode : Bool) : CharSet :=
  if unicode then Unicode.word
  else .ofRanges [(0x30, 0x39), (0x41, 0x5A), (0x5F, 0x5F), (0x61, 0x7A)]

/-- The class of ASCII characters with a name. -/
def asciiClass? (name : String) : Option CharSet :=
  match name with
  | "alnum" => some (.ofRanges [(0x30, 0x39), (0x41, 0x5A), (0x61, 0x7A)])
  | "alpha" => some (.ofRanges [(0x41, 0x5A), (0x61, 0x7A)])
  | "ascii" => some ascii
  | "blank" => some (.ofRanges [(0x09, 0x09), (0x20, 0x20)])
  | "cntrl" => some (.ofRanges [(0x00, 0x1F), (0x7F, 0x7F)])
  | "digit" => some (.range 0x30 0x39)
  | "graph" => some (.range 0x21 0x7E)
  | "lower" => some (.range 0x61 0x7A)
  | "print" => some (.range 0x20 0x7E)
  | "punct" => some (.ofRanges [(0x21, 0x2F), (0x3A, 0x40), (0x5B, 0x60), (0x7B, 0x7E)])
  | "space" => some (blanks false)
  | "upper" => some (.range 0x41 0x5A)
  | "word" => some (wordChars false)
  | "xdigit" => some (.ofRanges [(0x30, 0x39), (0x41, 0x46), (0x61, 0x66)])
  | _ => none

open Unicode.Category in
/-- The general categories by their names. -/
def categories : List (List String × CharSet) := [
  (["l", "letter"], letter), (["lc", "casedletter"], casedLetter),
  (["lu", "uppercaseletter"], uppercaseLetter), (["ll", "lowercaseletter"], lowercaseLetter),
  (["lt", "titlecaseletter"], titlecaseLetter), (["lm", "modifierletter"], modifierLetter),
  (["lo", "otherletter"], otherLetter), (["m", "mark", "combiningmark"], mark),
  (["mn", "nonspacingmark"], nonspacingMark), (["mc", "spacingmark"], spacingMark),
  (["me", "enclosingmark"], enclosingMark), (["n", "number"], number),
  (["nd", "decimalnumber", "digit"], decimalNumber), (["nl", "letternumber"], letterNumber),
  (["no", "othernumber"], otherNumber), (["p", "punctuation", "punct"], punctuation),
  (["pc", "connectorpunctuation"], connectorPunctuation),
  (["pd", "dashpunctuation"], dashPunctuation), (["ps", "openpunctuation"], openPunctuation),
  (["pe", "closepunctuation"], closePunctuation),
  (["pi", "initialpunctuation"], initialPunctuation),
  (["pf", "finalpunctuation"], finalPunctuation), (["po", "otherpunctuation"], otherPunctuation),
  (["s", "symbol"], symbol), (["sm", "mathsymbol"], mathSymbol),
  (["sc", "currencysymbol"], currencySymbol), (["sk", "modifiersymbol"], modifierSymbol),
  (["so", "othersymbol"], otherSymbol), (["z", "separator"], separator),
  (["zs", "spaceseparator"], spaceSeparator), (["zl", "lineseparator"], lineSeparator),
  (["zp", "paragraphseparator"], paragraphSeparator), (["c", "other"], other),
  (["cc", "control", "cntrl"], control), (["cf", "format"], format),
  (["co", "privateuse"], privateUse), (["cn", "unassigned"], unassigned),
  (["any"], .all), (["assigned"], unassigned.compl), (["ascii"], ascii)]

open Unicode.Property in
/-- The binary properties by their names. -/
def properties : List (List String × CharSet) := [
  (["alphabetic", "alpha"], alphabetic), (["lowercase", "lower"], lowercase),
  (["uppercase", "upper"], uppercase), (["graphemeextend", "grext"], graphemeExtend),
  (["whitespace", "wspace", "space"], whiteSpace), (["hexdigit", "hex"], hexDigit),
  (["asciihexdigit", "ahex"], asciiHexDigit), (["dash"], dash), (["emoji"], emoji),
  (["ideographic", "ideo"], ideographic), (["math"], math),
  (["quotationmark", "qmark"], quotationMark), (["joincontrol", "joinc"], joinControl),
  (["cased"], cased), (["idstart", "ids"], idStart), (["idcontinue", "idc"], idContinue),
  (["xidstart", "xids"], xidStart), (["xidcontinue", "xidc"], xidContinue)]

/-- A name in lower case, without blanks, `_`, `-`, other characters than ASCII, and a
leading `is`. -/
def plainName (name : List Char) : String :=
  let (isPart, name) := match name with
    | a :: b :: rest =>
      if a.toLower = 'i' && b.toLower = 's' then (true, rest) else (false, name)
    | _ => (false, name)
  let plain := String.ofList <| (name.filter fun c =>
    c.toNat ≤ 0x7F && c ≠ ' ' && c ≠ '_' && c ≠ '-').map Char.toLower
  if isPart && plain = "c" then "isc" else plain

/-- The set under a name, in a list of sets with several names each. -/
def named? (name : String) (sets : List (List String × CharSet)) : Option CharSet :=
  (sets.find? fun s => s.1.contains name).map Prod.snd

/-- The script with a name. -/
def script? (name : String) : Option CharSet := Unicode.Script.named.lookup name

/-- The set named by a single name after `\p`. -/
def propertyNamed? (name : List Char) : Option CharSet :=
  let name := plainName name
  let property := if name = "cf" ∨ name = "sc" ∨ name = "lc" then none else named? name properties
  property.or ((named? name categories).or (script? name))

/-- The set of the characters whose property of a name has a value. -/
def propertyValue? (name value : List Char) : Option CharSet :=
  let value := plainName value
  match plainName name with
  | "generalcategory" => named? value categories
  | "gc" => named? value categories
  | "script" => script? value
  | "sc" => script? value
  | _ => none

end Regex
end LintWorkspace
